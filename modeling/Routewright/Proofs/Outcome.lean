import Mathlib.Data.List.Forall2

/-!
# Outcomes

What a computation that may fail did : each step of it succeeded when it succeeded, and one of them
failed when it failed.
-/

namespace Routewright.Outcome

variable {α β ε ε' : Type}

@[simp] theorem ok_bind (a : α) (f : α → Except ε β) : (Except.ok a >>= f) = f a :=
  rfl

@[simp] theorem error_bind (e : ε) (f : α → Except ε β) : (Except.error e >>= f) = .error e :=
  rfl

@[simp] theorem pure_eq_ok (a : α) : (pure a : Except ε α) = .ok a :=
  rfl

theorem bind_eq_ok {x : Except ε α} {f : α → Except ε β} {b : β} :
    (x >>= f) = .ok b ↔ ∃ a, x = .ok a ∧ f a = .ok b := by
  cases x <;> simp

theorem map_eq_ok {x : Except ε α} {f : α → β} {b : β} :
    x.map f = .ok b ↔ ∃ a, x = .ok a ∧ f a = b := by
  cases x <;> simp [Except.map]

theorem mapError_eq_ok {x : Except ε α} {f : ε → ε'} {a : α} :
    x.mapError f = .ok a ↔ x = .ok a := by
  cases x <;> simp [Except.mapError]

theorem toOption_eq_some {x : Except ε α} {a : α} : x.toOption = some a ↔ x = .ok a := by
  cases x <;> simp [Except.toOption]

theorem bind_eq_error {x : Except ε α} {f : α → Except ε β} {e : ε} :
    (x >>= f) = .error e ↔ x = .error e ∨ ∃ a, x = .ok a ∧ f a = .error e := by
  cases x <;> simp

theorem mapError_eq_error {x : Except ε α} {f : ε → ε'} {e' : ε'} :
    x.mapError f = .error e' ↔ ∃ e, x = .error e ∧ f e = e' := by
  cases x <;> simp [Except.mapError]

/-- A list is mapped when each item is, in order. -/
theorem mapM_eq_ok {f : α → Except ε β} :
    ∀ {items : List α} {results : List β},
      items.mapM f = .ok results ↔ List.Forall₂ (fun a b => f a = .ok b) items results
  | [], results => by
    rw [List.mapM_nil, List.forall₂_nil_left_iff, pure_eq_ok, Except.ok.injEq, eq_comm]
  | a :: items, results => by
    rw [List.mapM_cons, bind_eq_ok, List.forall₂_cons_left_iff]
    refine exists_congr fun b => ?_
    rw [bind_eq_ok]
    constructor
    · rintro ⟨hb, bs, hbs, heq⟩
      exact ⟨bs, hb, mapM_eq_ok.mp hbs, (Except.ok.inj heq).symm⟩
    · rintro ⟨bs, hb, hbs, rfl⟩
      exact ⟨hb, bs, mapM_eq_ok.mpr hbs, rfl⟩

/-- A list is not mapped because of the first of its items that is not. -/
theorem mapM_eq_error_iff {f : α → Except ε β} {e : ε} {items : List α} :
    items.mapM f = .error e ↔ ∃ before a after, items = before ++ a :: after ∧
      (∀ b ∈ before, ∃ result, f b = .ok result) ∧ f a = .error e := by
  constructor
  · intro h
    induction items with
    | nil => cases h
    | cons a items ih =>
      rw [List.mapM_cons] at h
      rcases bind_eq_error.mp h with ha | ⟨b, hb, h⟩
      · exact ⟨[], a, items, rfl, nofun, ha⟩
      rcases bind_eq_error.mp h with hitems | ⟨bs, -, h⟩
      · obtain ⟨before, c, after, rfl, hbefore, hc⟩ := ih hitems
        exact ⟨a :: before, c, after, rfl, List.forall_mem_cons.mpr ⟨⟨b, hb⟩, hbefore⟩, hc⟩
      · cases h
  · rintro ⟨before, a, after, rfl, hbefore, ha⟩
    induction before with
    | nil =>
      rw [List.nil_append, List.mapM_cons, ha]
      rfl
    | cons b before ih =>
      obtain ⟨⟨result, hb⟩, hbefore⟩ := List.forall_mem_cons.mp hbefore
      rw [List.cons_append, List.mapM_cons, hb, ok_bind, ih hbefore]
      rfl

theorem exists_of_mapM_eq_error {f : α → Except ε β} {e : ε} {items : List α}
    (h : items.mapM f = .error e) : ∃ a ∈ items, f a = .error e := by
  obtain ⟨before, a, after, rfl, -, ha⟩ := mapM_eq_error_iff.mp h
  exact ⟨a, List.mem_append_right _ List.mem_cons_self, ha⟩

/-- What a list is mapped from has a counterpart among the results. -/
theorem exists_of_mem_left {R : α → β → Prop} {a : α} :
    ∀ {items : List α} {results : List β}, List.Forall₂ R items results → a ∈ items →
      ∃ b ∈ results, R a b
  | _, _, .cons hab hrest, ha => by
    rcases List.mem_cons.mp ha with rfl | ha
    · exact ⟨_, List.mem_cons_self, hab⟩
    · obtain ⟨b, hb, hR⟩ := exists_of_mem_left hrest ha
      exact ⟨b, List.mem_cons_of_mem _ hb, hR⟩

/-- Lists that become equal by maps do so item by item. -/
theorem map_eq_map_iff_forall₂ {α' : Type} {f : α → β} {g : α' → β} {items : List α}
    {items' : List α'} :
    items.map f = items'.map g ↔ List.Forall₂ (fun a a' => f a = g a') items items' := by
  rw [← List.forall₂_eq_eq_eq, List.forall₂_map_left_iff, List.forall₂_map_right_iff]

/-- A check of all items passes when each passes. -/
theorem forM_eq_ok {f : α → Except ε Unit} :
    ∀ {items : List α}, items.forM f = .ok () ↔ ∀ a ∈ items, f a = .ok ()
  | [] => iff_of_true rfl fun _ h => absurd h List.not_mem_nil
  | a :: items => by
    rw [List.forM, bind_eq_ok, List.forall_mem_cons, ← forM_eq_ok]
    exact ⟨fun ⟨_, ha, hitems⟩ => ⟨ha, hitems⟩, fun ⟨ha, hitems⟩ => ⟨_, ha, hitems⟩⟩

/-- A check of all items fails because of one of them. -/
theorem exists_of_forM_eq_error {f : α → Except ε Unit} {e : ε} :
    ∀ {items : List α}, items.forM f = .error e → ∃ a ∈ items, f a = .error e
  | [], h => nomatch h
  | a :: items, h => by
    rw [List.forM] at h
    rcases bind_eq_error.mp h with ha | ⟨_, -, hitems⟩
    · exact ⟨a, List.mem_cons_self, ha⟩
    · obtain ⟨b, hb, hfault⟩ := exists_of_forM_eq_error hitems
      exact ⟨b, List.mem_cons_of_mem _ hb, hfault⟩

end Routewright.Outcome
