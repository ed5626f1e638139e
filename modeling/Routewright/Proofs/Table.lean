import Mathlib.Data.List.Nodup
import Routewright.Table

/-!
# Keys of tables

Which keys a table has, and what is found under them.
-/

namespace Routewright.Table

variable {α β : Type} [DecidableEq α]

theorem find?_eq_none_iff {key : α} :
    ∀ {table : List (α × β)}, find? key table = none ↔ key ∉ keys table
  | [] => by simp [find?, keys]
  | (k, v) :: rest => by
    have ih : find? key rest = none ↔ key ∉ keys rest := find?_eq_none_iff
    rw [find?, keys, List.map_cons, List.mem_cons, not_or]
    split_ifs with hk
    · simp [hk]
    · rw [ih]
      exact ⟨fun h => ⟨Ne.symm hk, h⟩, And.right⟩

/-- What is found is an entry. -/
theorem mem_of_find? {key : α} {value : β} :
    ∀ {table : List (α × β)}, find? key table = some value → (key, value) ∈ table
  | [], h => by cases h
  | (k, v) :: rest, h => by
    rw [find?] at h
    split_ifs at h with hk
    · cases h
      exact hk ▸ List.mem_cons_self
    · exact List.mem_cons_of_mem _ (mem_of_find? h)

/-- Under distinct keys every entry is found. -/
theorem find?_of_mem {key : α} {value : β} :
    ∀ {table : List (α × β)}, (keys table).Nodup → (key, value) ∈ table →
      find? key table = some value
  | [], _, h => absurd h List.not_mem_nil
  | (k, v) :: rest, hnodup, h => by
    obtain ⟨hk, hnodup⟩ := List.nodup_cons.mp hnodup
    rcases List.mem_cons.mp h with heq | h
    · obtain ⟨rfl, rfl⟩ := Prod.mk.inj heq
      exact if_pos rfl
    · have hkey : key ∈ keys rest := List.mem_map.mpr ⟨_, h, rfl⟩
      have hne : k ≠ key := (ne_of_mem_of_not_mem hkey hk).symm
      rw [find?, if_neg hne, find?_of_mem hnodup h]

/-- Under a key is what was written to it last. -/
theorem find?_put (key : α) (value : β) (k : α) :
    ∀ table : List (α × β), find? k (put key value table) =
      if key = k then some value else find? k table
  | [] => rfl
  | (k', v) :: rest => by
    by_cases hkey : k' = key
    · subst hkey
      rw [put, if_pos rfl, find?, find?]
      split_ifs <;> rfl
    · rw [put, if_neg hkey, find?, find?, find?_put key value k rest]
      split_ifs with hk hk'
      · exact absurd (hk.trans hk'.symm) hkey
      · rfl
      · rfl
      · rfl

/-- Nothing is under a key whose entries are taken out, and nothing else is missed. -/
theorem find?_filter_ne (key k : α) :
    ∀ table : List (α × β), find? k (table.filter fun e => e.1 ≠ key) =
      if key = k then none else find? k table
  | [] => (ite_self none).symm
  | (k', v) :: rest => by
    have ih := find?_filter_ne key k rest
    by_cases hkey : k' = key
    · subst hkey
      rw [List.filter_cons_of_neg (by simp), ih, find?]
      split_ifs <;> rfl
    · rw [List.filter_cons_of_pos (by simpa using hkey), find?, find?, ih]
      split_ifs with hk hk'
      · exact absurd (hk.trans hk'.symm) hkey
      · rfl
      · rfl
      · rfl

/-- A key that is new goes to the end. -/
theorem put_of_not_mem {key : α} (value : β) :
    ∀ {table : List (α × β)}, key ∉ keys table → put key value table = table ++ [(key, value)]
  | [], _ => rfl
  | (k, v) :: rest, h => by
    obtain ⟨hk, hrest⟩ := not_or.mp (mt List.mem_cons.mpr h)
    rw [put, if_neg (Ne.symm hk), put_of_not_mem value hrest, List.cons_append]

/-- Entries under distinct new keys go to the end in order. -/
theorem foldl_put_of_not_mem :
    ∀ {entries table : List (α × β)}, (keys entries).Nodup →
      (∀ key ∈ keys entries, key ∉ keys table) →
      entries.foldl (fun table e => put e.1 e.2 table) table = table ++ entries
  | [], table, _, _ => (List.append_nil table).symm
  | (key, value) :: entries, table, hnodup, hnew => by
    obtain ⟨hkey, hnodup⟩ := List.nodup_cons.mp hnodup
    obtain ⟨hfree, hnew⟩ := List.forall_mem_cons.mp hnew
    -- the entry that is written now is under another key than those that follow
    have hnext : ∀ other ∈ keys entries, other ∉ keys (table ++ [(key, value)]) := by
      intro other hother
      rw [keys, List.map_append, List.mem_append, not_or]
      exact ⟨hnew other hother, fun h => hkey (List.mem_singleton.mp h ▸ hother)⟩
    rw [List.foldl_cons, put_of_not_mem value hfree, foldl_put_of_not_mem hnodup hnext,
      List.append_assoc, List.singleton_append]

/-- What is in a table was there or was written. -/
theorem mem_put {key : α} {value : β} {entry : α × β} :
    ∀ {table : List (α × β)}, entry ∈ put key value table → entry = (key, value) ∨ entry ∈ table
  | [], h => .inl (List.mem_singleton.mp h)
  | (k, v) :: rest, h => by
    unfold put at h
    split_ifs at h with hk
    · subst hk
      exact (List.mem_cons.mp h).imp_right (List.mem_cons_of_mem _)
    · rcases List.mem_cons.mp h with rfl | h
      · exact .inr List.mem_cons_self
      · exact (mem_put h).imp_right (List.mem_cons_of_mem _)

theorem mem_foldl_put {entry : α × β} :
    ∀ {entries table : List (α × β)},
      entry ∈ entries.foldl (fun table e => put e.1 e.2 table) table →
      entry ∈ entries ∨ entry ∈ table
  | [], _, h => .inr h
  | (key, value) :: entries, table, h => by
    rw [List.foldl_cons] at h
    rcases mem_foldl_put h with h | h
    · exact .inl (List.mem_cons_of_mem _ h)
    · rcases mem_put h with rfl | h
      · exact .inl List.mem_cons_self
      · exact .inr h

/-- Distinct keys find the values that they are paired with. -/
theorem map_find?_zip (rest : List (α × β)) :
    ∀ {keys : List α} {values : List β}, keys.Nodup → keys.length = values.length →
      keys.map (fun key => find? key (keys.zip values ++ rest)) = values.map some
  | [], [], _, _ => rfl
  | [], _ :: _, _, hlen => absurd hlen.symm (Nat.succ_ne_zero _)
  | _ :: _, [], _, hlen => absurd hlen (Nat.succ_ne_zero _)
  | k :: keys, v :: values, hnodup, hlen => by
    obtain ⟨hk, hnodup⟩ := List.nodup_cons.mp hnodup
    have htail : ∀ key ∈ keys, find? key ((k, v) :: (keys.zip values ++ rest)) =
        find? key (keys.zip values ++ rest) := fun key hkey =>
      if_neg (ne_of_mem_of_not_mem hkey hk).symm
    rw [List.zip_cons_cons, List.cons_append, List.map_cons, List.map_congr_left htail,
      map_find?_zip rest hnodup (Nat.succ.inj hlen), find?, if_pos rfl, List.map_cons]

/-- Each key finds the value that is made from it. -/
theorem find?_map_of_mem {key : α} (value : α → β) :
    ∀ {keys : List α}, key ∈ keys →
      find? key (keys.map fun k => (k, value k)) = some (value key)
  | k :: keys, h => by
    rw [List.map_cons, find?]
    split_ifs with hk
    · rw [hk]
    · exact find?_map_of_mem value ((List.mem_cons.mp h).resolve_left (Ne.symm hk))

/-- A key outside of a pairing is looked up behind it. -/
theorem find?_zip_append {key : α} (rest : List (α × β)) :
    ∀ {keys : List α} (values : List β), key ∉ keys →
      find? key (keys.zip values ++ rest) = find? key rest
  | [], _, _ => rfl
  | _ :: _, [], _ => rfl
  | k :: keys, v :: values, h => by
    obtain ⟨hk, hkeys⟩ := not_or.mp (mt List.mem_cons.mpr h)
    rw [List.zip_cons_cons, List.cons_append, find?, if_neg (Ne.symm hk),
      find?_zip_append rest values hkeys]

/-! ## Keys that are written again -/

/-- Writing to a key adds it unless it is there. -/
theorem keys_put (key : α) (value : β) :
    ∀ table : List (α × β), keys (put key value table) = insert key (keys table)
  | [] => rfl
  | (k, v) :: rest => by
    rw [put]
    split_ifs with hk
    · subst hk
      exact (if_pos List.mem_cons_self).symm
    · have hmem : key ∈ keys ((k, v) :: rest) ↔ key ∈ keys rest := by
        rw [keys, List.map_cons, List.mem_cons]
        exact or_iff_right (Ne.symm hk)
      have ih := keys_put key value rest
      unfold insert at ih ⊢
      rw [keys, List.map_cons, ← keys, ih]
      simp only [hmem]
      split_ifs <;> rfl

/-- A table has the keys that were written, each where it was written first. -/
theorem keys_ofList (entries : List (α × β)) : keys (ofList entries) = distinct (keys entries) := by
  have hfold : ∀ (entries table : List (α × β)),
      keys (entries.foldl (fun table e => put e.1 e.2 table) table) =
        (keys entries).foldl (fun seen key => insert key seen) (keys table) := by
    intro entries
    induction entries with
    | nil => exact fun _ => rfl
    | cons e entries ih =>
      intro table
      rw [List.foldl_cons, ih, keys_put]
      rfl
  exact hfold entries []

theorem foldl_insert_of_nodup :
    ∀ {items seen : List α}, (seen ++ items).Nodup →
      items.foldl (fun seen item => insert item seen) seen = seen ++ items
  | [], seen, _ => (List.append_nil seen).symm
  | item :: items, seen, h => by
    have hnew : item ∉ seen := fun hmem =>
      (List.nodup_append'.mp h).2.2 hmem List.mem_cons_self
    rw [List.foldl_cons, insert, if_neg hnew, foldl_insert_of_nodup (by simpa using h),
      List.append_assoc, List.singleton_append]

/-- Of items, those are added that are not there, in order. -/
theorem exists_foldl_insert :
    ∀ (items : List α) {seen : List α}, seen.Nodup → ∃ kept,
      items.foldl (fun seen item => insert item seen) seen = seen ++ kept ∧
        kept.Sublist items ∧ (seen ++ kept).Nodup ∧ items ⊆ seen ++ kept
  | [], seen, h => ⟨[], (List.append_nil seen).symm, .slnil, by rwa [List.append_nil], nofun⟩
  | item :: items, seen, h => by
    rw [List.foldl_cons, insert]
    split_ifs with hmem
    · obtain ⟨kept, heq, hsub, hnodup, hall⟩ := exists_foldl_insert items h
      exact ⟨kept, heq, .cons _ hsub, hnodup,
        List.cons_subset.mpr ⟨List.mem_append_left _ hmem, hall⟩⟩
    · have hseen : (seen ++ [item]).Nodup := by
        rw [List.nodup_append']
        exact ⟨h, List.nodup_singleton item, List.disjoint_singleton.mpr hmem⟩
      obtain ⟨kept, heq, hsub, hnodup, hall⟩ := exists_foldl_insert items hseen
      rw [List.append_assoc, List.singleton_append] at heq hnodup hall
      exact ⟨item :: kept, heq, .cons_cons _ hsub, hnodup,
        List.cons_subset.mpr ⟨List.mem_append_right _ List.mem_cons_self, hall⟩⟩

/-- The distinct items of a list are some of its items, in order, and none twice. -/
theorem distinct_spec (items : List α) :
    (distinct items).Sublist items ∧ (distinct items).Nodup ∧ items ⊆ distinct items := by
  obtain ⟨kept, heq, hsub, hnodup, hall⟩ := exists_foldl_insert items List.nodup_nil
  rw [List.nil_append] at heq hnodup hall
  rw [distinct, heq]
  exact ⟨hsub, hnodup, hall⟩

theorem distinct_sublist (items : List α) : (distinct items).Sublist items :=
  (distinct_spec items).1

theorem nodup_distinct (items : List α) : (distinct items).Nodup :=
  (distinct_spec items).2.1

theorem mem_distinct {item : α} {items : List α} : item ∈ distinct items ↔ item ∈ items :=
  ⟨fun h => (distinct_sublist items).subset h, fun h => (distinct_spec items).2.2 h⟩

theorem distinct_eq_self_iff {items : List α} : distinct items = items ↔ items.Nodup := by
  refine ⟨fun h => h ▸ nodup_distinct items, fun h => ?_⟩
  have hnil : ([] ++ items).Nodup := h
  exact foldl_insert_of_nodup hnil

/-- Items are added alike under other names that tell them apart. -/
theorem map_insert {γ : Type} [DecidableEq γ] {f : α → γ} (hf : Function.Injective f) (item : α)
    (items : List α) : (insert item items).map f = insert (f item) (items.map f) := by
  simp only [insert, List.mem_map_of_injective hf]
  split_ifs
  · rfl
  · rw [List.map_append, List.map_singleton]

/-- Entries make a table as they are just when no key is written again. -/
theorem ofList_eq_self_iff {entries : List (α × β)} :
    ofList entries = entries ↔ (keys entries).Nodup := by
  constructor
  · intro h
    rw [← h, keys_ofList]
    exact nodup_distinct _
  · intro h
    exact foldl_put_of_not_mem h fun _ _ => List.not_mem_nil

theorem flatMap_distinct_sublist {ι : Type} (f : ι → List α) :
    ∀ lists : List ι, (lists.flatMap fun l => distinct (f l)).Sublist (lists.flatMap f)
  | [] => .slnil
  | l :: lists => (distinct_sublist (f l)).append (flatMap_distinct_sublist f lists)

/-- Of lists of items in a row, items are left out unless none of the lists repeats one. -/
theorem flatMap_distinct_eq_iff {ι : Type} {f : ι → List α} :
    ∀ {lists : List ι}, lists.flatMap (fun l => distinct (f l)) = lists.flatMap f ↔
      ∀ l ∈ lists, (f l).Nodup
  | [] => iff_of_true rfl nofun
  | l :: lists => by
    rw [List.flatMap_cons, List.flatMap_cons, List.forall_mem_cons, ← distinct_eq_self_iff,
      ← flatMap_distinct_eq_iff]
    constructor
    · intro h
      refine (List.append_inj h ?_)
      -- each part is no longer than what it is a part of
      have hlength := congrArg List.length h
      have hhead := (distinct_sublist (f l)).length_le
      have htail := (flatMap_distinct_sublist f lists).length_le
      rw [List.length_append, List.length_append] at hlength
      omega
    · rintro ⟨hhead, htail⟩
      rw [hhead, htail]

/-! ## Entries that are written over -/

/-- Where keys are distinct, writing to one replaces its entry and keeps the others. -/
theorem mem_put_iff {key : α} {value : β} {entry : α × β} :
    ∀ {table : List (α × β)}, (keys table).Nodup →
      (entry ∈ put key value table ↔ entry = (key, value) ∨ (entry ∈ table ∧ entry.1 ≠ key))
  | [], _ => by simp [put]
  | (k, v) :: rest, h => by
    obtain ⟨hk, hrest⟩ := List.nodup_cons.mp h
    rw [put]
    split_ifs with hkey
    · subst hkey
      have hother : entry ∈ rest → entry.1 ≠ k := fun hmem heq =>
        hk (List.mem_map.mpr ⟨entry, hmem, heq⟩)
      rw [List.mem_cons, List.mem_cons]
      refine or_congr_right ⟨fun hmem => ⟨.inr hmem, hother hmem⟩, ?_⟩
      rintro ⟨rfl | hmem, hne⟩
      · exact absurd rfl hne
      · exact hmem
    · rw [List.mem_cons, mem_put_iff hrest, List.mem_cons, or_and_right, or_left_comm]
      refine or_congr_right (or_congr_left (iff_self_and.mpr ?_))
      rintro rfl
      exact hkey

/-- An entry that none of the entries after it takes the place of. -/
def IsLast (entry : α × β) (entries : List (α × β)) : Prop :=
  ∃ before after, entries = before ++ entry :: after ∧ entry.1 ∉ keys after

omit [DecidableEq α] in
theorem isLast_cons_iff {entry first : α × β} {entries : List (α × β)} :
    IsLast entry (first :: entries) ↔
      (entry = first ∧ entry.1 ∉ keys entries) ∨ IsLast entry entries := by
  constructor
  · rintro ⟨before, after, heq, hafter⟩
    rcases List.cons_eq_append_iff.mp heq with ⟨-, heq⟩ | ⟨before, -, heq⟩
    · obtain ⟨rfl, rfl⟩ := List.cons.inj heq
      exact .inl ⟨rfl, hafter⟩
    · exact .inr ⟨before, after, heq, hafter⟩
  · rintro (⟨rfl, hafter⟩ | ⟨before, after, rfl, hafter⟩)
    · exact ⟨[], entries, rfl, hafter⟩
    · exact ⟨first :: before, after, rfl, hafter⟩

omit [DecidableEq α] in
/-- A table that is written to has the last entry of each key, and keeps what is under others. This
holds of any way to `write` that replaces the entry of a key in all tables that are `Kept`. -/
theorem mem_foldl_write_iff {write : α → β → List (α × β) → List (α × β)}
    {Kept : List (α × β) → Prop}
    (hkept : ∀ {table : List (α × β)} (key : α) (value : β), Kept table →
      Kept (write key value table))
    (hwrite : ∀ {table : List (α × β)} {key : α} {value : β} {entry : α × β}, Kept table →
      (entry ∈ write key value table ↔ entry = (key, value) ∨ (entry ∈ table ∧ entry.1 ≠ key)))
    {entry : α × β} {entries table : List (α × β)} (h : Kept table) :
    entry ∈ entries.foldl (fun table e => write e.1 e.2 table) table ↔
      IsLast entry entries ∨ (entry ∈ table ∧ entry.1 ∉ keys entries) := by
  induction entries generalizing table with
  | nil =>
    have hnone : ¬IsLast entry ([] : List (α × β)) := fun ⟨_, _, heq, _⟩ =>
      List.append_ne_nil_of_right_ne_nil _ (List.cons_ne_nil _ _) heq.symm
    rw [List.foldl_nil, or_iff_right hnone]
    exact (and_iff_left List.not_mem_nil).symm
  | cons first entries ih =>
    obtain ⟨key, value⟩ := first
    have hkeys : entry.1 ∉ keys ((key, value) :: entries) ↔
        entry.1 ≠ key ∧ entry.1 ∉ keys entries := by
      rw [keys, List.map_cons, List.mem_cons, not_or]
      rfl
    rw [List.foldl_cons, ih (hkept key value h), hwrite h, isLast_cons_iff, hkeys, or_and_right,
      and_assoc, or_left_comm, or_assoc]

theorem nodup_keys_put {table : List (α × β)} (key : α) (value : β) (h : (keys table).Nodup) :
    (keys (put key value table)).Nodup := by
  rw [keys_put]
  unfold insert
  split_ifs with hmem
  · exact h
  · exact List.nodup_append'.mpr ⟨h, List.nodup_singleton key, List.disjoint_singleton.mpr hmem⟩

/-- The entries that are written one after the other leave the last of each key. -/
theorem mem_ofList_iff {entry : α × β} {entries : List (α × β)} :
    entry ∈ ofList entries ↔ IsLast entry entries := by
  have hnodup : (keys ([] : List (α × β))).Nodup := List.nodup_nil
  rw [ofList, mem_foldl_write_iff nodup_keys_put mem_put_iff hnodup]
  exact or_iff_left fun h => List.not_mem_nil h.1

end Routewright.Table
