import Mathlib.Data.List.Lex
import Mathlib.Data.List.Nodup
import Mathlib.Data.String.Basic
import Routewright.Proofs.Table
import Routewright.Sorted

/-!
# Increasing lists stay increasing

Insertion into an increasing list keeps it increasing, so that no item is there twice, and adds the
one item (`Increasing.insert`, `mem_insert`). A table written to by `put` has its keys inserted in
the same way (`keys_put`).
-/

namespace Routewright.Sorted

variable {α β : Type} {before : α → α → Bool}

/-- A comparison that puts no item before itself, and one before all that another is before. -/
structure IsStrict (before : α → α → Bool) : Prop where
  irrefl : ∀ x, ¬ before x x
  trans : ∀ {x y z}, before x y → before y z → before x z

/-- A comparison that puts any two items in order. -/
structure IsLinear (before : α → α → Bool) : Prop extends IsStrict before where
  eq_of_not_before : ∀ {x y}, ¬ before x y → ¬ before y x → x = y

/-- A comparison that decides a linear order puts any two items in order. -/
theorem isLinear_of_lt [LinearOrder α] (h : ∀ x y, before x y ↔ x < y) : IsLinear before where
  irrefl x hx := lt_irrefl x ((h x x).mp hx)
  trans {x y z} hxy hyz := (h x z).mpr (((h x y).mp hxy).trans ((h y z).mp hyz))
  eq_of_not_before {x y} hxy hyx :=
    le_antisymm (not_lt.mp (mt (h y x).mpr hyx)) (not_lt.mp (mt (h x y).mpr hxy))

theorem isLinear_textBefore : IsLinear textBefore :=
  isLinear_of_lt fun _ _ => decide_eq_true_iff

theorem rowBefore_iff {s t : List String} : rowBefore s t ↔ s < t :=
  decide_eq_true_iff

theorem isLinear_rowBefore : IsLinear rowBefore :=
  isLinear_of_lt fun _ _ => rowBefore_iff

/-- A list in which each item is before all that follow. -/
def Increasing (before : α → α → Bool) (items : List α) : Prop :=
  items.Pairwise fun x y => before x y

theorem Increasing.nodup {items : List α} (hstrict : IsStrict before)
    (h : Increasing before items) : items.Nodup := by
  refine List.Pairwise.imp (fun {x y} hxy heq => ?_) h
  rw [heq] at hxy
  exact hstrict.irrefl y hxy

/-- An insertion adds the item and nothing else if it only counts as one with itself. -/
theorem mem_insert_of {x z : α} :
    ∀ {items : List α}, (∀ y ∈ items, ¬ before x y → ¬ before y x → x = y) →
      (z ∈ insert before x items ↔ z = x ∨ z ∈ items)
  | [], _ => List.mem_cons
  | y :: ys, heq => by
    obtain ⟨hy, hys⟩ := List.forall_mem_cons.mp heq
    unfold insert
    split_ifs with hxy hyx
    · exact List.mem_cons
    · rw [List.mem_cons, mem_insert_of hys, List.mem_cons]
      exact or_left_comm
    · rw [hy hxy hyx, List.mem_cons]
      exact or_self_left.symm

/-- An insertion adds the item and nothing else. -/
theorem mem_insert (hlinear : IsLinear before) {x z : α} {items : List α} :
    z ∈ insert before x items ↔ z = x ∨ z ∈ items :=
  mem_insert_of fun _ _ => hlinear.eq_of_not_before

/-- An insertion adds nothing but the item, whatever the comparison. -/
theorem of_mem_insert {x z : α} :
    ∀ {items : List α}, z ∈ insert before x items → z = x ∨ z ∈ items
  | [], h => List.mem_cons.mp h
  | y :: ys, h => by
    unfold insert at h
    split_ifs at h
    · exact List.mem_cons.mp h
    · rcases List.mem_cons.mp h with rfl | h
      · exact .inr List.mem_cons_self
      · exact (of_mem_insert h).imp_right (List.mem_cons_of_mem _)
    · exact .inr h

/-- Many insertions add nothing but the items, whatever the comparison. -/
theorem of_mem_foldl_insert {z : α} :
    ∀ (new : List α) {items : List α},
      z ∈ new.foldl (fun all x => insert before x all) items → z ∈ new ∨ z ∈ items
  | [], _, h => .inr h
  | x :: new, items, h => by
    rcases of_mem_foldl_insert new h with h | h
    · exact .inl (List.mem_cons_of_mem _ h)
    · exact (of_mem_insert h).imp_left fun heq => List.mem_cons.mpr (.inl heq)

/-- An insertion keeps a list increasing. -/
theorem Increasing.insert (hstrict : IsStrict before) (x : α) :
    ∀ {items : List α}, Increasing before items → Increasing before (insert before x items)
  | [], _ => List.pairwise_singleton _ x
  | y :: ys, h => by
    obtain ⟨hy, hys⟩ := List.pairwise_cons.mp h
    unfold Sorted.insert
    split_ifs with hxy hyx
    · refine List.pairwise_cons.mpr ⟨fun z hz => ?_, h⟩
      rcases List.mem_cons.mp hz with rfl | hz
      · exact hxy
      · exact hstrict.trans hxy (hy z hz)
    · refine List.pairwise_cons.mpr ⟨fun z hz => ?_, Increasing.insert hstrict x hys⟩
      rcases of_mem_insert hz with rfl | hz
      · exact hyx
      · exact hy z hz
    · exact h

/-- Many insertions keep a list increasing. -/
theorem Increasing.foldl_insert (hstrict : IsStrict before) :
    ∀ (new : List α) {items : List α}, Increasing before items →
      Increasing before (new.foldl (fun all x => Sorted.insert before x all) items)
  | [], _, h => h
  | x :: new, _, h => Increasing.foldl_insert hstrict new (h.insert hstrict x)

/-- Many insertions add the items and nothing else if none but equal ones count as one. -/
theorem mem_foldl_insert_of {P : α → Prop}
    (heq : ∀ {x y}, P x → P y → ¬ before x y → ¬ before y x → x = y) {z : α} :
    ∀ {new items : List α}, (∀ x ∈ new, P x) → (∀ y ∈ items, P y) →
      (z ∈ new.foldl (fun all x => insert before x all) items ↔ z ∈ new ∨ z ∈ items)
  | [], _, _, _ => by simp
  | x :: new, items, hnew, hitems => by
    obtain ⟨hx, hnew⟩ := List.forall_mem_cons.mp hnew
    have hinserted : ∀ y ∈ insert before x items, P y := fun y hy =>
      (of_mem_insert hy).elim (fun h => h ▸ hx) (hitems y)
    rw [List.foldl_cons, mem_foldl_insert_of heq hnew hinserted,
      mem_insert_of fun y hy => heq hx (hitems y hy), List.mem_cons, or_assoc]
    exact or_left_comm

/-- Many insertions add the items and nothing else. -/
theorem mem_foldl_insert (hlinear : IsLinear before) {z : α} {new items : List α} :
    z ∈ new.foldl (fun all x => insert before x all) items ↔ z ∈ new ∨ z ∈ items :=
  mem_foldl_insert_of (P := fun _ => True) (fun _ _ => hlinear.eq_of_not_before)
    (fun _ _ => trivial) fun _ _ => trivial

theorem mem_texts {z : String} {items : List String} : z ∈ texts items ↔ z ∈ items := by
  rw [texts, ofList, mem_foldl_insert isLinear_textBefore]
  simp

/-- Writing to a key inserts it among the keys. -/
theorem keys_put (hlinear : IsLinear before) (key : α) (value : β) :
    ∀ table : List (α × β),
      Table.keys (put before key value table) = insert before key (Table.keys table)
  | [] => rfl
  | (k, v) :: rest => by
    have ih := keys_put hlinear key value rest
    rw [Table.keys] at ih
    unfold put
    rw [Table.keys, Table.keys, List.map_cons, Sorted.insert]
    split_ifs with hkey hk
    · rfl
    · rw [List.map_cons, ih, Table.keys]
    · rw [List.map_cons, hlinear.eq_of_not_before hkey hk]

/-- Under the key that is written to, the new value is found. -/
theorem find?_put_self [DecidableEq α] (hlinear : IsLinear before) (key : α) (value : β) :
    ∀ table : List (α × β), Table.find? key (put before key value table) = some value
  | [] => if_pos rfl
  | (k, v) :: rest => by
    unfold put
    split_ifs with hkey hk
    · exact if_pos rfl
    · have hne : k ≠ key := fun heq => hlinear.irrefl key (heq ▸ hk)
      rw [Table.find?, if_neg hne, find?_put_self hlinear key value rest]
    · exact if_pos rfl

/-- Under any other key, what was there is found. -/
theorem find?_put_of_ne [DecidableEq α] (hlinear : IsLinear before) {key other : α}
    (hne : key ≠ other) (value : β) :
    ∀ table : List (α × β),
      Table.find? other (put before key value table) = Table.find? other table
  | [] => if_neg hne
  | (k, v) :: rest => by
    unfold put
    split_ifs with hkey hk
    · exact if_neg hne
    · rw [Table.find?, Table.find?, find?_put_of_ne hlinear hne value rest]
    · obtain rfl := hlinear.eq_of_not_before hkey hk
      rw [Table.find?, Table.find?, if_neg hne, if_neg hne]

/-- The entries of a table written to are the new one and old ones. -/
theorem mem_put {key : α} {value : β} {entry : α × β} :
    ∀ {table : List (α × β)}, entry ∈ put before key value table →
      entry = (key, value) ∨ entry ∈ table
  | [], h => List.mem_cons.mp h
  | (k, v) :: rest, h => by
    unfold put at h
    split_ifs at h
    · exact List.mem_cons.mp h
    · rcases List.mem_cons.mp h with rfl | h
      · exact .inr List.mem_cons_self
      · exact (mem_put h).imp_right (List.mem_cons_of_mem _)
    · exact (List.mem_cons.mp h).imp_right (List.mem_cons_of_mem _)

end Routewright.Sorted
