import Routewright.Normalization
import Routewright.Proofs.Sorted

/-!
# One path for each shape

Paths are written into a table under their shapes, so that of each shape the last path is left, and
the table is kept in the order of shapes (`Endpoint.mem_paths_collapsePaths_iff`,
`Endpoint.increasing_shapes_collapsePaths`). Paths that are in this order already stay as they are.
-/

namespace Routewright

/-! ## Tables in order -/

namespace Sorted

variable {α β : Type} {before : α → α → Bool}

/-- A table whose keys are in order, each there once. -/
def Ranked (before : α → α → Bool) (table : List (α × β)) : Prop :=
  Increasing before (Table.keys table)

theorem Ranked.put (hlinear : IsLinear before) {table : List (α × β)} (key : α) (value : β)
    (h : Ranked before table) : Ranked before (put before key value table) := by
  rw [Ranked, keys_put hlinear]
  exact h.insert hlinear.toIsStrict key

/-- In a table in order, writing to a key replaces its entry and keeps the others. -/
theorem mem_put_iff (hlinear : IsLinear before) {key : α} {value : β} {entry : α × β} :
    ∀ {table : List (α × β)}, Ranked before table →
      (entry ∈ put before key value table ↔ entry = (key, value) ∨ (entry ∈ table ∧ entry.1 ≠ key))
  | [], _ => by simp [Sorted.put]
  | (k, v) :: rest, h => by
    obtain ⟨hk, hrest⟩ := List.pairwise_cons.mp h
    have hafter : entry ∈ rest → before k entry.1 := fun hmem =>
      hk entry.1 (List.mem_map_of_mem hmem)
    have hne {x y : α} (hxy : before x y) : y ≠ x := fun heq =>
      hlinear.irrefl x (heq ▸ hxy)
    unfold Sorted.put
    split_ifs with hkey hk'
    · -- the key is before all that are there
      have hall : entry ∈ (k, v) :: rest → entry.1 ≠ key := fun hmem => by
        rcases List.mem_cons.mp hmem with rfl | hmem
        · exact hne hkey
        · exact hne (hlinear.trans hkey (hafter hmem))
      rw [List.mem_cons]
      exact or_congr_right (iff_self_and.mpr hall)
    · rw [List.mem_cons, mem_put_iff hlinear hrest, List.mem_cons, or_and_right, or_left_comm]
      refine or_congr_right (or_congr_left (iff_self_and.mpr ?_))
      rintro rfl
      exact (hne hk').symm
    · obtain rfl := hlinear.eq_of_not_before hkey hk'
      rw [List.mem_cons, List.mem_cons, or_and_right]
      have hself : ¬(entry = (key, v) ∧ entry.1 ≠ key) := fun ⟨heq, hother⟩ =>
        hother (congrArg Prod.fst heq)
      rw [or_iff_right hself]
      exact or_congr_right (iff_self_and.mpr fun hmem => hne (hafter hmem))

/-- Writing one entry after the other inserts their keys. -/
theorem keys_foldl_put (hlinear : IsLinear before) :
    ∀ (entries table : List (α × β)),
      Table.keys (entries.foldl (fun table e => put before e.1 e.2 table) table) =
        (Table.keys entries).foldl (fun all key => insert before key all) (Table.keys table)
  | [], _ => rfl
  | e :: entries, table => by
    rw [List.foldl_cons, keys_foldl_put hlinear entries, keys_put hlinear]
    rfl

/-- A key after all others goes to the end. -/
theorem put_of_forall_before (hstrict : IsStrict before) {key : α} (value : β) :
    ∀ {table : List (α × β)}, (∀ k ∈ Table.keys table, before k key) →
      put before key value table = table ++ [(key, value)]
  | [], _ => rfl
  | (k, v) :: rest, h => by
    obtain ⟨hk, hrest⟩ := List.forall_mem_cons.mp h
    have hnot : ¬before key k := fun hkey => hstrict.irrefl k (hstrict.trans hk hkey)
    rw [Sorted.put, if_neg hnot, if_pos hk, put_of_forall_before hstrict value hrest,
      List.cons_append]

/-- Entries that are in order, and after all that are there, go to the end. -/
theorem foldl_put_of_ranked (hstrict : IsStrict before) :
    ∀ {entries table : List (α × β)}, Ranked before (table ++ entries) →
      entries.foldl (fun table e => put before e.1 e.2 table) table = table ++ entries
  | [], table, _ => (List.append_nil table).symm
  | (key, value) :: entries, table, h => by
    have hbefore : ∀ k ∈ Table.keys table, before k key := by
      rw [Ranked, Table.keys, List.map_append] at h
      exact fun k hk => (List.pairwise_append.mp h).2.2 k hk key List.mem_cons_self
    have hrest : Ranked before ((table ++ [(key, value)]) ++ entries) := by
      rw [List.append_assoc]
      exact h
    rw [List.foldl_cons, put_of_forall_before hstrict value hbefore,
      foldl_put_of_ranked hstrict hrest, List.append_assoc, List.singleton_append]

end Sorted

/-! ## Shapes of paths -/

/-- The shapes of paths in order. -/
def shapesOf (paths : List UrlPath) : List (List String) :=
  paths.map UrlPath.params

/-- A path that none of the paths after it has the shape of. -/
def UrlPath.IsLastOfShape (path : UrlPath) (paths : List UrlPath) : Prop :=
  ∃ before after, paths = before ++ path :: after ∧ path.params ∉ shapesOf after

namespace Endpoint

/-- Paths as entries under their shapes. -/
def underShapes (paths : List UrlPath) : List (List String × UrlPath) :=
  paths.map fun path => (path.params, path)

theorem keys_underShapes (paths : List UrlPath) :
    Table.keys (underShapes paths) = shapesOf paths := by
  rw [Table.keys, underShapes, List.map_map]
  rfl

theorem pathsByShape_eq (paths : List UrlPath) :
    pathsByShape paths = (underShapes paths).foldl
      (fun table e => Sorted.put Sorted.rowBefore e.1 e.2 table) [] := by
  rw [underShapes, List.foldl_map]
  rfl

theorem isLast_underShapes_iff {path : UrlPath} {shape : List String} {paths : List UrlPath} :
    Table.IsLast (shape, path) (underShapes paths) ↔
      path.params = shape ∧ path.IsLastOfShape paths := by
  constructor
  · rintro ⟨before, after, heq, hlast⟩
    obtain ⟨before, rest, rfl, rfl, hrest⟩ := List.map_eq_append_iff.mp heq
    obtain ⟨path, after, rfl, hpath, rfl⟩ := List.map_eq_cons_iff.mp hrest
    obtain ⟨rfl, rfl⟩ := Prod.mk.inj hpath
    refine ⟨rfl, before, after, rfl, ?_⟩
    rw [← keys_underShapes]
    exact hlast
  · rintro ⟨rfl, before, after, rfl, hlast⟩
    refine ⟨underShapes before, underShapes after, ?_, ?_⟩
    · rw [underShapes, List.map_append]
      rfl
    · rw [keys_underShapes]
      exact hlast

/-- Under each shape is the last path that has it. -/
theorem mem_pathsByShape_iff {path : UrlPath} {shape : List String} {paths : List UrlPath} :
    (shape, path) ∈ pathsByShape paths ↔ path.params = shape ∧ path.IsLastOfShape paths := by
  have hempty : Sorted.Ranked Sorted.rowBefore ([] : List (List String × UrlPath)) := .nil
  rw [pathsByShape_eq, Table.mem_foldl_write_iff
    (fun key value => Sorted.Ranked.put Sorted.isLinear_rowBefore key value)
    (Sorted.mem_put_iff Sorted.isLinear_rowBefore) hempty, isLast_underShapes_iff]
  exact or_iff_left fun h => List.not_mem_nil h.1

/-- The paths that are left are the last of their shapes. -/
theorem mem_paths_collapsePaths_iff {e : Endpoint} {path : UrlPath} :
    path ∈ e.collapsePaths.paths ↔ path.IsLastOfShape e.paths := by
  rw [collapsePaths, List.mem_map]
  constructor
  · rintro ⟨⟨shape, _⟩, hmem, rfl⟩
    exact (mem_pathsByShape_iff.mp hmem).2
  · exact fun h => ⟨(path.params, path), mem_pathsByShape_iff.mpr ⟨rfl, h⟩, rfl⟩

/-- The shapes that are left are the keys of the table. -/
theorem shapesOf_collapsePaths (e : Endpoint) :
    shapesOf e.collapsePaths.paths = Table.keys (pathsByShape e.paths) := by
  rw [shapesOf, collapsePaths, List.map_map, Table.keys]
  refine List.map_congr_left fun entry hentry => ?_
  exact (mem_pathsByShape_iff.mp hentry).1

theorem increasing_shapes_collapsePaths (e : Endpoint) :
    Sorted.Increasing Sorted.rowBefore (shapesOf e.collapsePaths.paths) := by
  rw [shapesOf_collapsePaths, pathsByShape_eq, Sorted.keys_foldl_put Sorted.isLinear_rowBefore]
  exact Sorted.Increasing.foldl_insert Sorted.isLinear_rowBefore.toIsStrict _ .nil

/-- No shape is lost, and none is new. -/
theorem mem_shapes_collapsePaths_iff {e : Endpoint} {shape : List String} :
    shape ∈ shapesOf e.collapsePaths.paths ↔ shape ∈ shapesOf e.paths := by
  rw [shapesOf_collapsePaths, pathsByShape_eq, Sorted.keys_foldl_put Sorted.isLinear_rowBefore,
    Sorted.mem_foldl_insert Sorted.isLinear_rowBefore, keys_underShapes]
  exact or_iff_left List.not_mem_nil

/-- Paths that are in the order of their shapes stay as they are. -/
theorem collapsePaths_of_increasing {e : Endpoint}
    (h : Sorted.Increasing Sorted.rowBefore (shapesOf e.paths)) : e.collapsePaths = e := by
  have hranked : Sorted.Ranked Sorted.rowBefore ([] ++ underShapes e.paths) := by
    rw [List.nil_append, Sorted.Ranked, keys_underShapes]
    exact h
  have hpaths : (pathsByShape e.paths).map Prod.snd = e.paths := by
    rw [pathsByShape_eq, Sorted.foldl_put_of_ranked Sorted.isLinear_rowBefore.toIsStrict hranked,
      List.nil_append, underShapes, List.map_map]
    exact List.map_id' e.paths
  rw [collapsePaths, hpaths]

end Endpoint

end Routewright
