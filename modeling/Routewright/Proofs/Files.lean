import Routewright.Files
import Routewright.Proofs.Table

/-!
# What stays in a tree of files

Names that can be followed lead to the place that they spell (`placeOf_of_locate`). Writing a file
changes nothing but the place of its path (`find?_of_write`), and making directories leaves
everything that is there, also where it fails halfway (`keepsAt_makeDirectories`).
-/

namespace Routewright.Files

variable {fs gs hs : Files} {directory place p : Place} {path : Path}

@[simp] theorem find?_root (fs : Files) : fs.find? [] = some .directory :=
  if_pos rfl

theorem find?_put_of_ne (h : p ≠ place) (entry : FileEntry) :
    (fs.put place entry).find? p = fs.find? p := by
  simp only [find?, put, Table.find?_put, if_neg (Ne.symm h)]

theorem find?_put_self (h : place ≠ []) (entry : FileEntry) :
    (fs.put place entry).find? place = some entry := by
  simp only [find?, put, Table.find?_put, if_neg h, if_pos]

theorem find?_erase_of_ne (h : p ≠ place) : (fs.erase place).find? p = fs.find? p := by
  simp only [find?, erase, Table.find?_filter_ne, if_neg (Ne.symm h)]

theorem find?_erase_self (h : place ≠ []) : (fs.erase place).find? place = none := by
  simp only [find?, erase, Table.find?_filter_ne, if_neg h, if_pos]

theorem content?_eq_some_iff {content : List UInt8} :
    fs.content? place = some content ↔ fs.find? place = some (.file content) := by
  unfold content?
  split
  case h_1 found h => rw [h, Option.some.injEq, Option.some.injEq, FileEntry.file.injEq]
  case h_2 h => exact iff_of_false nofun (h content)

/-! ## Places of paths -/

/-- The place that a path spells, whatever is there. -/
def placeOf (directory : Place) (path : Path) : Place :=
  path.names.foldl follow (start directory path)

theorem foldl_of_walk :
    ∀ (names : List String) {origin : Place}, fs.walk origin names = .ok place →
      names.foldl follow origin = place
  | [], _, h => Except.ok.inj h
  | name :: rest, origin, h => by
    rw [walk] at h
    split at h
    · cases h
    · cases h
    · split_ifs at h
      exact foldl_of_walk rest h

/-- A path leads to the place that it spells, or nowhere. -/
theorem placeOf_of_locate (h : fs.locate directory path = .ok place) :
    placeOf directory path = place := by
  unfold locate at h
  split_ifs at h
  exact foldl_of_walk _ h

/-- A file can be where a path leads unless a directory is there. -/
theorem placeOf_of_writable (h : fs.writable directory path = .ok place) :
    placeOf directory path = place ∧ fs.find? place ≠ some .directory := by
  unfold writable at h
  split at h
  · cases h
  case h_2 target htarget =>
    split_ifs at h with hdirectory
    split at h
    · cases h
    · cases h
      exact ⟨placeOf_of_locate htarget, mt decide_eq_true hdirectory⟩

/-- Writing a file changes the place of its path only. -/
theorem find?_of_write {content : List UInt8} (h : fs.write directory path content = .ok gs)
    (hp : p ≠ placeOf directory path) : gs.find? p = fs.find? p := by
  unfold write at h
  cases hplace : fs.writable directory path with
  | error fault =>
    rw [hplace] at h
    cases h
  | ok place =>
    rw [hplace] at h
    cases h
    rw [(placeOf_of_writable hplace).1] at hp
    exact find?_put_of_ne hp _

/-- What is written is at the place of its path. -/
theorem content?_of_write {content : List UInt8} (h : fs.write directory path content = .ok gs) :
    gs.content? (placeOf directory path) = some content := by
  unfold write at h
  cases hplace : fs.writable directory path with
  | error fault =>
    rw [hplace] at h
    cases h
  | ok place =>
    rw [hplace] at h
    cases h
    obtain ⟨rfl, hdirectory⟩ := placeOf_of_writable hplace
    have hroot : placeOf directory path ≠ [] := fun hroot => hdirectory (hroot ▸ find?_root fs)
    exact content?_eq_some_iff.mpr (find?_put_self hroot _)

/-! ## Directories that are made -/

/-- Whether what is at a place stays, where nothing may become a directory. -/
def KeepsAt (fs gs : Files) (place : Place) : Prop :=
  gs.find? place = fs.find? place ∨ fs.find? place = none ∧ gs.find? place = some .directory

theorem KeepsAt.refl (fs : Files) (place : Place) : fs.KeepsAt fs place :=
  .inl rfl

theorem KeepsAt.trans (hfg : fs.KeepsAt gs place) (hgh : gs.KeepsAt hs place) :
    fs.KeepsAt hs place := by
  rcases hfg with hfg | ⟨hf, hg⟩
  · unfold KeepsAt at hgh ⊢
    rwa [hfg] at hgh
  · rcases hgh with hgh | ⟨hnone, -⟩
    · exact .inr ⟨hf, hgh.trans hg⟩
    · rw [hg] at hnone
      cases hnone

/-- A file has the bytes that it had, and there is none where none was. -/
theorem KeepsAt.content?_eq (h : fs.KeepsAt gs place) : gs.content? place = fs.content? place := by
  unfold content?
  rcases h with h | ⟨hf, hg⟩
  · rw [h]
  · rw [hf, hg]

/-- The files that an attempt to make directories leaves. -/
def left : Except (FileFault × Files) Files → Files
  | .ok fs => fs
  | .error (_, fs) => fs

/-- A directory that is made is where nothing was. -/
theorem keepsAt_put_directory (h : fs.find? place = none) (p : Place) :
    fs.KeepsAt (fs.put place .directory) p := by
  have hne : place ≠ [] := by
    rintro rfl
    rw [find?_root] at h
    cases h
  by_cases hp : p = place
  · subst hp
    exact .inr ⟨h, find?_put_self hne _⟩
  · exact .inl (find?_put_of_ne hp _)

/-- Directories are made along names one by one, so what is kept is so in each step. -/
theorem keepsAt_makeAlong (p : Place) :
    ∀ (names : List String) (fs : Files) (place : Place),
      fs.KeepsAt (left (fs.makeAlong place names)) p
  | [], fs, _ => .refl fs p
  | name :: rest, fs, place => by
    rw [makeAlong]
    split
    · exact keepsAt_makeAlong p rest fs _
    · exact .refl fs p
    case h_3 hnone =>
      split
      · exact .refl fs p
      · exact (keepsAt_put_directory hnone p).trans (keepsAt_makeAlong p rest _ _)

/-- Whether or not directories can be made, everything that is there stays. -/
theorem keepsAt_makeDirectories (fs : Files) (directory : Place) (path : Path) (p : Place) :
    fs.KeepsAt (left (fs.makeDirectories directory path)) p := by
  unfold makeDirectories
  split_ifs
  · exact .refl fs p
  · exact .refl fs p
  · exact keepsAt_makeAlong p path.names fs _

end Routewright.Files
