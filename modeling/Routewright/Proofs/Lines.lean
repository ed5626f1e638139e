import Mathlib.Data.List.Basic
import Routewright.Proofs.Spelling
import Routewright.Text.Blank
import Routewright.Text.Lines

/-!
# The lines of a text

A text is taken apart at its line feeds and put together again. Lines that are put under each other
are the lines of the whole (`pieces_intercalate`), indentation moves every line by itself
(`pieces_indent`), and a text that neither starts nor ends with a line feed has none to be trimmed.
-/

namespace Routewright.Text

/-- The pieces of a text are what it splits into at the separator. -/
theorem pieces_eq_splitOn (separator : Char) :
    ∀ cs : List Char, pieces separator cs = cs.splitOn separator
  | [] => rfl
  | c :: cs => by
    rw [pieces, pieces_eq_splitOn separator cs, List.splitOn_cons_eq_if_modifyHead]
    by_cases hc : c = separator
    · rw [if_pos hc, if_pos (beq_iff_eq.mpr hc)]
    · rw [if_neg hc, if_neg (mt beq_iff_eq.mp hc)]
      cases hpieces : cs.splitOn separator with
      | nil => exact absurd hpieces (List.splitOnP_ne_nil _ cs)
      | cons p ps => rfl

theorem pieces_append_cons (separator : Char) (cs rest : List Char) :
    pieces separator (cs ++ separator :: rest) = pieces separator cs ++ pieces separator rest := by
  simp only [pieces_eq_splitOn]
  exact List.splitOnP_append_cons cs rest (beq_self_eq_true separator)

theorem pieces_of_not_mem {separator : Char} {cs : List Char} (h : separator ∉ cs) :
    pieces separator cs = [cs] := by
  rw [pieces_eq_splitOn, List.splitOn_eq_singleton h]

/-- Joined texts in a row of characters. -/
theorem toList_join (separator : String) :
    ∀ items : List String,
      (join separator items).toList = separator.toList.intercalate (items.map String.toList)
  | [] => rfl
  | [item] => List.intercalate_singleton.symm
  | item :: next :: rest => by
    rw [join, String.toList_append, String.toList_append, toList_join separator (next :: rest)]
    exact List.intercalate_cons_cons.symm

/-- A text is its pieces with separators between them. -/
theorem intercalate_pieces (separator : Char) (cs : List Char) :
    [separator].intercalate (pieces separator cs) = cs := by
  rw [pieces_eq_splitOn, List.intercalate_splitOn]

/-- Pieces without separators are the pieces of what they are joined to. -/
theorem pieces_intercalate {separator : Char} {ps : List (List Char)}
    (h : ∀ p ∈ ps, separator ∉ p) (hne : ps ≠ []) :
    pieces separator ([separator].intercalate ps) = ps := by
  rw [pieces_eq_splitOn, List.splitOn_intercalate separator h hne]

/-- No piece has a separator. -/
theorem not_mem_of_mem_pieces {separator : Char} :
    ∀ {cs p : List Char}, p ∈ pieces separator cs → separator ∉ p
  | [], p, h => by
    rw [List.mem_singleton.mp h]
    exact List.not_mem_nil
  | c :: cs, p, h => by
    have ih : ∀ q ∈ pieces separator cs, separator ∉ q := fun q => not_mem_of_mem_pieces
    unfold pieces at h
    split_ifs at h with hc
    · rcases List.mem_cons.mp h with rfl | h
      · exact List.not_mem_nil
      · exact ih p h
    cases hpieces : pieces separator cs with
    | nil => exact absurd hpieces (pieces_ne_nil separator cs)
    | cons q qs =>
      rw [hpieces] at h ih
      obtain ⟨hq, hqs⟩ := List.forall_mem_cons.mp ih
      rcases List.mem_cons.mp h with rfl | h
      · exact fun hmem => (List.mem_cons.mp hmem).elim (fun heq => hc heq.symm) hq
      · exact hqs p h

/-- The margin of some levels of indentation. -/
def margin (levels : Nat) : List Char :=
  List.replicate (4 * levels) ' '

/-- A line that is moved right by some levels, unless it is empty. -/
def indentLine (levels : Nat) (line : List Char) : List Char :=
  if line.isEmpty then [] else margin levels ++ line

/-- Indentation moves line by line. -/
theorem toList_indent (s : String) (levels : Nat) :
    (indent s levels).toList =
      ['\n'].intercalate ((pieces '\n' s.toList).map (indentLine levels)) := by
  rw [indent, toList_join, List.map_map]
  refine congrArg _ (List.map_congr_left fun line _ => ?_)
  rw [Function.comp_apply, indentLine]
  split_ifs
  · rfl
  · rw [String.toList_append, String.toList_ofList, String.toList_ofList, margin]

/-- The lines of an indented text are those of the text, moved. -/
theorem pieces_indent (s : String) (levels : Nat) :
    pieces '\n' (indent s levels).toList = (pieces '\n' s.toList).map (indentLine levels) := by
  rw [toList_indent]
  refine pieces_intercalate (List.forall_mem_map.mpr fun line hline => ?_)
    (List.map_eq_nil_iff.not.mpr (pieces_ne_nil '\n' s.toList))
  unfold indentLine
  split_ifs
  · exact List.not_mem_nil
  · rw [List.mem_append, not_or]
    exact ⟨fun h => absurd (List.eq_of_mem_replicate h) (by decide), not_mem_of_mem_pieces hline⟩

/-- Nothing is trimmed from a text that has no line feed at its ends. -/
theorem trimNewlines_eq_self {s : String} (hfirst : s.toList.head? ≠ some '\n')
    (hlast : s.toList.getLast? ≠ some '\n') : trimNewlines s = s := by
  have hkept : ∀ {cs : List Char}, cs.head? ≠ some '\n' → cs.dropWhile (· = '\n') = cs := by
    intro cs h
    cases cs with
    | nil => rfl
    | cons c cs =>
      refine List.dropWhile_cons_of_neg fun hc => h ?_
      rw [List.head?_cons, of_decide_eq_true hc]
  rw [trimNewlines, hkept hfirst, hkept (List.head?_reverse ▸ hlast), List.reverse_reverse,
    String.ofList_toList]

/-- No line feed is left at the end of a trimmed text. -/
theorem getLast?_trimNewlines (s : String) : (trimNewlines s).toList.getLast? ≠ some '\n' := by
  rw [trimNewlines, String.toList_ofList, List.getLast?_reverse]
  intro h
  have hkept := List.head?_dropWhile_not (· = '\n') (s.toList.dropWhile (· = '\n')).reverse
  rw [h] at hkept
  exact absurd hkept (by decide)

/-- What is trimmed from a text is line feeds. -/
theorem exists_toList_eq_trimNewlines (s : String) :
    ∃ before behind, s.toList = List.replicate before '\n' ++ (trimNewlines s).toList ++
      List.replicate behind '\n' := by
  have hfeeds : ∀ cs : List Char, ∃ n,
      cs = List.replicate n '\n' ++ cs.dropWhile (· = '\n') := by
    intro cs
    refine ⟨(cs.takeWhile (· = '\n')).length, ?_⟩
    have htaken : ∀ c ∈ cs.takeWhile (· = '\n'), c = '\n' := fun c hc =>
      of_decide_eq_true (List.all_eq_true.mp List.all_takeWhile c hc)
    rw [← List.eq_replicate_of_mem htaken, List.takeWhile_append_dropWhile]
  obtain ⟨before, hbefore⟩ := hfeeds s.toList
  obtain ⟨behind, hbehind⟩ := hfeeds (s.toList.dropWhile (· = '\n')).reverse
  refine ⟨before, behind, ?_⟩
  have hkept := congrArg List.reverse hbehind
  rw [List.reverse_reverse, List.reverse_append, List.reverse_replicate] at hkept
  rw [trimNewlines, String.toList_ofList, List.append_assoc, ← hkept, ← hbefore]

theorem mem_trimNewlines {s : String} {c : Char} (hc : c ≠ '\n') (h : c ∈ s.toList) :
    c ∈ (trimNewlines s).toList := by
  obtain ⟨before, behind, hs⟩ := exists_toList_eq_trimNewlines s
  rw [hs, List.mem_append, List.mem_append] at h
  rcases h with (h | h) | h
  · exact absurd (List.eq_of_mem_replicate h) hc
  · exact h
  · exact absurd (List.eq_of_mem_replicate h) hc

/-- Joined texts end as the last of them does. -/
theorem getLast?_join {separator : String} {c : Char} :
    ∀ {items : List String},
      (∀ item ∈ items, item.toList ≠ [] ∧ item.toList.getLast? ≠ some c) →
      (join separator items).toList.getLast? ≠ some c
  | [], _ => nofun
  | [item], h => (h item List.mem_cons_self).2
  | item :: next :: rest, h => by
    obtain ⟨-, hrest⟩ := List.forall_mem_cons.mp h
    have hne : (join separator (next :: rest)).toList ≠ [] := by
      obtain ⟨hnext, -⟩ := hrest next List.mem_cons_self
      cases rest with
      | nil => exact hnext
      | cons other rest =>
        rw [join, String.toList_append, String.toList_append, List.append_assoc]
        exact List.append_ne_nil_of_left_ne_nil hnext _
    rw [join, String.toList_append, List.getLast?_append_of_ne_nil _ hne]
    exact getLast?_join hrest

theorem join_append (separator : String) {items rest : List String} (hitems : items ≠ [])
    (hrest : rest ≠ []) :
    join separator (items ++ rest) = join separator items ++ separator ++ join separator rest := by
  induction items with
  | nil => exact absurd rfl hitems
  | cons item items ih =>
    obtain ⟨next, more, rfl⟩ := List.exists_cons_of_ne_nil hrest
    cases items with
    | nil => rfl
    | cons other items =>
      rw [List.cons_append, List.cons_append, join, ← List.cons_append, ih (List.cons_ne_nil _ _),
        join]
      simp only [String.append_assoc]

/-! ## Lines and blanks -/

theorem trimEnd_cons_of_not_blank {c : Char} (hc : isBlank c = false) (cs : List Char) :
    trimEnd (c :: cs) = c :: trimEnd cs := by
  rw [trimEnd]
  cases trimEnd cs with
  | nil => rw [hc]; rfl
  | cons d ds => rfl

theorem trimEnd_subset : ∀ cs : List Char, trimEnd cs ⊆ cs
  | [] => List.Subset.refl _
  | c :: cs => by
    have ih := trimEnd_subset cs
    rw [trimEnd]
    cases htrim : trimEnd cs with
    | nil =>
      dsimp only
      split_ifs
      · exact List.nil_subset _
      · exact List.cons_subset_cons c (List.nil_subset cs)
    | cons d ds => exact List.cons_subset_cons c (htrim ▸ ih)

/-- A margin makes no difference to a trimmed line. -/
theorem trim_margin_append (levels : Nat) (line : List Char) :
    trim (margin levels ++ line) = trim line := by
  have hmargin : (margin levels).dropWhile isBlank = [] := by
    rw [margin, List.dropWhile_replicate]
    rfl
  rw [trim, trim, List.dropWhile_append, hmargin]
  rfl

/-- No line has a character that ends lines. -/
theorem not_isLineEnd_of_mem_lines {cs line : List Char} (h : line ∈ lines cs) {c : Char}
    (hc : c ∈ line) : isLineEnd c = false := by
  induction cs using lines.induct generalizing line with
  | case1 => exact absurd h List.not_mem_nil
  | case2 cs ih =>
    rcases List.mem_cons.mp h with rfl | h
    · exact absurd hc List.not_mem_nil
    · exact ih h hc
  | case3 d cs hreturn hend ih =>
    rw [lines, if_pos hend] at h
    · rcases List.mem_cons.mp h with rfl | h
      · exact absurd hc List.not_mem_nil
      · exact ih h hc
    · exact hreturn
  | case4 d cs hreturn hend hnone ih =>
    rw [lines, if_neg hend, hnone] at h
    · rw [List.mem_singleton.mp h] at hc
      rw [List.mem_singleton.mp hc]
      exact Bool.eq_false_iff.mpr hend
    · exact hreturn
  | case5 d cs hreturn hend l ls hlines ih =>
    rw [lines, if_neg hend, hlines] at h
    · rcases List.mem_cons.mp h with rfl | h
      · rcases List.mem_cons.mp hc with rfl | hc
        · exact Bool.eq_false_iff.mpr hend
        · exact ih (hlines ▸ List.mem_cons_self) hc
      · exact ih (hlines ▸ List.mem_cons_of_mem _ h) hc
    · exact hreturn

/-- No word has a blank. -/
theorem not_isBlank_of_mem_words {cs word : List Char} (h : word ∈ words cs) {c : Char}
    (hc : c ∈ word) : isBlank c = false := by
  induction cs using words.induct generalizing word with
  | case1 => exact absurd h List.not_mem_nil
  | case2 d cs hblank ih =>
    rw [words.eq_def] at h
    simp only [if_pos hblank] at h
    exact ih h hc
  | case3 d hblank =>
    rw [words.eq_def] at h
    simp only [if_neg hblank, List.mem_singleton] at h
    obtain rfl := List.mem_singleton.mp (h ▸ hc)
    exact Bool.eq_false_iff.mpr hblank
  | case4 d hblank e cs hnext ih =>
    rw [words.eq_def] at h
    simp only [if_neg hblank, if_pos hnext, List.mem_cons] at h
    rcases h with rfl | h
    · obtain rfl := List.mem_singleton.mp hc
      exact Bool.eq_false_iff.mpr hblank
    · exact ih h hc
  | case5 d hblank e cs hnext hnone ih =>
    rw [words.eq_def] at h
    simp only [if_neg hblank, if_neg hnext, hnone, List.mem_singleton] at h
    obtain rfl := List.mem_singleton.mp (h ▸ hc)
    exact Bool.eq_false_iff.mpr hblank
  | case6 d hblank e cs hnext w ws hwords ih =>
    rw [words.eq_def] at h
    simp only [if_neg hblank, if_neg hnext, hwords, List.mem_cons] at h
    rcases h with rfl | h
    · rcases List.mem_cons.mp hc with rfl | hc
      · exact Bool.eq_false_iff.mpr hblank
      · exact ih (hwords ▸ List.mem_cons_self) hc
    · exact ih (hwords ▸ List.mem_cons_of_mem _ h) hc

end Routewright.Text
