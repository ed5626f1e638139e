import Mathlib.Data.List.Chain
import Routewright.Proofs.Template

/-!
# Templates and their segments

A template is its segments one behind the other, and each list of segments in normal form is that of
one template (`parseSegments_eq_ok_iff`). Normal form is what keeps two ways of cutting a text
apart : no two literals follow each other, and no literal is empty beside other segments.

Both directions go through the grammar `Reads`. What is read has normal form and is written as it
was read, and segments in normal form are read back from what they are written as, which the parser
then accepts.
-/

namespace Routewright

/-! ## Normal form -/

namespace Segment

/-- Whether a segment is a literal. -/
def isLiteral : Segment → Bool
  | .literal _ => true
  | .param _ => false

/-- A segment as it stands in a template. -/
def written : Segment → String
  | .literal text => text
  | .param name => "\x7b" ++ name ++ "\x7d"

/-- Segments as a template. -/
def template (segments : List Segment) : String :=
  String.join (segments.map written)

/-- Of any two neighbours one is a parameter, and no literal is empty. -/
structure Spaced (segments : List Segment) : Prop where
  chain : segments.IsChain fun s t => ¬(s.isLiteral ∧ t.isLiteral)
  nonempty : .literal "" ∉ segments

/-- Segments that a template may have. Names are identifiers in the sense of `isIdentifier`. -/
structure Normal (segments : List Segment) : Prop where
  ne_nil : segments ≠ []
  chain : segments.IsChain fun s t => ¬(s.isLiteral ∧ t.isLiteral)
  empty_alone : .literal "" ∈ segments → segments = [.literal ""]
  plain : PlainLiterals segments
  identifiers : ∀ name ∈ params segments, isIdentifier name.toList
  nodup : (params segments).Nodup

theorem toList_template_cons (s : Segment) (segments : List Segment) :
    (template (s :: segments)).toList = s.written.toList ++ (template segments).toList := by
  rw [template, template, List.map_cons, String.toList_join, String.toList_join, List.flatMap_cons]

theorem normal_empty : Normal [.literal ""] where
  ne_nil := by decide
  chain := .singleton _
  empty_alone _ := rfl
  plain text hmem c hc := by
    cases List.mem_singleton.mp hmem
    exact absurd hc (by simp)
  identifiers name hname := absurd hname List.not_mem_nil
  nodup := List.nodup_nil

end Segment

/-! ## What is read -/

open Segment

theorem template_consChar (c : Char) (pieces : List Piece) :
    (template ((consChar c pieces).map Piece.segment)).toList =
      c :: (template (pieces.map Piece.segment)).toList := by
  fun_cases consChar c pieces <;> simp [toList_template_cons, Piece.segment, written]

theorem Segment.Spaced.consChar {c : Char} {pieces : List Piece}
    (h : Spaced (pieces.map Piece.segment)) : Spaced ((consChar c pieces).map Piece.segment) := by
  obtain ⟨hchain, hnonempty⟩ := h
  fun_cases Routewright.consChar c pieces with
  | case1 text rest =>
    rw [List.map_cons, List.isChain_cons] at hchain
    refine ⟨List.isChain_cons.mpr hchain, fun hmem => ?_⟩
    rcases List.mem_cons.mp hmem with heq | hmem
    · have hchars := congrArg String.toList (Segment.literal.inj heq)
      simp at hchars
    · exact hnonempty (List.mem_cons_of_mem _ hmem)
  | case2 _ hfirst =>
    refine ⟨List.isChain_cons.mpr ⟨fun s hs => ?_, hchain⟩, fun hmem => ?_⟩
    · cases pieces with
      | nil => cases hs
      | cons piece rest =>
        cases piece with
        | chars text => exact absurd rfl (hfirst text rest)
        | hole name =>
          obtain rfl := Option.some.inj hs
          exact fun hliterals => Bool.false_ne_true hliterals.2
    · rcases List.mem_cons.mp hmem with heq | hmem
      · have hchars := congrArg String.toList (Segment.literal.inj heq)
        simp at hchars
      · exact hnonempty hmem

namespace Reads

variable {seen : List String} {cs : List Char} {pieces : List Piece}

/-- What is read is written as it was read. -/
theorem template_eq (h : Reads seen cs pieces) :
    (template (pieces.map Piece.segment)).toList = cs := by
  induction h with
  | done => rfl
  | char _ _ ih => rw [template_consChar, ih]
  | hole _ _ _ ih => simp [toList_template_cons, Piece.segment, written, ih]

theorem spaced (h : Reads seen cs pieces) : Spaced (pieces.map Piece.segment) := by
  induction h with
  | done => exact ⟨.nil, List.not_mem_nil⟩
  | char _ _ ih => exact ih.consChar
  | hole _ _ _ ih =>
    refine ⟨List.isChain_cons.mpr ⟨fun _ _ hliterals => Bool.false_ne_true hliterals.1, ih.chain⟩,
      fun hmem => ?_⟩
    rcases List.mem_cons.mp hmem with heq | hmem
    · cases heq
    · exact ih.nonempty hmem

theorem identifiers (h : Reads seen cs pieces) :
    ∀ name ∈ params (pieces.map Piece.segment), isIdentifier name.toList := by
  induction h with
  | done => exact fun name hname => absurd hname List.not_mem_nil
  | char _ _ ih => rwa [Segment.params_consChar]
  | hole hident _ _ ih =>
    intro name hname
    rcases List.mem_cons.mp hname with rfl | hname
    · rwa [String.toList_ofList]
    · exact ih name hname

/-- Segments that are read, if there are any, have normal form. -/
theorem normal (h : Reads [] cs pieces) (hne : pieces ≠ []) :
    Normal (pieces.map Piece.segment) where
  ne_nil := mt List.map_eq_nil_iff.mp hne
  chain := h.spaced.chain
  empty_alone hmem := absurd hmem h.spaced.nonempty
  plain := h.plainLiterals
  identifiers := h.identifiers
  nodup := h.nodup_params.1

end Reads

/-! ## What is accepted -/

theorem checkName_of_isIdentifier {seen : List String} {name : List Char}
    (hident : isIdentifier name = true) (hseen : String.ofList name ∉ seen) :
    checkName seen name = .ok (String.ofList name) := by
  have hne : name.isEmpty = false := by
    cases name with
    | nil => cases hident
    | cons c cs => rfl
  simp [checkName, hne, hident, hseen]

theorem closing_not_mem_identifier {name : List Char} (h : isIdentifier name = true) :
    '}' ∉ name :=
  fun hmem => (isPlain_of_mem_identifier h _ hmem).2 rfl

/-- Inside a hole, what closes it not is taken for the name. -/
theorem parseHole_append {start : Nat} {seen : List String} (rest : List Char) :
    ∀ (more : List Char) (offset : Nat) (name : List Char), '}' ∉ more →
      parseHole start offset seen name (more ++ rest) =
        parseHole start (offset + more.length) seen (more.reverse ++ name) rest
  | [], _, _, _ => rfl
  | c :: more, offset, name, h => by
    obtain ⟨hc, hmore⟩ := List.ne_and_not_mem_of_not_mem_cons h
    rw [List.cons_append, parseHole, if_neg hc.symm, parseHole_append rest more _ _ hmore,
      List.reverse_cons, List.append_assoc, List.length_cons, Nat.add_assoc, Nat.add_comm 1]
    rfl

/-- The parser accepts what the grammar reads. -/
theorem Reads.parseText_eq {seen : List String} {cs : List Char} {pieces : List Piece}
    (h : Reads seen cs pieces) : ∀ offset, parseText offset seen cs = .ok pieces := by
  induction h with
  | done => exact fun _ => by rw [parseText]
  | char hplain _ ih =>
    intro offset
    rw [parseText, if_neg hplain.2, if_neg hplain.1, ih]
    rfl
  | @hole seen name cs pieces hident hseen _ ih =>
    intro offset
    rw [parseText, if_neg (by decide), if_pos rfl,
      parseHole_append _ _ _ _ (closing_not_mem_identifier hident), parseHole, if_pos rfl,
      List.append_nil, List.reverse_reverse, checkName_of_isIdentifier hident hseen]
    simp only [ih]
    rfl

/-- A literal in front of what starts with none is read as a whole. -/
theorem Reads.chars {seen : List String} {cs : List Char} {pieces : List Piece}
    (h : Reads seen cs pieces) (hfirst : ∀ text rest, pieces ≠ .chars text :: rest) :
    ∀ {text : List Char}, text ≠ [] → (∀ c ∈ text, IsPlain c) →
      Reads seen (text ++ cs) (.chars text :: pieces)
  | [], hne, _ => absurd rfl hne
  | [c], _, hplain => by
    have hread := Reads.char (hplain c List.mem_cons_self) h
    rwa [consChar.eq_2 _ _ hfirst] at hread
  | c :: d :: text, _, hplain => by
    obtain ⟨hc, hrest⟩ := List.forall_mem_cons.mp hplain
    exact .char hc (h.chars hfirst (List.cons_ne_nil d text) hrest)

/-- Segments in normal form are read back from what they are written as. -/
theorem Segment.exists_reads :
    ∀ {segments : List Segment} {seen : List String}, Spaced segments → PlainLiterals segments →
      (∀ name ∈ params segments, isIdentifier name.toList) →
      (params segments).Nodup → (∀ name ∈ params segments, name ∉ seen) →
      ∃ pieces, Reads seen (template segments).toList pieces ∧
        pieces.map Piece.segment = segments
  | [], _, _, _, _, _, _ => ⟨[], .done, rfl⟩
  | .literal text :: rest, seen, hspaced, hplain, hident, hnodup, hnew => by
    obtain ⟨hfirst, hchain⟩ := List.isChain_cons.mp hspaced.chain
    obtain ⟨hne, hnonempty⟩ := not_or.mp (mt List.mem_cons.mpr hspaced.nonempty)
    obtain ⟨pieces, hreads, rfl⟩ := exists_reads ⟨hchain, hnonempty⟩ hplain.tail hident hnodup hnew
    refine ⟨.chars text.toList :: pieces, ?_, ?_⟩
    · rw [toList_template_cons]
      refine hreads.chars (fun chars tail heq => ?_) (fun heq => ?_)
        (hplain text List.mem_cons_self)
      · subst heq
        exact hfirst _ rfl ⟨rfl, rfl⟩
      · exact hne (congrArg Segment.literal (String.toList_eq_nil_iff.mp heq).symm)
    · rw [List.map_cons, Piece.segment, String.ofList_toList]
  | .param name :: rest, seen, hspaced, hplain, hident, hnodup, hnew => by
    obtain ⟨-, hchain⟩ := List.isChain_cons.mp hspaced.chain
    have hnonempty : Segment.literal "" ∉ rest :=
      fun hmem => hspaced.nonempty (List.mem_cons_of_mem _ hmem)
    obtain ⟨hname, hident⟩ := List.forall_mem_cons.mp hident
    obtain ⟨hother, hnodup⟩ := List.nodup_cons.mp hnodup
    obtain ⟨hseen, hnew⟩ := List.forall_mem_cons.mp hnew
    have hnext : ∀ other ∈ params rest, other ∉ String.ofList name.toList :: seen := by
      intro other hmem hold
      rw [String.ofList_toList] at hold
      rcases List.mem_cons.mp hold with rfl | hold
      · exact hother hmem
      · exact hnew other hmem hold
    obtain ⟨pieces, hreads, rfl⟩ := exists_reads ⟨hchain, hnonempty⟩ hplain.tail hident hnodup hnext
    have hread := Reads.hole hname (by rwa [String.ofList_toList]) hreads
    rw [String.ofList_toList] at hread
    refine ⟨.hole name :: pieces, ?_, rfl⟩
    rw [toList_template_cons]
    simpa [written] using hread

/-! ## Parsing and writing -/

theorem parseSegments_empty : parseSegments "" = .ok [.literal ""] := by
  decide

/-- A template is accepted with some segments just when these have normal form and stand in it one
behind the other. So what is accepted is written as it was, and segments in normal form are read
back. -/
theorem parseSegments_eq_ok_iff {text : String} {segments : List Segment} :
    parseSegments text = .ok segments ↔ Normal segments ∧ template segments = text := by
  constructor
  · intro h
    obtain ⟨pieces, hpieces, rfl⟩ := Outcome.map_eq_ok.mp h
    have hreads := reads_of_parseText hpieces
    have htext : template (pieces.map Piece.segment) = text :=
      String.toList_injective hreads.template_eq
    split_ifs with hempty
    · rw [List.isEmpty_iff.mp hempty] at htext
      exact ⟨normal_empty, htext⟩
    · exact ⟨hreads.normal (mt List.isEmpty_iff.mpr hempty), htext⟩
  · rintro ⟨h, rfl⟩
    by_cases hempty : .literal "" ∈ segments
    · rw [h.empty_alone hempty]
      exact parseSegments_empty
    · obtain ⟨pieces, hreads, rfl⟩ := exists_reads ⟨h.chain, hempty⟩ h.plain h.identifiers h.nodup
        fun _ _ => List.not_mem_nil
      have hne : pieces.isEmpty = false :=
        List.isEmpty_eq_false_iff.mpr (mt List.map_eq_nil_iff.mpr h.ne_nil)
      rw [parseSegments, hreads.parseText_eq]
      simp [Except.map, hne]

end Routewright
