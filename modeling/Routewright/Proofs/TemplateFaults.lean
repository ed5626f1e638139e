import Mathlib.Data.List.Basic
import Routewright.Proofs.TemplateForm

/-!
# Which texts are templates

A text is a template if it is plain characters and holes, whose names differ from each other
(`IsTemplate`). What may stand in a hole is a parameter here : the parser takes any identifier in
the sense of `isIdentifier`, which may end in a line feed, where a name is meant to be a word. So
what it accepts are the templates with words for names just where no name of a hole ends so
(`parseSegments_accepts_iff`).

Every other text is refused for the first thing that is wrong with it. `FirstFault` says what that
is. The brace that closes a hole is the next one, whatever stands before it, and only then the name
is looked at.
-/

namespace Routewright

open Outcome Segment

/-! ## Templates -/

/-- Segments whose literals are plain, and whose parameters are names and differ from each other. -/
structure Segment.AreRegular (isName : List Char → Bool) (segments : List Segment) : Prop where
  plain : PlainLiterals segments
  names : ∀ name ∈ params segments, isName name.toList
  nodup : (params segments).Nodup

/-- A text that is plain characters and holes with names that differ from each other. -/
def IsTemplate (isName : List Char → Bool) (text : String) : Prop :=
  ∃ segments, AreRegular isName segments ∧ template segments = text

/-- An identifier is a word unless it ends in a line feed. -/
theorem isWord_iff_isIdentifier {name : List Char} :
    isWord name = true ↔ isIdentifier name = true ∧ '\n' ∉ name := by
  constructor
  · intro h
    cases name with
    | nil => cases h
    | cons c cs =>
      obtain ⟨hc, hcs⟩ := Bool.and_eq_true_iff.mp h
      have htail : ∀ ds : List Char, ds.all isNameChar = true → isNameTail ds = true := by
        intro ds hds
        induction ds with
        | nil => rfl
        | cons d ds ih =>
          obtain ⟨hd, hds⟩ := Bool.and_eq_true_iff.mp hds
          simp [isNameTail, hd, ih hds]
      have hident : isIdentifier (c :: cs) = true := Bool.and_eq_true_iff.mpr ⟨hc, htail cs hcs⟩
      exact ⟨hident, (forall_isNameChar_iff hident).mp (isWord_iff.mp h).2⟩
  · rintro ⟨hident, hline⟩
    exact isWord_iff.mpr ⟨(of_isIdentifier hident).1, (forall_isNameChar_iff hident).mpr hline⟩

namespace Segment

variable {isName : List Char → Bool} {s : Segment} {segments : List Segment}

theorem AreRegular.of_normal (h : Normal segments) : AreRegular isIdentifier segments where
  plain := h.plain
  names := h.identifiers
  nodup := h.nodup

/-- Plain characters may be put in front of what is read. -/
theorem exists_reads_append {seen : List String} {cs : List Char} {pieces : List Piece}
    (h : Reads seen cs pieces) : ∀ {text : List Char}, (∀ c ∈ text, IsPlain c) →
      ∃ more, Reads seen (text ++ cs) more ∧
        params (more.map Piece.segment) = params (pieces.map Piece.segment)
  | [], _ => ⟨pieces, h, rfl⟩
  | c :: text, hplain => by
    obtain ⟨hc, htext⟩ := List.forall_mem_cons.mp hplain
    obtain ⟨more, hmore, hparams⟩ := exists_reads_append h htext
    exact ⟨consChar c more, .char hc hmore, by rw [params_consChar, hparams]⟩

/-- Regular segments need not have normal form to be read, with the same names. -/
theorem exists_reads_of_regular :
    ∀ {segments : List Segment} {seen : List String}, AreRegular isIdentifier segments →
      (∀ name ∈ params segments, name ∉ seen) →
      ∃ pieces, Reads seen (template segments).toList pieces ∧
        params (pieces.map Piece.segment) = params segments
  | [], _, _, _ => ⟨[], .done, rfl⟩
  | .literal text :: rest, seen, h, hnew => by
    obtain ⟨pieces, hreads, hparams⟩ :=
      exists_reads_of_regular ⟨h.plain.tail, h.names, h.nodup⟩ hnew
    rw [toList_template_cons]
    obtain ⟨more, hmore, hsame⟩ := exists_reads_append hreads (h.plain text List.mem_cons_self)
    exact ⟨more, hmore, hsame.trans hparams⟩
  | .param name :: rest, seen, h, hnew => by
    obtain ⟨hname, hnames⟩ := List.forall_mem_cons.mp h.names
    obtain ⟨hother, hnodup⟩ := List.nodup_cons.mp h.nodup
    obtain ⟨hseen, hnew⟩ := List.forall_mem_cons.mp hnew
    have hnext : ∀ other ∈ params rest, other ∉ name :: seen := fun other hmem hold =>
      (List.mem_cons.mp hold).elim (fun heq => hother (heq ▸ hmem)) (hnew other hmem)
    obtain ⟨pieces, hreads, hparams⟩ :=
      exists_reads_of_regular ⟨h.plain.tail, hnames, hnodup⟩ hnext
    have hread : Reads seen ('{' :: (name.toList ++ '}' :: (template rest).toList))
        (.hole (String.ofList name.toList) :: pieces) := by
      rw [← String.ofList_toList (s := name)] at hseen hreads
      exact .hole hname hseen hreads
    rw [String.ofList_toList] at hread
    refine ⟨.hole name :: pieces, ?_, congrArg (name :: ·) hparams⟩
    rw [toList_template_cons]
    simpa [written] using hread

end Segment

/-- Templates are accepted, and their parameters are the names of their holes. -/
theorem exists_parseSegments_of_regular {segments : List Segment}
    (h : AreRegular isIdentifier segments) :
    ∃ parsed, parseSegments (template segments) = .ok parsed ∧ params parsed = params segments := by
  obtain ⟨pieces, hreads, hparams⟩ := exists_reads_of_regular h fun _ _ => List.not_mem_nil
  rw [parseSegments, hreads.parseText_eq]
  refine ⟨_, rfl, ?_⟩
  dsimp only
  split_ifs with hempty
  · rw [← hparams, List.isEmpty_iff.mp hempty]
    rfl
  · exact hparams

theorem exists_parseSegments_iff {text : String} :
    (∃ segments, parseSegments text = .ok segments) ↔ IsTemplate isIdentifier text := by
  constructor
  · rintro ⟨segments, h⟩
    obtain ⟨hnormal, htext⟩ := parseSegments_eq_ok_iff.mp h
    exact ⟨segments, .of_normal hnormal, htext⟩
  · rintro ⟨segments, h, rfl⟩
    obtain ⟨parsed, hparsed, -⟩ := exists_parseSegments_of_regular h
    exact ⟨parsed, hparsed⟩

/-- Templates with words for names are those that are accepted with names of one line. -/
theorem isTemplate_isWord_iff {text : String} :
    IsTemplate isWord text ↔ ∃ segments, parseSegments text = .ok segments ∧
      ∀ name ∈ params segments, '\n' ∉ name.toList := by
  constructor
  · rintro ⟨segments, h, rfl⟩
    have hwords := fun name hname => isWord_iff_isIdentifier.mp (h.names name hname)
    obtain ⟨parsed, hparsed, hparams⟩ := exists_parseSegments_of_regular
      ⟨h.plain, fun name hname => (hwords name hname).1, h.nodup⟩
    exact ⟨parsed, hparsed, hparams ▸ fun name hname => (hwords name hname).2⟩
  · rintro ⟨segments, h, hlines⟩
    obtain ⟨hnormal, htext⟩ := parseSegments_eq_ok_iff.mp h
    refine ⟨segments, ⟨hnormal.plain, fun name hname => ?_, hnormal.nodup⟩, htext⟩
    exact isWord_iff_isIdentifier.mpr ⟨hnormal.identifiers name hname, hlines name hname⟩

/-! ## The first fault -/

/-- What is wrong first with the characters from an offset on, behind holes named `seen`. -/
inductive FirstFault : Nat → List String → List Char → TemplateFault → Prop
  /-- A brace closes no hole. -/
  | unbalanced {offset seen cs} : FirstFault offset seen ('}' :: cs) (.unbalanced offset)
  /-- A hole is not closed. -/
  | unterminated {offset seen name} : '}' ∉ name →
      FirstFault offset seen ('{' :: name) (.unterminated offset)
  /-- A hole has no name. -/
  | emptyName {offset seen cs} : FirstFault offset seen ('{' :: '}' :: cs) .emptyName
  /-- What stands in a hole is no identifier. -/
  | invalidName {offset seen name cs} : '}' ∉ name → name ≠ [] → isIdentifier name = false →
      FirstFault offset seen ('{' :: (name ++ '}' :: cs)) (.invalidName (String.ofList name))
  /-- A hole has the name of one before. -/
  | repeatedName {offset seen name cs} : isIdentifier name = true → String.ofList name ∈ seen →
      FirstFault offset seen ('{' :: (name ++ '}' :: cs)) (.repeatedName (String.ofList name))
  | char {offset seen c cs fault} : IsPlain c → FirstFault (offset + 1) seen cs fault →
      FirstFault offset seen (c :: cs) fault
  | hole {offset seen name cs fault} : isIdentifier name = true → String.ofList name ∉ seen →
      FirstFault (offset + name.length + 2) (String.ofList name :: seen) cs fault →
      FirstFault offset seen ('{' :: (name ++ '}' :: cs)) fault

theorem checkName_of_not_isIdentifier {seen : List String} {name : List Char} (hne : name ≠ [])
    (h : isIdentifier name = false) :
    checkName seen name = .error (.invalidName (String.ofList name)) := by
  simp [checkName, hne, h]

theorem checkName_of_mem {seen : List String} {name : List Char} (h : isIdentifier name = true)
    (hseen : String.ofList name ∈ seen) :
    checkName seen name = .error (.repeatedName (String.ofList name)) := by
  have hne : name ≠ [] := by
    rintro rfl
    cases h
  simp [checkName, hne, h, hseen]

section Hole

variable {offset : Nat} {seen : List String} {name cs : List Char}

/-- A hole that is closed is judged by its name. -/
theorem parseText_hole_error (hname : '}' ∉ name) {fault : TemplateFault}
    (h : checkName seen name = .error fault) :
    parseText offset seen ('{' :: (name ++ '}' :: cs)) = .error fault := by
  rw [parseText, if_neg (by decide), if_pos rfl, parseHole_append _ _ _ _ hname]
  simp only [parseHole, if_true, List.append_nil, List.reverse_reverse, h]

/-- Behind a hole with a proper name the rest is read. -/
theorem parseText_hole_ok (hname : '}' ∉ name) {checked : String}
    (h : checkName seen name = .ok checked) :
    parseText offset seen ('{' :: (name ++ '}' :: cs)) =
      (parseText (offset + name.length + 2) (checked :: seen) cs).map
        (Piece.hole checked :: ·) := by
  have hoffset : offset + 1 + name.length + 1 = offset + name.length + 2 := by omega
  rw [parseText, if_neg (by decide), if_pos rfl, parseHole_append _ _ _ _ hname]
  simp only [parseHole, if_true, List.append_nil, List.reverse_reverse, h, hoffset]

theorem parseText_open (hname : '}' ∉ name) :
    parseText offset seen ('{' :: name) = .error (.unterminated offset) := by
  have hhole : parseHole offset (offset + 1) seen [] (name ++ []) =
      parseHole offset (offset + 1 + name.length) seen (name.reverse ++ []) [] :=
    parseHole_append [] name _ [] hname
  rw [List.append_nil] at hhole
  rw [parseText, if_neg (by decide), if_pos rfl, hhole, parseHole]

end Hole

/-- Text that has a fault is refused for it. -/
theorem FirstFault.parseText_eq {offset : Nat} {seen : List String} {cs : List Char}
    {fault : TemplateFault} (h : FirstFault offset seen cs fault) :
    parseText offset seen cs = .error fault := by
  induction h with
  | unbalanced => rw [parseText, if_pos rfl]
  | unterminated hname => exact parseText_open hname
  | emptyName => exact parseText_hole_error (List.not_mem_nil : '}' ∉ []) rfl
  | invalidName hname hne hident =>
    exact parseText_hole_error hname (checkName_of_not_isIdentifier hne hident)
  | repeatedName hident hseen =>
    exact parseText_hole_error (closing_not_mem_identifier hident) (checkName_of_mem hident hseen)
  | char hplain _ ih =>
    rw [parseText, if_neg hplain.2, if_neg hplain.1, ih]
    rfl
  | hole hident hseen _ ih =>
    rw [parseText_hole_ok (closing_not_mem_identifier hident)
      (checkName_of_isIdentifier hident hseen), ih]
    rfl

/-- Text is read or has a first fault. -/
theorem reads_or_firstFault (offset : Nat) (seen : List String) (cs : List Char) :
    (∃ pieces, Reads seen cs pieces) ∨ ∃ fault, FirstFault offset seen cs fault := by
  match cs with
  | [] => exact .inl ⟨[], .done⟩
  | c :: cs =>
    by_cases hclose : c = '}'
    · subst hclose
      exact .inr ⟨_, .unbalanced⟩
    by_cases hopen : c = '{'
    · subst hopen
      by_cases hmem : '}' ∈ cs
      · obtain ⟨name, rest, hcs, hname⟩ := List.eq_append_cons_of_mem hmem
        have hshort : rest.length < cs.length := by simp [hcs]; omega
        rw [hcs]
        by_cases hident : isIdentifier name = true
        · by_cases hseen : String.ofList name ∈ seen
          · exact .inr ⟨_, .repeatedName hident hseen⟩
          · exact (reads_or_firstFault _ (String.ofList name :: seen) rest).imp
              (fun ⟨pieces, h⟩ => ⟨_, .hole hident hseen h⟩)
              (fun ⟨fault, h⟩ => ⟨fault, .hole hident hseen h⟩)
        · by_cases hne : name = []
          · subst hne
            exact .inr ⟨_, .emptyName⟩
          · exact .inr ⟨_, .invalidName hname hne (Bool.eq_false_iff.mpr hident)⟩
      · exact .inr ⟨_, .unterminated hmem⟩
    · exact (reads_or_firstFault (offset + 1) seen cs).imp
        (fun ⟨pieces, h⟩ => ⟨_, .char ⟨hopen, hclose⟩ h⟩)
        (fun ⟨fault, h⟩ => ⟨fault, .char ⟨hopen, hclose⟩ h⟩)
termination_by cs.length
decreasing_by
  · exact Nat.lt_succ_of_lt hshort
  · exact Nat.lt_succ_self _

theorem parseSegments_eq_error_iff {text : String} {fault : TemplateFault} :
    parseSegments text = .error fault ↔ FirstFault 0 [] text.toList fault := by
  have hmap : parseSegments text = .error fault ↔ parseText 0 [] text.toList = .error fault := by
    rw [parseSegments]
    cases parseText 0 [] text.toList <;> simp [Except.map]
  rw [hmap]
  refine ⟨fun h => ?_, FirstFault.parseText_eq⟩
  rcases reads_or_firstFault 0 [] text.toList with ⟨pieces, hreads⟩ | ⟨other, hother⟩
  · cases h.symm.trans (hreads.parseText_eq 0)
  · cases h.symm.trans hother.parseText_eq
    exact hother

/-! ## What is accepted -/

/-- A text is accepted just when it is plain characters and holes, whose names are identifiers and
differ from each other, and refused otherwise for the first fault that it has. What is accepted are
the texts in which the names are words, just when no name in it ends in a line feed. -/
theorem parseSegments_accepts_iff (text : String) :
    ((∃ segments, parseSegments text = .ok segments) ↔ IsTemplate isIdentifier text) ∧
    (((∃ segments, parseSegments text = .ok segments) ↔ IsTemplate isWord text) ↔
      ∀ segments, parseSegments text = .ok segments →
        ∀ name ∈ params segments, '\n' ∉ name.toList) ∧
    ((¬∃ segments, parseSegments text = .ok segments) ↔
      ∃ fault, parseSegments text = .error fault) ∧
    ∀ fault, parseSegments text = .error fault ↔ FirstFault 0 [] text.toList fault := by
  refine ⟨exists_parseSegments_iff, ?_, ?_, fun _ => parseSegments_eq_error_iff⟩
  · rw [isTemplate_isWord_iff]
    constructor
    · intro hiff segments hsegments name hname
      obtain ⟨others, hothers, hlines⟩ := hiff.mp ⟨segments, hsegments⟩
      cases hsegments.symm.trans hothers
      exact hlines name hname
    · intro hlines
      exact ⟨fun ⟨segments, h⟩ => ⟨segments, h, hlines segments h⟩,
        fun ⟨segments, h, _⟩ => ⟨segments, h⟩⟩
  · cases parseSegments text <;> simp

/-- A name that ends in a line feed is taken, although it is no word. -/
theorem parseSegments_accepts_linefeed :
    parseSegments "/\x7ba\n\x7d" = .ok [.literal "/", .param "a\n"] ∧
      ¬IsTemplate isWord "/\x7ba\n\x7d" := by
  have hparsed : parseSegments "/\x7ba\n\x7d" = .ok [.literal "/", .param "a\n"] := by decide
  refine ⟨hparsed, fun h => ?_⟩
  obtain ⟨segments, hsegments, hlines⟩ := isTemplate_isWord_iff.mp h
  cases hparsed.symm.trans hsegments
  exact hlines "a\n" List.mem_cons_self (by decide)

end Routewright
