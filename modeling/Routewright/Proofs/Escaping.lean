import Routewright.Proofs.Documentation
import Routewright.Proofs.Lexing
import Routewright.Proofs.StringLiteral

/-!
# Text in literals and comments

Arbitrary text gets into source code in four ways: as a string literal, of either target, between
three quotes, and behind the slashes of documentation. Whatever its characters are, it stays in
there: a literal holds no line break and ends at the quote behind it (`Enclosed`), and a line of
documentation is one line of comment.
-/

namespace Routewright

open Code

/-! ## Inside of literals -/

/-- Whether a character may stand for itself in a literal. -/
def isVerbatim (c : Char) : Bool :=
  c ∉ ['"', '\\', '\n', '\r']

/-- Text that stays inside of a literal: quotes and backslashes are behind a backslash, and no line
ends. -/
inductive Enclosed : List Char → Prop
  | nil : Enclosed []
  | verbatim {c : Char} {cs : List Char} (hc : isVerbatim c = true) (h : Enclosed cs) :
      Enclosed (c :: cs)
  | escaped {c : Char} {cs : List Char} (hc : isBreak c = false) (h : Enclosed cs) :
      Enclosed ('\\' :: c :: cs)

namespace Enclosed

theorem append {cs cs' : List Char} (h : Enclosed cs) (h' : Enclosed cs') :
    Enclosed (cs ++ cs') := by
  induction h with
  | nil => exact h'
  | verbatim hc _ ih => exact .verbatim hc ih
  | escaped hc _ ih => exact .escaped hc ih

theorem of_verbatim {cs : List Char} (h : ∀ c ∈ cs, isVerbatim c = true) : Enclosed cs := by
  induction cs with
  | nil => exact .nil
  | cons c cs ih =>
    obtain ⟨hc, hcs⟩ := List.forall_mem_cons.mp h
    exact .verbatim hc (ih hcs)

/-- A text is enclosed if what each of its characters becomes is. -/
theorem flatMap {cs : List Char} {f : Char → List Char} (h : ∀ c ∈ cs, Enclosed (f c)) :
    Enclosed (cs.flatMap f) := by
  induction cs with
  | nil => exact .nil
  | cons c cs ih =>
    obtain ⟨hc, hcs⟩ := List.forall_mem_cons.mp h
    rw [List.flatMap_cons]
    exact hc.append (ih hcs)

end Enclosed

/-- No character that may stand for itself is one that may not. -/
theorem ne_of_isVerbatim {c : Char} (hc : isVerbatim c = true) :
    c ≠ '"' ∧ c ≠ '\\' ∧ c ≠ '\n' ∧ c ≠ '\r' := by
  have hne : ∀ d ∈ ['"', '\\', '\n', '\r'], c ≠ d :=
    fun d hd heq => of_decide_eq_true hc (heq ▸ hd)
  exact ⟨hne _ (by decide), hne _ (by decide), hne _ (by decide), hne _ (by decide)⟩

theorem isBreak_eq_false_iff {c : Char} : isBreak c = false ↔ c ≠ '\n' ∧ c ≠ '\r' := by
  simp [isBreak]

/-- A reader that has read some characters of a literal. -/
def Reader.hold (r : Reader) (cs : List Char) : Reader :=
  { r with current := cs.reverse ++ r.current }

theorem Reader.hold_hold (r : Reader) (cs cs' : List Char) :
    (r.hold cs).hold cs' = r.hold (cs ++ cs') := by
  rw [hold, hold, hold, List.reverse_append, List.append_assoc]

namespace Target

variable {target : Target} {r : Reader} {c : Char} {due : List Char}

/-- The places in a literal between its characters. -/
def InText (place : SourcePlace) : Prop :=
  place = .text ∨ place = .long 0

theorem readTame_verbatim (hr : InText r.place) (hc : isVerbatim c = true) :
    [c].foldlM target.readTame r = some (r.hold [c]) := by
  obtain ⟨hquote, hslash, hfeed, hreturn⟩ := ne_of_isVerbatim hc
  obtain ⟨place, due, current, literals⟩ := r
  refine Option.bind_eq_some_iff.mpr ⟨_, readTame_eq_some_iff.mpr
    ⟨hreturn, ?_, fun heq => absurd heq hfeed⟩, rfl⟩
  rcases hr with rfl | rfl
  · have hbreak : target.breaksText c = false := by simp [breaksText, hfeed, hreturn]
    simp only [read, readText, if_neg hquote, if_neg hslash, hbreak]
    rfl
  · simp only [read, readLong, if_neg hquote, if_neg hslash]
    rfl

/-- A backslash takes the character behind it along. -/
theorem readTame_escaped (hr : InText r.place) (hc : isBreak c = false) :
    ['\\', c].foldlM target.readTame r = some (r.hold ['\\', c]) := by
  obtain ⟨hfeed, hreturn⟩ := isBreak_eq_false_iff.mp hc
  obtain ⟨place, due, current, literals⟩ := r
  have hescape : ∃ behind : Reader,
      target.readTame { place, due, current, literals } '\\' = some behind ∧
        target.readTame behind c =
          some (Reader.hold { place, due, current, literals } ['\\', c]) := by
    rcases hr with rfl | rfl
    · exact ⟨_, readTame_eq_some_iff.mpr ⟨by decide, rfl, fun heq => absurd heq (by decide)⟩,
        readTame_eq_some_iff.mpr ⟨hreturn, rfl, fun heq => absurd heq hfeed⟩⟩
    · exact ⟨_, readTame_eq_some_iff.mpr ⟨by decide, rfl, fun heq => absurd heq (by decide)⟩,
        readTame_eq_some_iff.mpr ⟨hreturn, rfl, fun heq => absurd heq hfeed⟩⟩
  obtain ⟨behind, hslash, hchar⟩ := hescape
  rw [List.foldlM_cons, hslash, Option.bind_eq_bind, Option.bind_some, List.foldlM_cons, hchar]
  rfl

/-- Enclosed text is read to its end inside of a literal. -/
theorem foldlM_of_enclosed {cs : List Char} (h : Enclosed cs) :
    ∀ {r : Reader}, InText r.place → cs.foldlM target.readTame r = some (r.hold cs) := by
  have hstep : ∀ {first rest : List Char} {r : Reader}, InText r.place →
      first.foldlM target.readTame r = some (r.hold first) →
      (∀ {r : Reader}, InText r.place → rest.foldlM target.readTame r = some (r.hold rest)) →
      (first ++ rest).foldlM target.readTame r = some (r.hold (first ++ rest)) := by
    intro first rest r hr hfirst hrest
    rw [List.foldlM_append, hfirst, Option.bind_eq_bind, Option.bind_some,
      hrest (r := r.hold first) hr, Reader.hold_hold]
  induction h with
  | nil => exact fun _ => rfl
  | verbatim hc _ ih => exact fun hr => hstep hr (readTame_verbatim hr hc) ih
  | escaped hc _ ih => exact fun hr => hstep hr (readTame_escaped hr hc) ih

/-! ### Literals -/

/-- Behind the first quote, a literal that goes on without another is read as any literal. -/
theorem readTame_quote (hc : c ≠ '"') :
    target.readTame (r.goTo .quote) c = target.readTame (r.goTo .text) c := by
  simp only [readTame, read, Reader.goTo, if_neg hc]
  rfl

/-- Enclosed text between quotes is a literal. In Python there must be some, as two quotes may be
the start of three. -/
theorem lexes_of_enclosed {cs : List Char} (h : Enclosed cs) (hcs : target = .python → cs ≠ []) :
    target.Lexes (String.ofList ('"' :: cs ++ ['"'])) due due := by
  have hinside := @foldlM_of_enclosed target cs h { place := .text, due } (.inl rfl)
  have hopen : ('"' :: cs).foldlM target.readTame { due } =
      some (Reader.hold { place := .text, due } cs) := by
    rw [← hinside]
    cases target with
    | rust => rfl
    | python =>
      cases h with
      | nil => exact absurd rfl (hcs rfl)
      | @verbatim c rest hc _ =>
        exact congrArg (· >>= (rest.foldlM _ ·)) (readTame_quote (ne_of_isVerbatim hc).1)
      | @escaped c rest _ _ =>
        have hslash : '\\' ≠ '"' := by decide
        exact congrArg (· >>= ((c :: rest).foldlM _ ·)) (readTame_quote hslash)
  refine ⟨[String.ofList (cs.reverse ++ []).reverse], ?_⟩
  rw [String.toList_ofList, List.foldlM_append, hopen]
  rfl

/-- Enclosed text between three quotes is a literal. -/
theorem lexes_of_enclosed_long {s : String} (h : Enclosed s.toList) :
    Target.python.Lexes ("\"\"\"" ++ s ++ "\"\"\"") due due := by
  have hopen : "\"\"\"".toList.foldlM Target.python.readTame { due } =
      some { place := .long 0, due } := rfl
  refine ⟨[String.ofList (s.toList.reverse ++ []).reverse], ?_⟩
  rw [String.toList_append, String.toList_append, List.foldlM_append, List.foldlM_append, hopen,
    Option.bind_eq_bind, Option.bind_some, foldlM_of_enclosed h (.inr rfl)]
  rfl

end Target

/-! ## Escaped characters -/

/-- The digits of a number are letters and digits. -/
theorem isAlphanum_of_mem_toDigits {base : Nat} (hbase : 1 < base) (hlt : base ≤ 16) (n : Nat) :
    ∀ c ∈ Nat.toDigits base n, c.isAlphanum := by
  have hdigit : ∀ d < 16, (Nat.digitChar d).isAlphanum := by decide
  induction n using Nat.strongRecOn with
  | ind n ih =>
    rw [Nat.toDigits_eq_if hbase]
    split_ifs with hn
    · exact List.forall_mem_singleton.mpr (hdigit n (by omega))
    · refine List.forall_mem_append.mpr ⟨ih _ (Nat.div_lt_self (by omega) hbase), ?_⟩
      exact List.forall_mem_singleton.mpr (hdigit _ ((Nat.mod_lt n (by omega)).trans_le hlt))

theorem isVerbatim_of_isAlphanum {c : Char} (hc : c.isAlphanum) : isVerbatim c = true :=
  forall_isAlphanum (P := fun c => isVerbatim c = true) (by decide +kernel) hc

theorem isInert_of_isAlphanum {c : Char} (hc : c.isAlphanum) : Target.isInert c = true :=
  forall_isAlphanum (P := fun c => Target.isInert c = true) (by decide +kernel) hc

theorem isVerbatim_of_mem_hex {width n : Nat} : ∀ c ∈ Text.hex width n, isVerbatim c = true := by
  refine List.forall_mem_append.mpr ⟨fun c hc => ?_, fun c hc => ?_⟩
  · rw [List.eq_of_mem_replicate hc]
    decide
  · exact isVerbatim_of_isAlphanum (isAlphanum_of_mem_toDigits (by decide) (by decide) n c hc)

/-- A backslash with a letter, or with any character that ends no line. -/
theorem enclosed_escape {c : Char} (hc : isBreak c = false) : Enclosed ['\\', c] :=
  .escaped hc .nil

theorem isBreak_of_escaped {c : Char} (hc : (c = '"' || c = '\\') = true) : isBreak c = false := by
  rcases Bool.or_eq_true_iff.mp hc with hc | hc <;> rw [of_decide_eq_true hc] <;> decide

theorem isVerbatim_of_ne {c : Char} (hmark : ¬(c = '"' || c = '\\') = true) (hfeed : ¬c = '\n')
    (hreturn : ¬c = '\r') : isVerbatim c = true := by
  simp only [Bool.or_eq_true, decide_eq_true_eq, not_or] at hmark
  simp [isVerbatim, hmark, hfeed, hreturn]

theorem enclosed_jsonUnits (c : Char) : Enclosed (Text.jsonUnits c) := by
  have hunit : ∀ n, Enclosed (Text.jsonUnit n) := fun n =>
    .escaped (by decide) (.of_verbatim isVerbatim_of_mem_hex)
  unfold Text.jsonUnits
  dsimp only
  split_ifs
  · exact hunit _
  · exact (hunit _).append (hunit _)

theorem enclosed_jsonChar (charset : Text.JsonCharset) (c : Char) :
    Enclosed (Text.jsonChar charset c) := by
  unfold Text.jsonChar
  split_ifs with hmark hfeed hreturn
  · exact enclosed_escape (isBreak_of_escaped hmark)
  iterate 5 exact enclosed_escape (by decide)
  · exact enclosed_jsonUnits c
  · exact enclosed_jsonUnits c
  · exact .verbatim (isVerbatim_of_ne hmark hfeed hreturn) .nil

theorem Rust.enclosed_literalChar (c : Char) : Enclosed (Rust.literalChar c) := by
  unfold Rust.literalChar
  split_ifs with hmark hfeed hreturn
  · exact enclosed_escape (isBreak_of_escaped hmark)
  iterate 3 exact enclosed_escape (by decide)
  · refine .escaped (by decide) (.verbatim (by decide) (.append ?_ (.verbatim (by decide) .nil)))
    exact .of_verbatim isVerbatim_of_mem_hex
  · exact .verbatim (isVerbatim_of_ne hmark hfeed hreturn) .nil

/-! ## String literals -/

namespace Target

/-- A text as a literal of a target. -/
def stringLiteral : Target → String → String
  | .python => Python.stringLiteral
  | .rust => Rust.stringLiteral

/-- Whatever a text is, its literal is one. A Python literal must not be empty. -/
theorem lexes_stringLiteral (target : Target) {s : String} (hs : s ≠ "") (due : List Char) :
    target.Lexes (target.stringLiteral s) due due := by
  cases target with
  | rust =>
    exact lexes_of_enclosed (.flatMap fun c _ => Rust.enclosed_literalChar c)
      fun heq => absurd heq (by decide)
  | python =>
    refine lexes_of_enclosed (.flatMap fun c _ => enclosed_jsonChar .ascii c) fun _ hnil => ?_
    cases hcs : s.toList with
    | nil => exact hs (String.toList_eq_nil_iff.mp hcs)
    | cons c cs =>
      rw [hcs, List.flatMap_cons] at hnil
      have hchar : Text.jsonChar .ascii c ≠ [] := by
        unfold Text.jsonChar Text.jsonUnits Text.jsonUnit
        dsimp only
        split_ifs <;> exact List.cons_ne_nil _ _
      exact hchar (List.append_eq_nil_iff.mp hnil).1

end Target

/-! ## Documentation -/

theorem isBreak_of_not_isBlank {c : Char} (hc : Text.isBlank c = false) : isBreak c = false := by
  refine isBreak_eq_false_iff.mpr ⟨?_, ?_⟩ <;>
  · rintro rfl
    exact absurd hc (by decide)

/-- Documentation in Python is one literal on one line, whatever it says. -/
theorem Python.lexes_docstring (doc : String) (due : List Char) :
    Target.python.Lexes (Python.docstring doc) due due := by
  have hline : ∀ c ∈ (Text.join " " ((Text.words doc.toList).map String.ofList)).toList,
      isBreak c = false := by
    refine (Text.forall_mem_join (spansLines_eq_false_iff.mp rfl)).mpr ?_
    refine List.forall_mem_map.mpr fun word hword c hc => ?_
    rw [String.toList_ofList] at hc
    exact isBreak_of_not_isBlank (Text.not_isBlank_of_mem_words hword hc)
  unfold Python.docstring
  refine Target.lexes_of_enclosed_long ?_
  rw [String.toList_ofList]
  refine .flatMap fun c hc => ?_
  split_ifs with hslash hquote
  · exact enclosed_escape (by decide)
  · exact enclosed_escape (by decide)
  · obtain ⟨hfeed, hreturn⟩ := isBreak_eq_false_iff.mp (hline c hc)
    exact .verbatim (by simp [isVerbatim, hslash, hquote, hfeed, hreturn]) .nil

namespace Target

variable {target : Target}

/-- Nothing on its line ends a comment. -/
theorem foldlM_comment :
    ∀ {cs : List Char}, (∀ c ∈ cs, isBreak c = false) → ∀ {r : Reader}, r.place = .comment →
      cs.foldlM target.readTame r = some r
  | [], _, _, _ => rfl
  | c :: cs, h, r, hr => by
    obtain ⟨hc, hcs⟩ := List.forall_mem_cons.mp h
    obtain ⟨hfeed, hreturn⟩ := isBreak_eq_false_iff.mp hc
    have hstays : target.readTame r c = some r := by
      refine readTame_eq_some_iff.mpr ⟨hreturn, ?_, fun heq => absurd heq hfeed⟩
      simp [read, hr, endsComment, hfeed, hreturn]
    rw [List.foldlM_cons, hstays]
    exact foldlM_comment hcs hr

end Target

/-- Documentation in Rust is lines of comments, whatever it says. -/
theorem Rust.lines_docLine {doc line : String} (h : line ∈ Rust.docLines doc) (due : List Char) :
    Target.rust.Lines line due due := by
  obtain ⟨text, hline, htext⟩ := Rust.toList_of_mem_docLines h
  have hbreak : ∀ c ∈ '/' :: text, isBreak c = false := by
    refine List.forall_mem_cons.mpr ⟨by decide, fun c hc => ?_⟩
    refine isBreak_eq_false_iff.mpr ⟨?_, ?_⟩ <;>
    · rintro rfl
      exact absurd (htext _ hc) (by decide)
  have hchars : (line ++ "\n").toList = ['/', '/'] ++ (('/' :: text) ++ ['\n']) := by
    rw [String.toList_append, hline]
    rfl
  have hopen : ['/', '/'].foldlM Target.rust.readTame { due } =
      some { place := .comment, due } := rfl
  refine ⟨[], ?_⟩
  rw [hchars, List.foldlM_append, hopen, Option.bind_eq_bind, Option.bind_some,
    List.foldlM_append, Target.foldlM_comment hbreak rfl]
  rfl

end Routewright
