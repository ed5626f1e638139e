import Routewright.Proofs.Escaping
import Routewright.Proofs.Utf8

/-!
# Literals in front of other source text

What a literal denotes and where it ends is told by reading source text that starts with it and goes
on in any way (`LiteralRules.read`). If each character of a text is written so that it is read as
itself, whatever follows, then the whole text is read back, and the literal ends with the quotes
that were put behind it (`LiteralRules.read_flatMap`).

String literals in Rust (`Rust.stringLiteral_read_back`) and docstrings in Python
(`Python.docstring_read_back`) are written so. A docstring is one line, but null characters stay in
it, which no source text may have.
-/

namespace Routewright

/-! ## Texts in other forms -/

namespace Text

theorem length_hex_le {width n k : Nat} (hk : 0 < k) (hwidth : width ≤ k) (hn : n < 16 ^ k) :
    (hex width n).length ≤ k := by
  have hlen : (Nat.toDigits 16 n).length ≤ k :=
    (Nat.length_toDigits_le_iff (by decide) hk).mpr hn
  rw [hex, List.length_append, List.length_replicate]
  omega

/-- Words are the pieces between blanks, without the empty ones. -/
theorem words_eq_splitOnP (cs : List Char) :
    words cs = (cs.splitOnP isBlank).filter (· ≠ []) := by
  induction cs using words.induct with
  | case1 => rfl
  | case2 c cs hblank ih =>
    rw [words.eq_def, List.splitOnP_cons_eq_if_modifyHead]
    simp only [if_pos hblank, ih]
    rfl
  | case3 c hblank =>
    rw [words.eq_def, List.splitOnP_cons_eq_if_modifyHead]
    simp only [if_neg hblank]
    rfl
  | case4 c hblank d cs hnext ih =>
    rw [words.eq_def, List.splitOnP_cons_eq_if_modifyHead]
    simp only [if_neg hblank, if_pos hnext, ih, List.splitOnP_cons_eq_if_modifyHead]
    rfl
  | case5 c hblank d cs hnext hnone ih =>
    exfalso
    rw [ih, List.splitOnP_cons_eq_if_modifyHead, if_neg hnext] at hnone
    obtain ⟨p, ps, hps⟩ := List.exists_cons_of_ne_nil (List.splitOnP_ne_nil isBlank cs)
    rw [hps] at hnone
    cases hnone
  | case6 c hblank d cs hnext w ws hwords ih =>
    obtain ⟨p, ps, hps⟩ := List.exists_cons_of_ne_nil (List.splitOnP_ne_nil isBlank cs)
    have hsplit : (d :: cs).splitOnP isBlank = (d :: p) :: ps := by
      rw [List.splitOnP_cons_eq_if_modifyHead, if_neg hnext, hps]
      rfl
    rw [hsplit, hwords] at ih
    obtain ⟨rfl, rfl⟩ := List.cons_eq_cons.mp ih
    rw [words.eq_def, List.splitOnP_cons_eq_if_modifyHead, hsplit]
    simp only [if_neg hblank, if_neg hnext, hwords]
    rfl

/-- Words are what a text has beside its blanks. -/
theorem flatten_words (cs : List Char) : (words cs).flatten = cs.filter (!isBlank ·) := by
  rw [words_eq_splitOnP, List.flatten_filter_ne_nil]
  induction cs with
  | nil => rfl
  | cons c cs ih =>
    rw [List.splitOnP_cons_eq_if_modifyHead, List.filter_cons, ← ih]
    split_ifs with hblank
    · simp [hblank] at *
    · rfl
    · obtain ⟨p, ps, hps⟩ := List.exists_cons_of_ne_nil (List.splitOnP_ne_nil isBlank cs)
      rw [hps]
      rfl
    · simp [hblank] at *

theorem isBlank_of_isLineEnd {c : Char} (h : isLineEnd c = true) : isBlank c = true := by
  simp only [isLineEnd, isBlank, Bool.or_eq_true, Bool.and_eq_true, decide_eq_true_eq,
    beq_iff_eq] at h ⊢
  omega

end Text

/-- No line ends in what is enclosed. -/
theorem Enclosed.isBreak_eq_false {cs : List Char} (h : Enclosed cs) :
    ∀ c ∈ cs, isBreak c = false := by
  induction h with
  | nil => exact fun c hc => absurd hc List.not_mem_nil
  | verbatim hc _ ih =>
    exact List.forall_mem_cons.mpr ⟨isBreak_eq_false_iff.mpr (ne_of_isVerbatim hc).2.2, ih⟩
  | escaped hc _ ih =>
    exact List.forall_mem_cons.mpr ⟨by decide, List.forall_mem_cons.mpr ⟨hc, ih⟩⟩

namespace Code

/-! ## Reading literals -/

/-- The rules of a kind of literal. `closes` says whether a literal ends in front of a text : what
it still denotes there, and the text behind it. Otherwise `next` says what a character completes and
where it leads. -/
structure LiteralRules (σ α : Type) where
  closes : σ → List Char → Option (List α × List Char)
  next : Char → σ → Option (List α × σ)

namespace LiteralRules

variable {σ α : Type} {rules : LiteralRules σ α}

/-- What the rest of a literal denotes, and the source text behind it. -/
def read (rules : LiteralRules σ α) : σ → List Char → Option (List α × List Char)
  | _, [] => none
  | r, c :: cs =>
    match rules.closes r (c :: cs) with
    | some ending => some ending
    | none =>
      match rules.next c r with
      | none => none
      | some (denoted, r) => (rules.read r cs).map (Prod.map (denoted ++ ·) id)

section Steps

variable {r r' : σ} {c : Char} {cs : List Char}

theorem read_of_closes {ending : List α × List Char}
    (h : rules.closes r (c :: cs) = some ending) : rules.read r (c :: cs) = some ending := by
  rw [read, h]

theorem read_of_next {denoted : List α} (hopen : rules.closes r (c :: cs) = none)
    (h : rules.next c r = some (denoted, r')) :
    rules.read r (c :: cs) = (rules.read r' cs).map (Prod.map (denoted ++ ·) id) := by
  rw [read, hopen, h]

/-- A character that completes nothing leads on. -/
theorem read_of_skip (hopen : rules.closes r (c :: cs) = none)
    (h : rules.next c r = some ([], r')) : rules.read r (c :: cs) = rules.read r' cs := by
  rw [read_of_next hopen h]
  exact Option.map_id'

end Steps

/-- A text is read back if each of its characters is. -/
theorem read_flatMap {write : Char → List Char} {value : Char → α} {r : σ} {rest : List Char}
    {ending : List Char} (hend : rules.read r rest = some ([], ending)) :
    ∀ {text : List Char}, (∀ c ∈ text, ∀ cs, rules.read r (write c ++ cs) =
        (rules.read r cs).map (Prod.map (value c :: ·) id)) →
      rules.read r (text.flatMap write ++ rest) = some (text.map value, ending)
  | [], _ => hend
  | c :: text, h => by
    obtain ⟨hc, htext⟩ := List.forall_mem_cons.mp h
    rw [List.flatMap_cons, List.append_assoc, hc, read_flatMap hend htext]
    rfl

end LiteralRules

/-! ## String literals in Rust -/

namespace Rust

open Text

/-- Where a reader is inside a literal : among characters, behind a backslash, inside the two digits
of an escape of ASCII, behind the letter of an escape in braces, inside these braces, with `count`
digits of the number `n` read, or behind the end of a line that does not count. -/
inductive Reading
  | plain
  | escape
  | ascii
  | asciiLow (high : Nat)
  | brace
  | unicode (count n : Nat)
  | continued
  deriving DecidableEq, Repr

/-- The character of an escape of one letter or sign. -/
def letterEscape? : Char → Option Char
  | '\\' => some '\\'
  | '\'' => some '\''
  | '"' => some '"'
  | '0' => some '\x00'
  | 'n' => some '\n'
  | 'r' => some '\r'
  | 't' => some '\t'
  | _ => none

/-- What a character that no escape claims denotes, and where it leads. Lines may end in a literal,
but not with a carriage return. -/
def readPlain (c : Char) : Option (List Char × Reading) :=
  if c = '\\' then some ([], .escape)
  else if c = '\r' then none
  else some ([c], .plain)

/-- The character that a digit of an escape in braces completes, and where it leads. There are one
to six digits, and underscores behind any of them. -/
def readUnicode (count n : Nat) (c : Char) : Option (List Char × Reading) :=
  if c = '}' then
    if 0 < count ∧ n.isValidChar then some ([Char.ofNat n], .plain) else none
  else if c = '_' then
    if 0 < count then some ([], .unicode count n) else none
  else if count < 6 then (digitIn? 16 c).map fun d => ([], .unicode (count + 1) (n * 16 + d))
  else none

/-- The characters that a character completes, and where it leads. -/
def Reading.next (c : Char) : Reading → Option (List Char × Reading)
  | .plain => readPlain c
  | .escape =>
    match letterEscape? c with
    | some d => some ([d], .plain)
    | none =>
      if c = '\n' then some ([], .continued)
      else if c = 'x' then some ([], .ascii)
      else if c = 'u' then some ([], .brace)
      else none
  | .ascii => (digitIn? 8 c).map fun d => ([], .asciiLow d)
  | .asciiLow high => (digitIn? 16 c).map fun d => ([Char.ofNat (high * 16 + d)], .plain)
  | .brace => if c = '{' then some ([], .unicode 0 0) else none
  | .unicode count n => readUnicode count n c
  | .continued =>
    if c = ' ' || c = '\n' || c = '\r' || c = '\t' then some ([], .continued) else readPlain c

/-- A literal ends with a quote that no escape claims. -/
def Reading.closes (r : Reading) : List Char → Option (List Char × List Char)
  | '"' :: rest => if r = .plain ∨ r = .continued then some ([], rest) else none
  | _ => none

/-- The rules of string literals. -/
def literalRules : LiteralRules Reading Char where
  closes := Reading.closes
  next := Reading.next

/-- The text of the string literal that source text starts with, and the source text behind it. -/
def literalAhead? : List Char → Option (List Char × List Char)
  | '"' :: cs => literalRules.read .plain cs
  | _ => none

example : literalAhead? "\"a\\x41\\u{1_F600}\\\n  b\", c".toList =
    some (['a', 'A', '😀', 'b'], [',', ' ', 'c']) := by
  decide

theorem closes_of_ne {r : Reading} {c : Char} {cs : List Char} (h : c ≠ '"') :
    literalRules.closes r (c :: cs) = none := by
  change r.closes (c :: cs) = none
  unfold Reading.closes
  split
  case h_1 heq => exact absurd (List.cons.inj heq).1 h
  case h_2 => rfl

/-- An escape of one letter or sign denotes its character. -/
theorem read_letter {c d : Char} (h : letterEscape? c = some d) (cs : List Char) :
    literalRules.read .plain ('\\' :: c :: cs) =
      (literalRules.read .plain cs).map (Prod.map (d :: ·) id) := by
  have hbackslash : literalRules.next '\\' .plain = some ([], .escape) := rfl
  have hletter : literalRules.next c .escape = some ([d], .plain) := by
    change Reading.next c .escape = _
    rw [Reading.next, h]
  have hopen : literalRules.closes .escape (c :: cs) = none := by
    change Reading.closes .escape (c :: cs) = none
    unfold Reading.closes
    split <;> rfl
  rw [LiteralRules.read_of_skip (closes_of_ne (by decide)) hbackslash,
    LiteralRules.read_of_next hopen hletter]
  rfl

/-- Digits in braces add up to the number that they write. -/
theorem read_digits (cs : List Char) :
    ∀ {digits : List Char} {count n m : Nat}, count + digits.length ≤ 6 →
      digitsIn? 16 n digits = some m →
      literalRules.read (.unicode count n) (digits ++ cs) =
        literalRules.read (.unicode (count + digits.length) m) cs
  | [], _, _, _, _, h => by
    obtain rfl := Option.some.inj h
    rfl
  | c :: digits, count, n, m, hlen, hm => by
    rw [List.length_cons] at hlen ⊢
    rw [digitsIn?] at hm
    cases hdigit : digitIn? 16 c with
    | none => simp [hdigit] at hm
    | some d =>
      simp only [hdigit] at hm
      have hne {sign : Char} (hsign : digitIn? 16 sign = none) : c ≠ sign := by
        rintro rfl
        rw [hsign] at hdigit
        cases hdigit
      have hnext : literalRules.next c (.unicode count n) =
          some ([], .unicode (count + 1) (n * 16 + d)) := by
        change readUnicode count n c = _
        rw [readUnicode, if_neg (hne (by decide)), if_neg (hne (by decide)), if_pos (by omega),
          hdigit]
        rfl
      rw [List.cons_append, LiteralRules.read_of_skip (closes_of_ne (hne (by decide))) hnext,
        read_digits cs (by omega) hm, Nat.add_right_comm, Nat.add_assoc]

/-- A character that is written in braces is read back. -/
theorem read_unicode {c : Char} {digits : List Char} (hpos : digits ≠ []) (hlen : digits.length ≤ 6)
    (hc : digitsIn? 16 0 digits = some c.toNat) (cs : List Char) :
    literalRules.read .plain ('\\' :: 'u' :: '{' :: (digits ++ '}' :: cs)) =
      (literalRules.read .plain cs).map (Prod.map (c :: ·) id) := by
  have hbackslash : literalRules.next '\\' .plain = some ([], .escape) := rfl
  have hletter : literalRules.next 'u' .escape = some ([], .brace) := rfl
  have hbrace : literalRules.next '{' .brace = some ([], .unicode 0 0) := rfl
  have hend : literalRules.next '}' (.unicode (0 + digits.length) c.toNat) =
      some ([c], .plain) := by
    change readUnicode _ _ '}' = _
    have hvalid : c.toNat.isValidChar := c.valid
    rw [readUnicode, if_pos rfl, if_pos ⟨by simpa using List.length_pos_iff.mpr hpos, hvalid⟩,
      Char.ofNat_toNat]
  rw [LiteralRules.read_of_skip (closes_of_ne (by decide)) hbackslash,
    LiteralRules.read_of_skip (closes_of_ne (by decide)) hletter,
    LiteralRules.read_of_skip (closes_of_ne (by decide)) hbrace,
    read_digits _ (by omega) hc, LiteralRules.read_of_next (closes_of_ne (by decide)) hend]
  rfl

/-- Each character is read back as it is written in a literal. -/
theorem read_literalChar (c : Char) (cs : List Char) :
    literalRules.read .plain (literalChar c ++ cs) =
      (literalRules.read .plain cs).map (Prod.map (c :: ·) id) := by
  unfold literalChar
  split_ifs with hquote hfeed hreturn htab hcontrol
  · simp only [Bool.or_eq_true, decide_eq_true_eq] at hquote
    rcases hquote with rfl | rfl <;> exact read_letter rfl cs
  · subst hfeed; exact read_letter rfl cs
  · subst hreturn; exact read_letter rfl cs
  · subst htab; exact read_letter rfl cs
  · rw [List.append_assoc]
    refine read_unicode ?_ ?_ (digitsIn?_hex 1 c.toNat) cs
    · exact List.append_ne_nil_of_right_ne_nil _ Nat.toDigits_ne_nil
    · exact length_hex_le (by decide) (by decide) (by omega)
  · simp only [Bool.or_eq_true, decide_eq_true_eq, not_or] at hquote
    have hnext : literalRules.next c .plain = some ([c], .plain) := by
      change readPlain c = _
      rw [readPlain, if_neg hquote.2, if_neg hreturn]
    exact LiteralRules.read_of_next (closes_of_ne hquote.1) hnext

/-- A text as a literal is read back, and no character of the literal ends a line. Whatever source
text follows, the literal ends with its last quote. The length of a text is written as the number of
its bytes. -/
theorem stringLiteral_read_back (s : String) (rest : List Char) :
    expr (.literal (.text s)) = stringLiteral s ∧
    literalAhead? ((stringLiteral s).toList ++ rest) = some (s.toList, rest) ∧
    (∀ c ∈ (stringLiteral s).toList, c ≠ '\n' ∧ c ≠ '\r') ∧
    expr (.length (.literal (.text s))) = toString (encodeUtf8 s).length := by
  refine ⟨rfl, ?_, ?_, ?_⟩
  · have hend : literalRules.read .plain ('"' :: rest) = some ([], rest) :=
      LiteralRules.read_of_closes rfl
    have hread : literalRules.read .plain (s.toList.flatMap literalChar ++ '"' :: rest) =
        some (s.toList.map id, rest) :=
      LiteralRules.read_flatMap hend fun c _ => read_literalChar c
    rw [List.map_id] at hread
    rw [stringLiteral, String.toList_ofList, List.cons_append, List.cons_append,
      List.append_assoc]
    exact hread
  · intro c hc
    rw [stringLiteral, String.toList_ofList, List.mem_append, List.mem_cons] at hc
    refine isBreak_eq_false_iff.mp ?_
    rcases hc with (rfl | hc) | hc
    · decide
    · exact (Enclosed.flatMap fun d _ => Rust.enclosed_literalChar d).isBreak_eq_false c hc
    · rw [List.mem_singleton.mp hc]
      decide
  · rw [length_encodeUtf8]
    rfl

end Rust

/-! ## Docstrings in Python -/

namespace Python

open Text

/-- The code points that are complete where a reader is, if it is not inside of an escape. -/
def Reading.settled? : Reading → Option (List Nat)
  | .plain => some []
  | .octal _ n => some [n]
  | _ => none

/-- What a character between three quotes completes, and where it leads. One or two quotes and the
ends of lines stand for themselves, and so would null characters if source text had any. -/
def Reading.nextLong (c : Char) (r : Reading) : Option (List Nat × Reading) :=
  match r.settled? with
  | some points =>
    if c = '"' || c = '\n' || c = '\x00' then some (points ++ [c.toNat], .plain) else r.next c
  | none => r.next c

/-- A literal between three quotes ends with the first three that no escape claims. -/
def Reading.closesLong (r : Reading) (cs : List Char) : Option (List Nat × List Char) :=
  match r.settled?, cs with
  | some points, '"' :: '"' :: '"' :: rest => some (points, rest)
  | _, _ => none

/-- The rules of literals between three quotes. -/
def longRules : LiteralRules Reading Nat where
  closes := Reading.closesLong
  next := Reading.nextLong

/-- The code points of the literal between three quotes that source text starts with, and the source
text behind it. -/
def longAhead? : List Char → Option (List Nat × List Char)
  | '"' :: '"' :: '"' :: cs => longRules.read .plain cs
  | _ => none

example : longAhead? "\"\"\"a\"\"\\\"\\61\"\"\"\"".toList =
    some ([0x61, 0x22, 0x22, 0x22, 0x31], ['"']) := by
  decide

theorem closesLong_of_ne {r : Reading} {c : Char} {cs : List Char} (h : c ≠ '"') :
    longRules.closes r (c :: cs) = none := by
  change r.closesLong (c :: cs) = none
  unfold Reading.closesLong
  split
  case h_1 heq => exact absurd (List.cons.inj heq).1 h
  case h_2 => rfl

/-- One character of documentation as it is written in a docstring. -/
def docChar (c : Char) : List Char :=
  if c = '\\' then ['\\', '\\'] else if c = '"' then ['\\', '"'] else [c]

/-- Each character of documentation on one line is read back as it is written. -/
theorem read_docChar {c : Char} (hc : isBreak c = false) (cs : List Char) :
    longRules.read .plain (docChar c ++ cs) =
      (longRules.read .plain cs).map (Prod.map (c.toNat :: ·) id) := by
  have hbackslash : longRules.next '\\' .plain = some ([], .escape) := rfl
  unfold docChar
  split_ifs with hslash hquote
  · subst hslash
    have hslash : longRules.next '\\' .escape = some (['\\'.toNat], .plain) := rfl
    rw [List.cons_append, LiteralRules.read_of_skip (closesLong_of_ne (by decide)) hbackslash]
    exact LiteralRules.read_of_next rfl hslash
  · subst hquote
    have hquote : longRules.next '"' .escape = some (['"'.toNat], .plain) := rfl
    rw [List.cons_append, LiteralRules.read_of_skip (closesLong_of_ne (by decide)) hbackslash]
    exact LiteralRules.read_of_next rfl hquote
  · have hnext : longRules.next c .plain = some ([c.toNat], .plain) := by
      change Reading.nextLong c .plain = _
      obtain ⟨hfeed, hreturn⟩ := isBreak_eq_false_iff.mp hc
      by_cases hnull : c = '\x00'
      · subst hnull
        rfl
      · have hpos : c.toNat ≠ 0 := fun h => hnull (Char.toNat_inj.mp h)
        simp [Reading.nextLong, Reading.settled?, Reading.next, readPlain, hslash, hquote, hfeed,
          hreturn, hnull, hpos]
    exact LiteralRules.read_of_next (closesLong_of_ne hquote) hnext

/-- Documentation as it is written in a docstring. -/
theorem toList_docstring (doc : String) :
    (docstring doc).toList = '"' :: '"' :: '"' ::
      ((join " " ((words doc.toList).map String.ofList)).toList.flatMap docChar ++
        ['"', '"', '"']) := by
  have hdoc : docstring doc = "\"\"\"" ++ String.ofList
      ((join " " ((words doc.toList).map String.ofList)).toList.flatMap docChar) ++ "\"\"\"" := rfl
  have hquotes : ("\"\"\"" : String).toList = ['"', '"', '"'] := rfl
  rw [hdoc, String.toList_append, String.toList_append, hquotes, String.toList_ofList,
    List.append_assoc]
  rfl

/-- Every character of a docstring is one of those that are put into all, or stands in a word. -/
theorem forall_mem_docstring {doc : String} {P : Char → Prop} (hquote : P '"') (hslash : P '\\')
    (hspace : P ' ') :
    (∀ c ∈ (docstring doc).toList, P c) ↔ ∀ word ∈ words doc.toList, ∀ c ∈ word, P c := by
  have hchar (c : Char) : (∀ d ∈ docChar c, P d) ↔ P c := by
    unfold docChar
    split_ifs with hc hc
    · simp [hc, hslash]
    · simp [hc, hslash, hquote]
    · simp
  have hseparator : ∀ c ∈ (" " : String).toList, P c := by
    simpa using hspace
  have hwords : (∀ word ∈ words doc.toList, ∀ c ∈ word, P c) ↔
      ∀ c ∈ (join " " ((words doc.toList).map String.ofList)).toList, P c := by
    rw [forall_mem_join hseparator, List.forall_mem_map]
    simp only [String.toList_ofList]
  rw [toList_docstring, hwords]
  generalize (join " " ((words doc.toList).map String.ofList)).toList = line
  simp only [List.forall_mem_cons, List.forall_mem_append, List.forall_mem_flatMap, hchar, hquote,
    List.not_mem_nil, false_implies, implies_true, and_true, true_and]

/-- Whether a text can stand in a source file, which has no null characters. -/
def IsSource (cs : List Char) : Prop :=
  ∀ c ∈ cs, c ≠ '\x00'

/-- Documentation as a docstring is read back as its words in a row, and no character of the
docstring ends a line. Whatever source text follows, the docstring ends with its last three quotes.
It can stand in a source file just when the documentation has no null character. Documentation is a
text of characters : halves of surrogate pairs, which no source file can hold, are left out. -/
theorem docstring_read_back (doc : String) (rest : List Char) :
    longAhead? ((docstring doc).toList ++ rest) =
      some ((join " " (((doc.toList.splitOnP isBlank).filter (· ≠ [])).map
        String.ofList)).toList.map Char.toNat, rest) ∧
    (∀ c ∈ (docstring doc).toList, isLineEnd c = false) ∧
    (IsSource (docstring doc).toList ↔ '\x00' ∉ doc.toList) := by
  refine ⟨?_, ?_, ?_⟩
  · have hline : ∀ c ∈ (join " " ((words doc.toList).map String.ofList)).toList,
        isBreak c = false := by
      refine (forall_mem_join (spansLines_eq_false_iff.mp rfl)).mpr ?_
      refine List.forall_mem_map.mpr fun word hword c hc => ?_
      rw [String.toList_ofList] at hc
      exact isBreak_of_not_isBlank (not_isBlank_of_mem_words hword hc)
    have hend : longRules.read .plain ('"' :: '"' :: '"' :: rest) = some ([], rest) :=
      LiteralRules.read_of_closes rfl
    have hread := LiteralRules.read_flatMap hend fun c hc => read_docChar (hline c hc)
    rw [← words_eq_splitOnP, toList_docstring, List.cons_append, List.cons_append,
      List.cons_append, List.append_assoc]
    exact hread
  · refine (forall_mem_docstring (by decide) (by decide) (by decide)).mpr fun word hword c hc => ?_
    have hblank := not_isBlank_of_mem_words hword hc
    exact Bool.eq_false_iff.mpr fun hend => Bool.eq_false_iff.mp hblank (isBlank_of_isLineEnd hend)
  · have hnull : ('\x00' ∈ doc.toList) ↔ '\x00' ∈ (words doc.toList).flatten := by
      rw [flatten_words, List.mem_filter]
      exact (and_iff_left rfl).symm
    rw [IsSource, forall_mem_docstring (by decide) (by decide) (by decide), hnull,
      List.mem_flatten]
    exact ⟨fun h ⟨word, hword, hc⟩ => h word hword _ hc rfl,
      fun h word hword c hc heq => h ⟨word, hword, heq ▸ hc⟩⟩

/-- A null character stays in a docstring as it is. -/
theorem docstring_with_null :
    (docstring "a\x00b").toList = ['"', '"', '"', 'a', '\x00', 'b', '"', '"', '"'] ∧
      ¬IsSource (docstring "a\x00b").toList := by
  have hchars : (docstring "a\x00b").toList =
      ['"', '"', '"', 'a', '\x00', 'b', '"', '"', '"'] := by
    decide
  exact ⟨hchars, fun h => h '\x00' (by rw [hchars]; decide) rfl⟩

end Python

end Code

end Routewright
