import Mathlib.Data.List.Forall2
import Mathlib.Data.String.Basic
import Mathlib.Tactic.IntervalCases
import Routewright.Request.Lowering
import Routewright.Target.PythonSource
import Routewright.Text.CharacterName
import Routewright.Text.Numeral

/-!
# What Python literals denote

A text is written as a literal in the manner of JSON and read by the rules of Python. `stringValue?`
reads a literal by these rules, as the code points of what it denotes, one escape after the other.
The two agree on every character that is written as it is or as one escape. A character above the
basic plane is written as two surrogates, which JSON takes as one character and Python as two, so
a literal denotes its text just when all its characters are in the basic plane
(`stringValue?_stringLiteral`, `flatMap_utf16_eq_iff`).

A url function adds up the lengths of texts and pushes their literals. `forall₂_counts_iff` says
when what is pushed is as long as what is counted.
-/

namespace Routewright

/-! ## Hexadecimal digits -/

namespace Text

theorem digitIn?_digitChar {d : Nat} (h : d < 16) : digitIn? 16 (Nat.digitChar d) = some d := by
  interval_cases d <;> decide

theorem digitsIn?_append (base : Nat) (more : List Char) :
    ∀ (digits : List Char) (n : Nat), digitsIn? base n (digits ++ more) =
      (digitsIn? base n digits).bind fun m => digitsIn? base m more
  | [], _ => rfl
  | c :: digits, n => by
    simp only [List.cons_append, digitsIn?]
    cases digitIn? base c with
    | none => rfl
    | some d => exact digitsIn?_append base more digits _

/-- The digits of a number are read as the number. -/
theorem digitsIn?_toDigits (n : Nat) : digitsIn? 16 0 (Nat.toDigits 16 n) = some n := by
  rw [Nat.toDigits_eq_if (by decide)]
  split_ifs with hn
  · simp only [digitsIn?, digitIn?_digitChar hn, Nat.zero_mul, Nat.zero_add]
  · have hlast : digitIn? 16 (Nat.digitChar (n % 16)) = some (n % 16) :=
      digitIn?_digitChar (Nat.mod_lt n (by decide))
    rw [digitsIn?_append, digitsIn?_toDigits (n / 16), Option.bind_some]
    simp only [digitsIn?, hlast, Nat.div_add_mod']

theorem digitsIn?_zeros (digits : List Char) :
    ∀ k, digitsIn? 16 0 (List.replicate k '0' ++ digits) = digitsIn? 16 0 digits
  | 0 => rfl
  | k + 1 => digitsIn?_zeros digits k

theorem digitsIn?_hex (width n : Nat) : digitsIn? 16 0 (hex width n) = some n :=
  (digitsIn?_zeros _ _).trans (digitsIn?_toDigits n)

theorem length_hex {width n : Nat} (hwidth : 0 < width) (hn : n < 16 ^ width) :
    (hex width n).length = width := by
  have hlen : (Nat.toDigits 16 n).length ≤ width :=
    (Nat.length_toDigits_le_iff (by decide) hwidth).mpr hn
  rw [hex, List.length_append, List.length_replicate, Nat.sub_add_cancel hlen]

end Text

namespace Code.Python

open Text

/-! ## Reading a literal -/

/-- Where a reader is inside a literal : among characters, behind a backslash, inside the digits of
an escape, of which `left` or `left + 1` may follow, inside the name of a character, whose
characters so far are last first, or behind the closing quote. -/
inductive Reading
  | plain
  | escape
  | octal (left n : Nat)
  | hex (left n : Nat)
  | brace
  | name (spelt : List Char)
  | closed
  deriving DecidableEq, Repr

/-- The code point of an escape of one letter or sign. -/
def letterEscape? : Char → Option Nat
  | '\\' => some 0x5C
  | '\'' => some 0x27
  | '"' => some 0x22
  | 'a' => some 0x07
  | 'b' => some 0x08
  | 'f' => some 0x0C
  | 'n' => some 0x0A
  | 'r' => some 0x0D
  | 't' => some 0x09
  | 'v' => some 0x0B
  | _ => none

/-- What a character that no escape claims denotes, and where it leads. A literal does not reach
over the end of a line. -/
def readPlain (c : Char) : Option (List Nat × Reading) :=
  if c = '"' then some ([], .closed)
  else if c = '\\' then some ([], .escape)
  else if c = '\n' || c = '\r' || c.toNat = 0 then none
  else some ([c.toNat], .plain)

/-- What the character behind a backslash denotes. A line may end there, and a backslash that starts
no escape stands for itself. -/
def readEscape (c : Char) : Option (List Nat × Reading) :=
  match letterEscape? c with
  | some n => some ([n], .plain)
  | none =>
    if c = '\n' then some ([], .plain)
    else if c = 'x' then some ([], .hex 1 0)
    else if c = 'u' then some ([], .hex 3 0)
    else if c = 'U' then some ([], .hex 7 0)
    else if c = 'N' then some ([], .brace)
    else match digitIn? 8 c with
      | some d => some ([], .octal 2 d)
      | none => (readPlain c).map fun r => (0x5C :: r.1, r.2)

/-- The code points that a character completes, and where it leads. -/
def Reading.next (c : Char) : Reading → Option (List Nat × Reading)
  | .plain => readPlain c
  | .escape => readEscape c
  | .octal left n =>
    match left, digitIn? 8 c with
    | left + 1, some d => some ([], .octal left (n * 8 + d))
    | _, _ => (readPlain c).map fun r => (n :: r.1, r.2)
  | .hex left n =>
    match digitIn? 16 c with
    | none => none
    | some d =>
      match left with
      | left + 1 => some ([], .hex left (n * 16 + d))
      | 0 => if n * 16 + d < 0x110000 then some ([n * 16 + d], .plain) else none
  | .brace => if c = '{' then some ([], .name []) else none
  | .name spelt =>
    if c = '}' then (CharacterName.char? spelt.reverse).map fun named => ([named.toNat], .plain)
    else some ([], .name (c :: spelt))
  | .closed => none

/-- The code points that the rest of a literal denotes, up to its closing quote and no further. -/
def Reading.points? : Reading → List Char → Option (List Nat)
  | .closed, [] => some []
  | _, [] => none
  | r, c :: cs =>
    match r.next c with
    | none => none
    | some (points, r) => (r.points? cs).map (points ++ ·)

/-- The code points of the text that a literal between double quotes denotes, none if it is no
literal. A code point may be half of a surrogate pair. -/
def stringValue? (literal : String) : Option (List Nat) :=
  match literal.toList with
  | '"' :: cs => Reading.plain.points? cs
  | _ => none

example : stringValue? "\"\\u00fc\\x41\\101\\q\\\n\"" = some [0xFC, 0x41, 0x41, 0x5C, 0x71] := by
  decide

namespace Reading

section Steps

variable {r r' : Reading} {c : Char}

/-- A character that completes a code point denotes it. -/
theorem points?_cons {n : Nat} (h : r.next c = some ([n], r')) (cs : List Char) :
    r.points? (c :: cs) = (r'.points? cs).map (n :: ·) := by
  rw [points?, h]
  rfl

/-- A character that completes nothing leads on. -/
theorem points?_skip (h : r.next c = some ([], r')) (cs : List Char) :
    r.points? (c :: cs) = r'.points? cs := by
  rw [points?, h]
  exact Option.map_id'

end Steps

/-- All digits of an escape denote the number that they write. -/
theorem points?_hex (cs : List Char) :
    ∀ {digits : List Char} {left n m : Nat}, digits.length = left + 1 →
      digitsIn? 16 n digits = some m → m < 0x110000 →
      (hex left n).points? (digits ++ cs) = (plain.points? cs).map (m :: ·)
  | [], _, _, _, hlen, _, _ => absurd hlen.symm (Nat.succ_ne_zero _)
  | c :: digits, left, n, m, hlen, hm, hbound => by
    rw [digitsIn?] at hm
    cases hc : digitIn? 16 c with
    | none => simp [hc] at hm
    | some d =>
      simp only [hc] at hm
      cases left with
      | zero =>
        obtain rfl := List.eq_nil_of_length_eq_zero (Nat.succ.inj hlen)
        obtain rfl : n * 16 + d = m := Option.some.inj hm
        have hnext : (hex 0 n).next c = some ([n * 16 + d], plain) := by simp [next, hc, hbound]
        exact points?_cons hnext cs
      | succ left =>
        have hnext : (hex (left + 1) n).next c = some ([], hex left (n * 16 + d)) := by
          simp [next, hc]
        rw [List.cons_append, points?_skip hnext, points?_hex cs (Nat.succ.inj hlen) hm hbound]

/-- An escaped unit denotes the unit, also if it is half of a surrogate pair. -/
theorem points?_jsonUnit {n : Nat} (h : n < 0x10000) (cs : List Char) :
    plain.points? (jsonUnit n ++ cs) = (plain.points? cs).map (n :: ·) := by
  have hbackslash : plain.next '\\' = some ([], escape) := by decide
  have hletter : escape.next 'u' = some ([], hex 3 0) := by decide
  have hlen : (Text.hex 4 n).length = 4 := length_hex (by decide) h
  rw [jsonUnit, List.cons_append, List.cons_append, points?_skip hbackslash, points?_skip hletter,
    points?_hex cs hlen (digitsIn?_hex 4 n) (by omega)]

end Reading

/-! ## Texts and their literals -/

/-- The UTF-16 units of a character. -/
def utf16 (c : Char) : List Nat :=
  if c.toNat < 0x10000 then [c.toNat]
  else [0xD800 + (c.toNat - 0x10000) / 0x400, 0xDC00 + (c.toNat - 0x10000) % 0x400]

theorem points?_jsonUnits (c : Char) (cs : List Char) :
    Reading.plain.points? (jsonUnits c ++ cs) =
      (Reading.plain.points? cs).map (utf16 c ++ ·) := by
  have hvalid : c.toNat < 0xD800 ∨ 0xDFFF < c.toNat ∧ c.toNat < 0x110000 := c.valid
  simp only [jsonUnits, utf16]
  split_ifs with hbasic
  · exact Reading.points?_jsonUnit hbasic cs
  · rw [List.append_assoc, Reading.points?_jsonUnit (by omega), Reading.points?_jsonUnit (by omega),
      Option.map_map]
    rfl

/-- A letter escape denotes its code point. -/
theorem points?_letter {c : Char} {n : Nat} (h : letterEscape? c = some n) (cs : List Char) :
    Reading.plain.points? ('\\' :: c :: cs) = (Reading.plain.points? cs).map (n :: ·) := by
  have hbackslash : Reading.plain.next '\\' = some ([], .escape) := by decide
  have hletter : Reading.escape.next c = some ([n], .plain) := by rw [Reading.next, readEscape, h]
  rw [Reading.points?_skip hbackslash, Reading.points?_cons hletter]

/-- A character denotes its UTF-16 units, however it is written. -/
theorem points?_jsonChar (c : Char) (cs : List Char) :
    Reading.plain.points? (jsonChar .ascii c ++ cs) =
      (Reading.plain.points? cs).map (utf16 c ++ ·) := by
  unfold jsonChar
  split_ifs with hquote hfeed hreturn htab hform hback hcontrol hascii
  · simp only [Bool.or_eq_true, decide_eq_true_eq] at hquote
    rcases hquote with rfl | rfl <;> exact points?_letter rfl cs
  · subst hfeed; exact points?_letter rfl cs
  · subst hreturn; exact points?_letter rfl cs
  · subst htab; exact points?_letter rfl cs
  · subst hform; exact points?_letter rfl cs
  · subst hback; exact points?_letter rfl cs
  · exact points?_jsonUnits c cs
  · exact points?_jsonUnits c cs
  · have hlow : c.toNat < 0x7F := by simpa using hascii
    have hnonzero : c.toNat ≠ 0 := by omega
    have hnext : Reading.plain.next c = some ([c.toNat], .plain) := by
      simp_all [Reading.next, readPlain]
    rw [List.singleton_append, Reading.points?_cons hnext, utf16, if_pos (by omega)]
    rfl

theorem points?_jsonChars :
    ∀ cs : List Char, Reading.plain.points? (cs.flatMap (jsonChar .ascii) ++ ['"']) =
      some (cs.flatMap utf16)
  | [] => by decide
  | c :: cs => by
    rw [List.flatMap_cons, List.append_assoc, points?_jsonChar, points?_jsonChars cs]
    rfl

/-- A text is written as a literal, which denotes its UTF-16 units. -/
theorem stringValue?_stringLiteral (s : String) :
    stringValue? (stringLiteral s) = some (s.toList.flatMap utf16) := by
  rw [stringValue?, stringLiteral, jsonString, String.toList_ofList]
  exact points?_jsonChars s.toList

theorem length_utf16_eq_one_iff {c : Char} : (utf16 c).length = 1 ↔ c.toNat < 0x10000 := by
  unfold utf16
  split_ifs with h <;> simp [h]

theorem length_utf16_pos (c : Char) : 1 ≤ (utf16 c).length := by
  unfold utf16
  split_ifs <;> simp

theorem length_le_flatMap_utf16 : ∀ cs : List Char, cs.length ≤ (cs.flatMap utf16).length
  | [] => Nat.le_refl 0
  | c :: cs => by
    have hc := length_utf16_pos c
    have hcs := length_le_flatMap_utf16 cs
    rw [List.flatMap_cons, List.length_append, List.length_cons]
    omega

/-- There are as many units as characters just when all characters are in the basic plane. -/
theorem length_flatMap_utf16_eq_iff :
    ∀ {cs : List Char}, (cs.flatMap utf16).length = cs.length ↔ ∀ c ∈ cs, c.toNat < 0x10000
  | [] => by simp
  | c :: cs => by
    have hc := length_utf16_pos c
    have hcs := length_le_flatMap_utf16 cs
    rw [List.forall_mem_cons, ← length_flatMap_utf16_eq_iff, ← length_utf16_eq_one_iff,
      List.flatMap_cons, List.length_append, List.length_cons]
    omega

/-- The units are the characters just when all characters are in the basic plane. -/
theorem flatMap_utf16_eq_iff {cs : List Char} :
    cs.flatMap utf16 = cs.map Char.toNat ↔ ∀ c ∈ cs, c.toNat < 0x10000 := by
  constructor
  · intro h
    rw [← length_flatMap_utf16_eq_iff, h, List.length_map]
  · intro h
    rw [List.map_eq_flatMap]
    exact List.flatMap_congr fun c hc => if_pos (h c hc)

end Code.Python

/-! ## Capacities and pushes as they are written -/

theorem Text.join_append_cons (separator s t : String) :
    ∀ rest : List String, Text.join separator ((s ++ separator ++ t) :: rest) =
      Text.join separator (s :: t :: rest)
  | [] => rfl
  | u :: rest => by
    simp only [Text.join, String.append_assoc]

theorem toList_toString (n : Nat) : (toString n).toList = Nat.toDigits 10 n :=
  String.toList_ofList

theorem toString_injective {m n : Nat} (h : toString m = toString n) : m = n := by
  have hdigits : Nat.toDigits 10 m = Nat.toDigits 10 n := by
    rw [← toList_toString, h, toList_toString]
  rw [← Nat.ofDigitChars_toDigits (b := 10) (n := m) (by decide) (by decide), hdigits,
    Nat.ofDigitChars_toDigits (by decide) (by decide)]

/-- No decimal numeral is a call of `len`. -/
theorem toString_ne_len (n : Nat) (s : String) : toString n ≠ "len(" ++ s := by
  intro heq
  have hmem : 'l' ∈ Nat.toDigits 10 n := by
    rw [← toList_toString, heq, String.toList_append]
    exact List.mem_append_left _ (by decide)
  exact absurd (Nat.isDigit_of_mem_toDigits (by decide) (by decide) hmem) (by decide)

namespace UrlBuilder

open Code Code.Python

/-- Whatever writes a sum as its parts with a plus sign between them writes a sum nested to the left
as its summands in a row. -/
theorem write_foldl_sum {write : Expr → String}
    (h : ∀ left right, write (.sum left right) = write left ++ " + " ++ write right) :
    ∀ (terms : List Expr) (start : Expr),
      write (terms.foldl Expr.sum start) = Text.join " + " (write start :: terms.map write)
  | [], _ => rfl
  | term :: terms, start => by
    rw [List.foldl_cons, write_foldl_sum h terms, h, List.map_cons, Text.join_append_cons]

theorem exprs_eq_map : ∀ terms : List Expr, exprs terms = terms.map expr
  | [] => rfl
  | term :: terms => by rw [exprs, exprs_eq_map terms, List.map_cons]

theorem expr_foldl_sum (terms : List Expr) (start : Expr) :
    expr (terms.foldl Expr.sum start) = Text.join " + " (expr start :: exprs terms) := by
  rw [exprs_eq_map]
  exact write_foldl_sum (fun left right => by rw [expr]) terms start

/-- The statement that pushes what is written as `value`. -/
def pushText (value : String) : String :=
  ident bufferName ++ ".push(" ++ value ++ ")"

/-- What is written as a summand of a capacity counts what is written as a push : the length of a
name stands for the push of the name, and a number for the push of a literal that denotes as many
code points. -/
inductive Counts : String → String → Prop
  | name (name : String) : Counts ("len(" ++ ident name ++ ")") (pushText (ident name))
  | literal {literal : String} {points : List Nat} (h : stringValue? literal = some points) :
    Counts (toString points.length) (pushText literal)

theorem pushText_injective {s t : String} (h : pushText s = pushText t) : s = t := by
  rw [pushText, pushText, String.append_left_inj, String.append_right_inj] at h
  exact h

/-- The length of a text counts the push of its literal just when the text is in the basic plane. -/
theorem counts_literal_iff {text : String} :
    Counts (toString text.length) (pushText (stringLiteral text)) ↔
      ∀ c ∈ text.toList, c.toNat < 0x10000 := by
  rw [← length_flatMap_utf16_eq_iff, String.length_toList]
  constructor
  · generalize hsummand : toString text.length = summand
    generalize hpush : pushText (stringLiteral text) = push
    intro h
    cases h with
    | name name =>
      rw [String.append_assoc] at hsummand
      exact absurd hsummand (toString_ne_len _ _)
    | literal hpoints =>
      rw [← pushText_injective hpush, stringValue?_stringLiteral] at hpoints
      rw [Option.some.inj hpoints]
      exact (toString_injective hsummand).symm
  · intro h
    rw [← h]
    exact .literal (stringValue?_stringLiteral text)

/-- The summands of a capacity count the pushes, one for one, just when all literals are in the
basic plane. -/
theorem forall₂_counts_iff :
    ∀ {segments : List Segment},
      List.Forall₂ Counts (exprs (segmentLengths segments)) ((segmentPushes segments).map stmt) ↔
        ∀ text ∈ Segment.literals segments, ∀ c ∈ text.toList, c.toNat < 0x10000
  | [] => by simp [segmentLengths, segmentPushes, Segment.literals, exprs]
  | .literal text :: rest => by
    rw [segmentLengths, segmentPushes, Segment.literals, List.forall_mem_cons]
    split_ifs with hempty
    · rw [forall₂_counts_iff, String.isEmpty_iff.mp hempty]
      exact (and_iff_right (by simp)).symm
    · rw [exprs, List.map_cons, List.forall₂_cons, forall₂_counts_iff]
      exact and_congr_left fun _ => counts_literal_iff
  | .param name :: rest => by
    rw [segmentLengths, segmentPushes, Segment.literals, exprs, List.map_cons, List.forall₂_cons,
      forall₂_counts_iff]
    exact and_iff_right (.name name)

end UrlBuilder

namespace Code.Python

open UrlBuilder

/-- A text, and the template of a formatting call, is written as a literal. It denotes just that
text, and as many code points as are written for its length, if all characters are in the basic
plane and only then. So the summands of a capacity, as they are written, count the pushes of
segments one for one just when no literal holds a character above the basic plane. -/
theorem literals_exact_iff (s : String) (arguments : List Expr) (segments : List Segment) :
    (∃ points, stringValue? (expr (.literal (.text s))) = some points ∧
      (points = s.toList.map Char.toNat ↔ ∀ c ∈ s.toList, c.toNat < 0x10000) ∧
      expr (.length (.literal (.text s))) = toString s.length ∧
      (points.length = s.length ↔ ∀ c ∈ s.toList, c.toNat < 0x10000)) ∧
    expr (.format s arguments) =
      expr (.literal (.text s)) ++ ".format(" ++ commas (exprs arguments) ++ ")" ∧
    expr (capacityExpr segments) =
      Text.join " + " (expr (.length (.variable baseParam)) :: exprs (segmentLengths segments)) ∧
    (List.Forall₂ Counts (exprs (segmentLengths segments)) ((segmentPushes segments).map stmt) ↔
      ∀ text ∈ Segment.literals segments, ∀ c ∈ text.toList, c.toNat < 0x10000) := by
  have hlength : (s.toList.flatMap utf16).length = s.length ↔
      ∀ c ∈ s.toList, c.toNat < 0x10000 := by
    rw [← String.length_toList, length_flatMap_utf16_eq_iff]
  refine ⟨⟨_, stringValue?_stringLiteral s, flatMap_utf16_eq_iff, ?_, hlength⟩, ?_,
    expr_foldl_sum _ _, forall₂_counts_iff⟩
  · rw [expr]
  · rw [expr, expr, literal]

/-- A character above the basic plane is written as two surrogates and counted as one character. -/
theorem literal_of_astral :
    stringValue? (expr (.literal (.text "/😀"))) = some [0x2F, 0xD83D, 0xDE00] ∧
      "/😀".toList.map Char.toNat = [0x2F, 0x1F600] ∧
      expr (.length (.literal (.text "/😀"))) = "2" :=
  ⟨by decide, by decide, by decide⟩

end Code.Python

end Routewright
