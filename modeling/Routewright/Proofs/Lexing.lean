import Routewright.Proofs.Lines
import Routewright.Target

/-!
# Reading source text by lexical rules

What is code, what is a comment and what is a literal in a source file, read character by character
(`Target.read`), and which brackets are open (`Target.literals?`). Python has comments behind `#`
and literals between double quotes or three of them; Rust has comments behind `//` and between `/*`
and `*/`, nested ones too, and literals between double quotes. A backslash in a literal takes the
character behind it along.

What generated text is made of stays clear of the cases that are hard to put together: no carriage
return, and line feeds in code or at the end of a comment only. `Target.Lexes` says so of a text
that leads from code to code, and `Target.Lines` of one that does with its last line ended. Both are
kept when texts are put after or under each other, `Target.Lines` also by indentation and by
trimming.
-/

namespace Routewright

/-! ## Rules -/

/-- Where in a source text a reader is. -/
inductive SourcePlace
  | code
  /-- Behind a slash that may start a comment. -/
  | slash
  | comment
  /-- In a comment that has an end of its own, inside of `depth` others. -/
  | block (depth : Nat) (last : Char)
  /-- Behind the first quote of a literal that may have three. -/
  | quote
  /-- Behind two quotes, which are a literal or the start of one. -/
  | quotes
  | text
  /-- Behind a backslash in a literal. -/
  | escape
  /-- Between three quotes, `found` of those that end the literal already read. -/
  | long (found : Nat)
  /-- Behind a backslash between three quotes. -/
  | longEscape
  deriving DecidableEq, Repr

/-- What a reader knows: the brackets that are due, the innermost first, the literal that is being
read, the last character first, and the literals before it. -/
structure Reader where
  place : SourcePlace := .code
  due : List Char := []
  current : List Char := []
  literals : List String := []
  deriving DecidableEq, Repr

namespace Reader

/-- A reader that has come to a place. -/
def goTo (r : Reader) (place : SourcePlace) : Reader :=
  { r with place }

/-- A reader that has come to a place with one more character of a literal. -/
def keep (r : Reader) (place : SourcePlace) (c : Char) : Reader :=
  { r with place, current := c :: r.current }

/-- A reader that has read a literal. -/
def close (r : Reader) (reversed : List Char) : Reader :=
  { r with
    place := .code
    current := []
    literals := r.literals ++ [String.ofList reversed.reverse] }

/-- The bracket that closes what one opens. -/
def closing? (c : Char) : Option Char :=
  if c = '(' then some ')' else if c = '[' then some ']' else if c = '\x7b' then some '\x7d'
  else none

/-- A reader that has read a character of code. Brackets must be closed in turn. -/
def bracket (r : Reader) (c : Char) : Option Reader :=
  match closing? c with
  | some close => some { r with due := close :: r.due }
  | none =>
    if c = ')' || c = ']' || c = '\x7d' then
      match r.due with
      | [] => none
      | close :: due => if c = close then some { r with due } else none
    else some r

end Reader

namespace Target

/-- The place behind a quote. -/
def behindQuote : Target → SourcePlace
  | .python => .quote
  | .rust => .text

/-- The character that starts comments. -/
def commentMark : Target → Char
  | .python => '#'
  | .rust => '/'

/-- The place behind the character that starts comments. -/
def behindMark : Target → SourcePlace
  | .python => .comment
  | .rust => .slash

/-- Whether a character ends a comment. -/
def endsComment (target : Target) (c : Char) : Bool :=
  c = '\n' || (target = .python && c = '\r')

/-- Whether no literal between single quotes may go on with a character. -/
def breaksText (target : Target) (c : Char) : Bool :=
  c = '\r' || (target = .python && c = '\n')

/-- Reads a character of code. -/
def readCode (target : Target) (r : Reader) (c : Char) : Option Reader :=
  if c = '"' then some (r.goTo target.behindQuote)
  else if c = target.commentMark then some (r.goTo target.behindMark)
  else (r.goTo .code).bracket c

/-- Reads a character of a literal. -/
def readText (target : Target) (r : Reader) (c : Char) : Option Reader :=
  if c = '"' then some (r.close r.current)
  else if c = '\\' then some (r.keep .escape c)
  else if target.breaksText c then none
  else some (r.keep .text c)

/-- Reads a character of a comment that has an end of its own. -/
def readBlock (r : Reader) (depth : Nat) (last c : Char) : Reader :=
  if last = '*' && c = '/' then
    match depth with
    | 0 => r.goTo .code
    | depth + 1 => r.goTo (.block depth ' ')
  else if last = '/' && c = '*' then r.goTo (.block (depth + 1) ' ')
  else r.goTo (.block depth c)

/-- Reads a character between three quotes. -/
def readLong (r : Reader) (found : Nat) (c : Char) : Reader :=
  if c = '"' then
    if found = 2 then r.close (r.current.drop 2) else r.keep (.long (found + 1)) c
  else if c = '\\' then r.keep .longEscape c
  else r.keep (.long 0) c

/-- Reads a character. -/
def read (target : Target) (r : Reader) (c : Char) : Option Reader :=
  match r.place with
  | .code => target.readCode r c
  | .slash =>
    if c = '/' then some (r.goTo .comment)
    else if c = '*' then some (r.goTo (.block 0 ' '))
    else target.readCode r c
  | .comment => some (if target.endsComment c then r.goTo .code else r)
  | .block depth last => some (readBlock r depth last c)
  | .quote => if c = '"' then some (r.goTo .quotes) else target.readText r c
  | .quotes => if c = '"' then some (r.goTo (.long 0)) else target.readCode (r.close []) c
  | .text => target.readText r c
  | .escape => some (r.keep .text c)
  | .long found => some (readLong r found c)
  | .longEscape => some (r.keep (.long 0) c)

/-- The literals of a source text as they are written, none if a literal, a comment or a bracket is
left open. The last line must be ended. -/
def literals? (target : Target) (source : String) : Option (List String) :=
  match source.toList.foldlM target.read {} with
  | some { place := .code, due := [], literals, .. } => some literals
  | _ => none

end Target

/-! ## Literals that were read before -/

/-- A reader that has read some literals before all others. -/
def Reader.after (before : List String) (r : Reader) : Reader :=
  { r with literals := before ++ r.literals }

section After

variable (before : List String) (r : Reader) (c : Char)

theorem Reader.close_after (reversed : List Char) :
    (r.after before).close reversed = (r.close reversed).after before := by
  simp only [Reader.close, Reader.after, List.append_assoc]

theorem Reader.bracket_after :
    (r.after before).bracket c = (r.bracket c).map (Reader.after before) := by
  obtain ⟨place, due, current, literals⟩ := r
  unfold bracket
  cases closing? c with
  | some close => rfl
  | none =>
    cases due <;> dsimp only [Reader.after] <;> split_ifs <;> rfl

namespace Target

variable (target : Target)

theorem readCode_after :
    target.readCode (r.after before) c = (target.readCode r c).map (Reader.after before) := by
  unfold readCode
  split_ifs
  · rfl
  · rfl
  · exact Reader.bracket_after before (r.goTo .code) c

theorem readText_after :
    target.readText (r.after before) c = (target.readText r c).map (Reader.after before) := by
  unfold readText
  split_ifs
  · exact congrArg some (r.close_after before r.current)
  · rfl
  · rfl
  · rfl

theorem readBlock_after (depth : Nat) (last : Char) :
    readBlock (r.after before) depth last c = (readBlock r depth last c).after before := by
  unfold readBlock
  cases depth <;> split_ifs <;> rfl

theorem readLong_after (found : Nat) :
    readLong (r.after before) found c = (readLong r found c).after before := by
  unfold readLong
  split_ifs
  · exact r.close_after before _
  · rfl
  · rfl
  · rfl

/-- What was read before makes no difference to a character. -/
theorem read_after :
    target.read (r.after before) c = (target.read r c).map (Reader.after before) := by
  have hplace : (r.after before).place = r.place := rfl
  unfold read
  rw [hplace]
  cases r.place with
  | code => exact target.readCode_after before r c
  | slash =>
    dsimp only
    split_ifs
    · rfl
    · rfl
    · exact target.readCode_after before r c
  | comment =>
    dsimp only
    split_ifs <;> rfl
  | block depth last => exact congrArg some (readBlock_after before r c depth last)
  | quote =>
    dsimp only
    split_ifs
    · rfl
    · exact target.readText_after before r c
  | quotes =>
    dsimp only
    split_ifs
    · rfl
    · rw [r.close_after before]
      exact target.readCode_after before (r.close []) c
  | text => exact target.readText_after before r c
  | escape => rfl
  | long found => exact congrArg some (readLong_after before r c found)
  | longEscape => rfl

end Target

end After

/-- What was read before makes no difference to a text. -/
theorem Reader.foldlM_after {step : Reader → Char → Option Reader}
    (hstep : ∀ before r c, step (r.after before) c = (step r c).map (Reader.after before))
    (before : List String) :
    ∀ (cs : List Char) (r : Reader),
      cs.foldlM step (r.after before) = (cs.foldlM step r).map (Reader.after before)
  | [], _ => rfl
  | c :: cs, r => by
    rw [List.foldlM_cons, List.foldlM_cons, hstep]
    cases step r c with
    | none => rfl
    | some r' => exact foldlM_after hstep before cs r'

/-- A text is read behind another as it is by itself. -/
theorem Reader.foldlM_append {step : Reader → Char → Option Reader}
    (hstep : ∀ before r c, step (r.after before) c = (step r c).map (Reader.after before))
    {cs cs' : List Char} {due due' due'' : List Char} {literals more : List String}
    (h : cs.foldlM step { due } = some { due := due', literals })
    (h' : cs'.foldlM step { due := due' } = some { due := due'', literals := more }) :
    (cs ++ cs').foldlM step { due } = some { due := due'', literals := literals ++ more } := by
  have hafter : ({ due := due', literals } : Reader) = Reader.after literals { due := due' } := by
    rw [Reader.after, List.append_nil]
  rw [List.foldlM_append, h, Option.bind_eq_bind, Option.bind_some, hafter,
    foldlM_after hstep, h']
  rfl

/-! ## Tame text -/

namespace Target

/-- Reads a character that is no carriage return, and no line feed in a literal. -/
def readTame (target : Target) (r : Reader) (c : Char) : Option Reader :=
  if c = '\r' then none
  else (target.read r c).filter fun r' => c ≠ '\n' || r'.place = .code

/-- A text that is tame and leads from code to code, from brackets that are due to others. -/
def Lexes (target : Target) (s : String) (due due' : List Char) : Prop :=
  ∃ literals, s.toList.foldlM target.readTame { due } = some { due := due', literals }

/-- Lines that are tame and lead from code to code once the last of them is ended. -/
def Lines (target : Target) (s : String) (due due' : List Char) : Prop :=
  target.Lexes (s ++ "\n") due due'

variable {target : Target}

theorem readTame_eq_some_iff {r r' : Reader} {c : Char} :
    target.readTame r c = some r' ↔
      c ≠ '\r' ∧ target.read r c = some r' ∧ (c = '\n' → r'.place = .code) := by
  unfold readTame
  split_ifs with hreturn
  · simp [hreturn]
  · rw [Option.filter_eq_some_iff, and_iff_right hreturn]
    simp [imp_iff_not_or]

theorem readTame_after (before : List String) (r : Reader) (c : Char) :
    target.readTame (r.after before) c = (target.readTame r c).map (Reader.after before) := by
  unfold readTame
  split_ifs
  · rfl
  · rw [target.read_after]
    cases target.read r c with
    | none => rfl
    | some r' =>
      rw [Option.map_some, Option.filter_some, Option.filter_some]
      split_ifs <;> first | rfl | contradiction

/-! ### Texts in a row -/

theorem Lexes.append {s t : String} {due due' due'' : List Char} (hs : target.Lexes s due due')
    (ht : target.Lexes t due' due'') : target.Lexes (s ++ t) due due'' := by
  obtain ⟨literals, hs⟩ := hs
  obtain ⟨more, ht⟩ := ht
  exact ⟨literals ++ more, String.toList_append ▸ Reader.foldlM_append readTame_after hs ht⟩

/-- A text is read as its characters. Where it is given as a literal, these are found by
unification, which does not decode it. -/
theorem lexes_ofList {cs due due' : List Char} {literals : List String}
    (h : cs.foldlM target.readTame { due } = some { due := due', literals }) :
    target.Lexes (String.ofList cs) due due' :=
  ⟨literals, by rw [String.toList_ofList, h]⟩

theorem lexes_empty (due : List Char) : target.Lexes "" due due :=
  ⟨[], rfl⟩

theorem lexes_newline (due : List Char) : target.Lexes "\n" due due := by
  cases target <;> exact ⟨[], rfl⟩

/-- A text that leads from code to code does so with its last line ended. -/
theorem Lexes.lines {s : String} {due due' : List Char} (h : target.Lexes s due due') :
    target.Lines s due due' :=
  h.append (lexes_newline due')

/-- A character that is code to both targets and no bracket. -/
def isInert (c : Char) : Bool :=
  c ∉ ['"', '#', '/', '(', ')', '[', ']', '\x7b', '\x7d', '\r']

theorem readTame_of_inert {c : Char} (hc : isInert c = true) {r : Reader} (hr : r.place = .code) :
    target.readTame r c = some r := by
  have hne : ∀ d ∈ ['"', '#', '/', '(', ')', '[', ']', '\x7b', '\x7d', '\r'], c ≠ d :=
    fun d hd heq => of_decide_eq_true hc (heq ▸ hd)
  have hmark : c ≠ target.commentMark := by
    cases target <;> exact hne _ (by decide)
  have hkept : r.goTo .code = r := by
    rw [← hr]
    rfl
  have hbracket : r.bracket c = some r := by
    simp only [Reader.bracket, Reader.closing?, if_neg (hne '(' (by decide)),
      if_neg (hne '[' (by decide)), if_neg (hne '\x7b' (by decide)),
      decide_eq_false (hne ')' (by decide)), decide_eq_false (hne ']' (by decide)),
      decide_eq_false (hne '\x7d' (by decide))]
    rfl
  refine readTame_eq_some_iff.mpr ⟨hne '\r' (by decide), ?_, fun _ => hr⟩
  simp only [read, hr, readCode]
  rw [if_neg (hne '"' (by decide)), if_neg hmark, hkept, hbracket]

/-- A text that is code to both targets, without brackets. -/
def Inert (s : String) : Prop :=
  ∀ c ∈ s.toList, isInert c = true

instance (s : String) : Decidable (Inert s) :=
  decidable_of_iff (s.toList.all isInert = true) List.all_eq_true

/-- Text without quotes, comments and brackets leaves everything as it is. -/
theorem foldlM_of_inert :
    ∀ {cs : List Char}, (∀ c ∈ cs, isInert c = true) → ∀ {r : Reader}, r.place = .code →
      cs.foldlM target.readTame r = some r
  | [], _, _, _ => rfl
  | c :: cs, h, r, hr => by
    obtain ⟨hc, hcs⟩ := List.forall_mem_cons.mp h
    rw [List.foldlM_cons, readTame_of_inert hc hr]
    exact foldlM_of_inert hcs hr

theorem lexes_of_inert {s : String} (h : Inert s) (due : List Char) : target.Lexes s due due :=
  ⟨[], foldlM_of_inert h rfl⟩

/-! ### Lines -/

/-- Readers are back in code behind a line feed. -/
theorem place_of_readTame_newline {r r' : Reader} (h : target.readTame r '\n' = some r') :
    r'.place = .code :=
  (readTame_eq_some_iff.mp h).2.2 rfl

theorem place_of_foldlM_newline {s : String} {r r' : Reader}
    (h : (s ++ "\n").toList.foldlM target.readTame r = some r') : r'.place = .code := by
  rw [String.toList_append, List.foldlM_append] at h
  obtain ⟨r₁, -, h⟩ := Option.bind_eq_some_iff.mp h
  change ['\n'].foldlM target.readTame r₁ = some r' at h
  rw [List.foldlM_cons] at h
  obtain ⟨r₂, hr₂, h⟩ := Option.bind_eq_some_iff.mp h
  obtain rfl : r₂ = r' := Option.some.inj h
  exact place_of_readTame_newline hr₂

theorem foldlM_newlines {cs : List Char} (h : ∀ c ∈ cs, c = '\n') {r : Reader}
    (hr : r.place = .code) : cs.foldlM target.readTame r = some r :=
  foldlM_of_inert (fun c hc => h c hc ▸ by decide) hr

/-- Blanks in front of lines change nothing. -/
theorem foldlM_indentLine (levels : Nat) :
    ∀ {lines : List (List Char)} {r r' : Reader}, r.place = .code →
      (lines.flatMap fun line => line ++ ['\n']).foldlM target.readTame r = some r' →
      ((lines.map (Text.indentLine levels)).flatMap fun line => line ++ ['\n']).foldlM
        target.readTame r = some r'
  | [], _, _, _, h => h
  | line :: lines, r, r', hr, h => by
    have hmargin : (Text.indentLine levels line).foldlM target.readTame r =
        line.foldlM target.readTame r := by
      unfold Text.indentLine
      split_ifs with hempty
      · rw [List.isEmpty_iff.mp hempty]
      · have hblanks : ∀ c ∈ Text.margin levels, isInert c = true := fun c hc =>
          (List.eq_of_mem_replicate hc) ▸ by decide
        rw [List.foldlM_append, foldlM_of_inert hblanks hr]
        rfl
    rw [List.flatMap_cons, List.foldlM_append, List.foldlM_append] at h
    rw [List.map_cons, List.flatMap_cons, List.foldlM_append, List.foldlM_append, hmargin]
    obtain ⟨r₂, hline, h⟩ := Option.bind_eq_some_iff.mp h
    obtain ⟨r₁, -, hnext⟩ := Option.bind_eq_some_iff.mp hline
    rw [List.foldlM_cons] at hnext
    obtain ⟨r₂', hr₂, hsame⟩ := Option.bind_eq_some_iff.mp hnext
    obtain rfl : r₂' = r₂ := Option.some.inj hsame
    exact Option.bind_eq_some_iff.mpr
      ⟨r₂', hline, foldlM_indentLine levels (place_of_readTame_newline hr₂) h⟩

theorem intercalate_newline {lines : List (List Char)} (h : lines ≠ []) :
    ['\n'].intercalate lines ++ ['\n'] = lines.flatMap fun line => line ++ ['\n'] := by
  induction lines with
  | nil => exact absurd rfl h
  | cons line lines ih =>
    cases lines with
    | nil => rw [List.intercalate_singleton, List.flatMap_singleton]
    | cons next rest =>
      rw [List.intercalate_cons_cons, List.append_assoc, ih (List.cons_ne_nil _ _)]
      rfl

/-- Indented lines are lines. -/
theorem Lines.indent {s : String} {due due' : List Char} (h : target.Lines s due due')
    (levels : Nat) : target.Lines (Text.indent s levels) due due' := by
  obtain ⟨literals, h⟩ := h
  refine ⟨literals, ?_⟩
  have hs : (s ++ "\n").toList =
      (Text.pieces '\n' s.toList).flatMap fun line => line ++ ['\n'] := by
    rw [← intercalate_newline (Text.pieces_ne_nil '\n' s.toList), Text.intercalate_pieces,
      String.toList_append]
    rfl
  have hindented : (Text.indent s levels ++ "\n").toList =
      ((Text.pieces '\n' s.toList).map (Text.indentLine levels)).flatMap
        fun line => line ++ ['\n'] := by
    rw [← intercalate_newline (List.map_eq_nil_iff.not.mpr (Text.pieces_ne_nil '\n' s.toList)),
      ← Text.toList_indent, String.toList_append]
    rfl
  rw [hs] at h
  rw [hindented]
  exact foldlM_indentLine levels rfl h

/-- Lines without line feeds at their ends are lines. -/
theorem Lines.trimNewlines {s : String} {due due' : List Char} (h : target.Lines s due due') :
    target.Lines (Text.trimNewlines s) due due' := by
  obtain ⟨literals, h⟩ := h
  obtain ⟨before, behind, hs⟩ := Text.exists_toList_eq_trimNewlines s
  have hfeeds : ∀ n, ∀ c ∈ List.replicate n '\n', c = '\n' := fun n c hc =>
    List.eq_of_mem_replicate hc
  -- the line feed at the end is the first of those behind the last line
  have hend : (s ++ "\n").toList = List.replicate before '\n' ++
      ((Text.trimNewlines s ++ "\n").toList ++ List.replicate behind '\n') := by
    rw [String.toList_append, String.toList_append, hs, List.append_assoc, List.append_assoc,
      List.append_assoc]
    exact congrArg _ (congrArg _ (List.replicate_succ'.symm.trans List.replicate_succ))
  rw [hend, List.foldlM_append, foldlM_newlines (hfeeds before) rfl, Option.bind_eq_bind,
    Option.bind_some, List.foldlM_append] at h
  obtain ⟨r, hkept, h⟩ := Option.bind_eq_some_iff.mp h
  rw [foldlM_newlines (hfeeds behind) (place_of_foldlM_newline hkept)] at h
  exact ⟨literals, hkept.trans h⟩

/-! ### Texts under each other -/

theorem Lexes.join {separator : String} {due : List Char}
    (hseparator : target.Lexes separator due due) :
    ∀ {items : List String}, (∀ item ∈ items, target.Lexes item due due) →
      target.Lexes (Text.join separator items) due due
  | [], _ => lexes_empty due
  | [item], h => h item List.mem_cons_self
  | item :: next :: rest, h => by
    obtain ⟨hitem, hrest⟩ := List.forall_mem_cons.mp h
    exact (hitem.append hseparator).append (hseparator.join hrest)

/-- Lines behind a text on the line of the first. -/
theorem Lexes.append_lines {s t : String} {due due' due'' : List Char}
    (hs : target.Lexes s due due') (ht : target.Lines t due' due'') :
    target.Lines (s ++ t) due due'' := by
  rw [Lines, String.append_assoc]
  exact hs.append ht

theorem Lines.append {s t : String} {due due' due'' : List Char} (hs : target.Lines s due due')
    (ht : target.Lines t due' due'') : target.Lines (s ++ "\n" ++ t) due due'' :=
  Lexes.append_lines hs ht

/-- Lines with a brace behind the last of them. -/
theorem Lines.brace {s : String} {due : List Char} (h : target.Lines s due ('\x7d' :: due)) :
    target.Lexes (s ++ "\n\x7d") due due := by
  have hbrace : "\n\x7d" = "\n" ++ "\x7d" := by decide
  have hclose : target.Lexes "\x7d" ('\x7d' :: due) due := by
    cases target <;> exact ⟨[], rfl⟩
  rw [hbrace, ← String.append_assoc]
  exact Lexes.append h hclose

/-- Lines under each other, with blank lines or none between them, are lines. -/
theorem Lines.join {more : String} {due : List Char} (hmore : target.Lexes more due due) :
    ∀ {items : List String}, (∀ item ∈ items, target.Lines item due due) →
      target.Lines (Text.join ("\n" ++ more) items) due due
  | [], _ => (lexes_empty due).lines
  | [item], h => h item List.mem_cons_self
  | item :: next :: rest, h => by
    obtain ⟨hitem, hrest⟩ := List.forall_mem_cons.mp h
    have htext : Text.join ("\n" ++ more) (item :: next :: rest) =
        item ++ "\n" ++ (more ++ Text.join ("\n" ++ more) (next :: rest)) := by
      simp only [Text.join, String.append_assoc]
    rw [htext]
    exact hitem.append (hmore.append_lines (Lines.join hmore hrest))

theorem Lines.join_newline {items : List String} {due : List Char}
    (h : ∀ item ∈ items, target.Lines item due due) :
    target.Lines (Text.join "\n" items) due due := by
  have hnewline : "\n" ++ "" = "\n" := String.append_empty
  rw [← hnewline]
  exact Lines.join (lexes_empty due) h

theorem Lines.join_blank {items : List String} {due : List Char}
    (h : ∀ item ∈ items, target.Lines item due due) :
    target.Lines (Text.join "\n\n" items) due due := by
  have hblank : "\n" ++ "\n" = "\n\n" := by decide
  rw [← hblank]
  exact Lines.join (lexes_newline due) h

theorem Lines.join_cons {item : String} {rest : List String} {due due' due'' : List Char}
    (hitem : target.Lines item due due') (hne : rest ≠ [])
    (hrest : target.Lines (Text.join "\n" rest) due' due'') :
    target.Lines (Text.join "\n" (item :: rest)) due due'' := by
  obtain ⟨next, rest, rfl⟩ := List.exists_cons_of_ne_nil hne
  rw [Text.join]
  exact hitem.append hrest

/-- Lines above others change nothing if each of them does not. -/
theorem Lines.join_append {rest : List String} {due due' : List Char} (hne : rest ≠ [])
    (hrest : target.Lines (Text.join "\n" rest) due due') :
    ∀ {items : List String}, (∀ item ∈ items, target.Lines item due due) →
      target.Lines (Text.join "\n" (items ++ rest)) due due'
  | [], _ => hrest
  | item :: items, h => by
    obtain ⟨hitem, hitems⟩ := List.forall_mem_cons.mp h
    exact hitem.join_cons (List.append_ne_nil_of_right_ne_nil items hne)
      (Lines.join_append hne hrest hitems)

end Target

/-! ## Literals on one line -/

/-- A character at which a line may end. -/
def isBreak (c : Char) : Bool :=
  c = '\n' || c = '\r'

/-- Whether a literal is written over several lines. -/
def spansLines (literal : String) : Bool :=
  literal.toList.any isBreak

theorem spansLines_eq_false_iff {s : String} :
    spansLines s = false ↔ ∀ c ∈ s.toList, isBreak c = false := by
  simp [spansLines]

namespace Reader

/-- A reader of literals on one line each. -/
structure OneLine (r : Reader) : Prop where
  current : ∀ c ∈ r.current, isBreak c = false
  literals : ∀ literal ∈ r.literals, spansLines literal = false

namespace OneLine

variable {r r' : Reader} {c : Char}

theorem goTo (h : r.OneLine) (place : SourcePlace) : (r.goTo place).OneLine :=
  ⟨h.current, h.literals⟩

theorem close (h : r.OneLine) {reversed : List Char} (hread : reversed ⊆ r.current) :
    (r.close reversed).OneLine where
  current _ hc := absurd hc List.not_mem_nil
  literals literal hliteral := by
    rcases List.mem_append.mp hliteral with hliteral | hliteral
    · exact h.literals literal hliteral
    · rw [List.mem_singleton.mp hliteral, spansLines, String.toList_ofList, List.any_reverse,
        List.any_eq_false]
      exact fun c hc => by simp [h.current c (hread hc)]

theorem keep (h : r.OneLine) {place : SourcePlace} (hc : isBreak c = false) :
    (r.keep place c).OneLine :=
  ⟨List.forall_mem_cons.mpr ⟨hc, h.current⟩, h.literals⟩

theorem bracket (h : r.OneLine) (hr' : r.bracket c = some r') : r'.OneLine := by
  unfold Reader.bracket at hr'
  split at hr'
  · cases hr'
    exact ⟨h.current, h.literals⟩
  · split_ifs at hr'
    · split at hr'
      · cases hr'
      · split_ifs at hr'
        cases hr'
        exact ⟨h.current, h.literals⟩
    · cases hr'
      exact h

theorem readCode {target : Target} (h : r.OneLine) (hr' : target.readCode r c = some r') :
    r'.OneLine := by
  unfold Target.readCode at hr'
  split_ifs at hr'
  · cases hr'
    exact h.goTo _
  · cases hr'
    exact h.goTo _
  · exact (h.goTo .code).bracket hr'

/-- A character that is kept is no line feed, behind which there would be code. -/
theorem readText {target : Target} (h : r.OneLine) (hr' : target.readText r c = some r')
    (hc : c ≠ '\r') (hfeed : c = '\n' → r'.place = .code) : r'.OneLine := by
  unfold Target.readText at hr'
  split_ifs at hr' <;> cases hr'
  · exact h.close (List.Subset.refl _)
  all_goals
    refine h.keep ?_
    have hne : c ≠ '\n' := fun heq => nomatch hfeed heq
    simp [isBreak, hc, hne]

/-- Tame text has no literal over several lines. -/
theorem readTame {target : Target} (h : r.OneLine) (hr' : target.readTame r c = some r') :
    r'.OneLine := by
  obtain ⟨hc, hr', hfeed⟩ := Target.readTame_eq_some_iff.mp hr'
  have hkeep : ∀ {place : SourcePlace}, place ≠ .code → r.keep place c = r' → r'.OneLine := by
    rintro place hplace rfl
    refine h.keep ?_
    have hne : c ≠ '\n' := fun heq => hplace (hfeed heq)
    simp [isBreak, hc, hne]
  unfold Target.read at hr'
  split at hr'
  · exact h.readCode hr'
  · split_ifs at hr'
    · exact Option.some.inj hr' ▸ h.goTo _
    · exact Option.some.inj hr' ▸ h.goTo _
    · exact h.readCode hr'
  · refine Option.some.inj hr' ▸ ?_
    split_ifs
    · exact h.goTo _
    · exact h
  · refine Option.some.inj hr' ▸ ?_
    unfold Target.readBlock
    split_ifs
    · split <;> exact h.goTo _
    · exact h.goTo _
    · exact h.goTo _
  · split_ifs at hr'
    · exact Option.some.inj hr' ▸ h.goTo _
    · exact h.readText hr' hc hfeed
  · split_ifs at hr'
    · exact Option.some.inj hr' ▸ h.goTo _
    · exact (h.close (List.nil_subset _)).readCode hr'
  · exact h.readText hr' hc hfeed
  · exact @hkeep .text (by decide) (Option.some.inj hr')
  · rename_i found _
    replace hr' := Option.some.inj hr'
    unfold Target.readLong at hr'
    split_ifs at hr'
    · exact hr' ▸ h.close (List.drop_subset _ _)
    · exact @hkeep (.long (found + 1)) nofun hr'
    · exact @hkeep .longEscape nofun hr'
    · exact @hkeep (.long 0) nofun hr'
  · exact @hkeep (.long 0) nofun (Option.some.inj hr')

/-- Over a whole text, no literal spans lines if the text is tame. -/
theorem foldlM_readTame {target : Target} :
    ∀ {cs : List Char} {r r' : Reader}, r.OneLine → cs.foldlM target.readTame r = some r' →
      r'.OneLine
  | [], _, _, h, hr' => Option.some.inj hr' ▸ h
  | c :: cs, _, _, h, hr' => by
    rw [List.foldlM_cons] at hr'
    obtain ⟨next, hnext, hr'⟩ := Option.bind_eq_some_iff.mp hr'
    exact foldlM_readTame (h.readTame hnext) hr'

end OneLine

end Reader

/-! ## Whole files -/

namespace Target

/-- A text that leads from code to code, and the literals in it that span lines. -/
def Reads (target : Target) (s : String) (spanning : List String) : Prop :=
  ∃ literals, s.toList.foldlM target.read {} = some { literals } ∧
    literals.filter spansLines = spanning

variable {target : Target}

theorem Reads.literals?_eq {s : String} {spanning : List String} (h : target.Reads s spanning) :
    ∃ literals, target.literals? s = some literals ∧ literals.filter spansLines = spanning := by
  obtain ⟨literals, h, hspanning⟩ := h
  exact ⟨literals, by rw [literals?, h], hspanning⟩

theorem foldlM_read_of_readTame :
    ∀ {cs : List Char} {r r' : Reader}, cs.foldlM target.readTame r = some r' →
      cs.foldlM target.read r = some r'
  | [], _, _, h => h
  | c :: cs, r, r', h => by
    rw [List.foldlM_cons] at h ⊢
    obtain ⟨next, hnext, h⟩ := Option.bind_eq_some_iff.mp h
    exact Option.bind_eq_some_iff.mpr
      ⟨next, (readTame_eq_some_iff.mp hnext).2.1, foldlM_read_of_readTame h⟩

/-- Tame text has no literal that spans lines. -/
theorem Lexes.reads {s : String} (h : target.Lexes s [] []) : target.Reads s [] := by
  obtain ⟨literals, h⟩ := h
  have honeLine : Reader.OneLine {} :=
    ⟨fun _ hc => absurd hc List.not_mem_nil, fun _ hl => absurd hl List.not_mem_nil⟩
  refine ⟨literals, foldlM_read_of_readTame h, List.filter_eq_nil_iff.mpr fun literal hl => ?_⟩
  rw [(honeLine.foldlM_readTame h).literals literal hl]
  exact Bool.false_ne_true

theorem Reads.append {s t : String} {spanning more : List String} (hs : target.Reads s spanning)
    (ht : target.Reads t more) : target.Reads (s ++ t) (spanning ++ more) := by
  obtain ⟨literals, hs, rfl⟩ := hs
  obtain ⟨literals', ht, rfl⟩ := ht
  exact ⟨literals ++ literals',
    String.toList_append ▸ Reader.foldlM_append target.read_after hs ht, List.filter_append _ _⟩

end Target

end Routewright
