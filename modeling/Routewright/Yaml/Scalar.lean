import Routewright.Text.Numeral
import Routewright.Yaml.Cursor
import Routewright.Yaml.Token

/-!
# Scalars

The three written forms of a scalar: plain, between quotes, and as a block under an indicator. Each
reader starts at the first character of its form and gives the text that it denotes together with
the position after it.
-/

namespace Routewright.Yaml

/-! ## Plain scalars -/

/-- A bracket of a flow collection, or the comma between its items. -/
def isFlowMark (c : Char) : Bool :=
  c = ',' || c = '[' || c = ']' || c = '{' || c = '}'

/-- The characters of a plain scalar up to the next space, line end or indicator. -/
def plainRun (inFlow : Bool) : List Char → List Char
  | [] => []
  | c :: cs =>
    if isSpace c || isBreak c then []
    else if c = ':' && (isGap cs.head? || (inFlow && cs.head?.any isFlowMark)) then []
    else if inFlow && (isFlowMark c || c = '?') then []
    else c :: plainRun inFlow cs

/-- The line breaks and spaces at a position, none if a document marker follows a break. -/
def plainBreaks : Nat → List Char → Cursor → Option (List Char) × Cursor
  | 0, breaks, c => (some breaks, c)
  | fuel + 1, breaks, c =>
    if c.peek = some ' ' then plainBreaks fuel breaks c.step
    else match c.lineBreak? with
      | none => (some breaks, c)
      | some (b, c) =>
        if c.atAnyMarker then (none, c) else plainBreaks fuel (breaks ++ [b]) c

/-- What the line break `first` and more of them become when lines are folded. -/
def foldBreaks (first : Char) (more : List Char) : List Char :=
  if first ≠ '\n' then first :: more else if more.isEmpty then [' '] else more

/-- The spaces after a part of a plain scalar as they read inside it, the position after them and
whether a line ended. -/
def plainSpaces (c : Cursor) : List Char × Cursor × Bool :=
  let (blanks, after) := c.span (· = ' ')
  match after.lineBreak? with
  | none => (blanks, after, false)
  | some (first, c) =>
    if c.atAnyMarker then ([], c, true)
    else match plainBreaks c.rest.length [] c with
      | (none, c) => ([], c, true)
      | (some more, c) => (foldBreaks first more, c, true)

/-- The rest of a plain scalar whose characters so far are `text`, last first, and that continues
after `spaces`. Its lines are at least `indent` columns in, unless it is inside a flow collection.
The flag tells whether the scalar was followed by a line end. -/
def plainFrom (inFlow : Bool) (indent : Nat) :
    Nat → List Char → List Char → Bool → Cursor → List Char × Cursor × Bool
  | 0, text, _, ended, c => (text, c, ended)
  | fuel + 1, text, spaces, ended, c =>
    let run := plainRun inFlow c.rest
    if c.peek = some '#' || run.isEmpty then (text, c, ended)
    else
      let text := run.reverse ++ spaces.reverse ++ text
      let (spaces, c, ended) := plainSpaces (c.advance run.length)
      if spaces.isEmpty || c.peek = some '#' || (!inFlow && c.column < indent) then
        (text, c, ended)
      else plainFrom inFlow indent fuel text spaces ended c

/-- A plain scalar. -/
def plainScalar (inFlow : Bool) (indent : Nat) (c : Cursor) : String × Cursor × Bool :=
  let (text, after, ended) := plainFrom inFlow indent (c.rest.length + 1) [] [] false c
  (String.ofList text.reverse, after, ended)

/-! ## Quoted scalars -/

/-- The character that a one-letter escape stands for. -/
def namedEscape? (c : Char) : Option Char :=
  match c with
  | '0' => some '\x00'
  | 'a' => some '\x07'
  | 'b' => some '\x08'
  | 't' => some '\t'
  | '\t' => some '\t'
  | 'n' => some '\n'
  | 'v' => some '\x0b'
  | 'f' => some '\x0c'
  | 'r' => some '\r'
  | 'e' => some '\x1b'
  | ' ' => some ' '
  | '"' => some '"'
  | '\\' => some '\\'
  | '/' => some '/'
  | 'N' => some '\x85'
  | '_' => some '\xa0'
  | 'L' => some '\u2028'
  | 'P' => some '\u2029'
  | _ => none

/-- The number of hexadecimal digits after an escape letter. -/
def escapeDigits? (c : Char) : Option Nat :=
  match c with
  | 'x' => some 2
  | 'u' => some 4
  | 'U' => some 8
  | _ => none

/-- The character of a number. Half of a surrogate pair is no character: it is read as the
replacement character, and what is said of texts leaves its escape out. -/
def numberedChar (n : Nat) : Except LexFault Char :=
  if 0x80000000 ≤ n then .error .wideNumber
  else if 0x10FFFF < n then .error .noCharacter
  else if 0xD800 ≤ n && n ≤ 0xDFFF then .ok '\uFFFD'
  else .ok (Char.ofNat n)

/-- The empty lines inside a quoted scalar. -/
def quotedBreaks : Nat → List Char → Cursor → Except LexFault (List Char × Cursor)
  | 0, breaks, c => .ok (breaks, c)
  | fuel + 1, breaks, c =>
    if c.atAnyMarker then .error .malformed
    else
      let c := c.skip isSpace
      match c.lineBreak? with
      | none => .ok (breaks, c)
      | some (b, c) => quotedBreaks fuel (breaks ++ [b]) c

/-- The spaces inside a quoted scalar as they read there. -/
def quotedSpaces (c : Cursor) : Except LexFault (List Char × Cursor) :=
  let (blanks, after) := c.span isSpace
  match after.lineBreak? with
  | some (first, c) => do
    let (more, c) ← quotedBreaks (c.rest.length + 1) [] c
    return (foldBreaks first more, c)
  | none => if after.rest.isEmpty then .error .malformed else .ok (blanks, after)

/-- An escape after its backslash, and the position after it. -/
def escapeAt (c : Cursor) : Except LexFault (List Char × Cursor) :=
  match c.peek with
  | none => .error .malformed
  | some ch =>
    match namedEscape? ch, escapeDigits? ch with
    | some e, _ => .ok ([e], c.step)
    | none, some count =>
      let digits := c.step.rest.take count
      if digits.length < count then .error .malformed
      else match Text.digitsIn? 16 0 digits with
        | none => .error .malformed
        | some n => do return ([← numberedChar n], c.step.advance count)
    | none, none =>
      match c.lineBreak? with
      | none => .error .malformed
      | some (_, c) => quotedBreaks (c.rest.length + 1) [] c

/-- The rest of a quoted scalar whose characters so far are `text`, last first. -/
def quotedFrom (quote : Char) :
    Nat → List Char → Cursor → Except LexFault (String × Cursor)
  | 0, _, _ => .error .malformed
  | fuel + 1, text, c =>
    match c.peek with
    | none => .error .malformed
    | some ch =>
      if ch = quote then
        if quote = '\'' && c.peekAt 1 = some '\'' then
          quotedFrom quote fuel ('\'' :: text) (c.advance 2)
        else .ok (String.ofList text.reverse, c.step)
      else if quote = '"' && ch = '\\' then do
        let (more, c) ← escapeAt c.step
        quotedFrom quote fuel (more.reverse ++ text) c
      else if isSpace ch || isBreak ch then do
        let (more, c) ← quotedSpaces c
        quotedFrom quote fuel (more.reverse ++ text) c
      else quotedFrom quote fuel (ch :: text) c.step

/-- A quoted scalar. -/
def quotedScalar (quote : Char) (c : Cursor) : Except LexFault (String × Cursor) :=
  quotedFrom quote (c.rest.length + 1) [] c.step

/-! ## Block scalars -/

/-- What happens to the line ends after the last line of a block. -/
inductive Chomping
  | strip
  | clip
  | keep
  deriving DecidableEq, Repr

/-- The digit of an indentation indicator. -/
def indentDigit? (c : Option Char) : Option Nat :=
  match c with
  | some d => if d.isDigit then some (d.toNat - '0'.toNat) else none
  | none => none

/-- The meaning of a chomping indicator. -/
def chomping? (c : Option Char) : Option Chomping :=
  match c with
  | some '+' => some .keep
  | some '-' => some .strip
  | _ => none

/-- The indicators after that of a block: how its end is chomped, and how far it is indented. -/
def blockIndicators (c : Cursor) : Except LexFault (Chomping × Option Nat × Cursor) := do
  let (chomp, c) := match chomping? c.peek with
    | some k => (some k, c.step)
    | none => (none, c)
  let (increment, c) := match indentDigit? c.peek with
    | some d => (some d, c.step)
    | none => (none, c)
  let (chomp, c) := match chomp, increment, chomping? c.peek with
    | none, some _, some k => (some k, c.step)
    | _, _, _ => (chomp, c)
  if increment = some 0 then throw .malformed
  if !isSeparator c.peek then throw .malformed
  return (chomp.getD .clip, increment, c)

/-- The position after the rest of a line that may hold a comment and nothing else. -/
def restOfLine (c : Cursor) : Except LexFault Cursor :=
  let c := c.skipSpaces.skipComment
  match c.lineBreak? with
  | some (_, c) => .ok c
  | none => if c.rest.isEmpty then .ok c else .error .malformed

/-- The empty lines at the head of a block, and the deepest column that spaces reach before its
first other line. -/
def leadingBreaks : Nat → List Char → Nat → Cursor → List Char × Nat × Cursor
  | 0, breaks, deepest, c => (breaks, deepest, c)
  | fuel + 1, breaks, deepest, c =>
    if c.peek = some ' ' then
      let c := c.step
      leadingBreaks fuel breaks (max deepest c.column) c
    else match c.lineBreak? with
      | none => (breaks, deepest, c)
      | some (b, c) => leadingBreaks fuel (breaks ++ [b]) deepest c

/-- The position after at most so many spaces that `indent` columns are reached. -/
def toIndent (indent : Nat) (c : Cursor) : Cursor :=
  let blanks := (c.rest.takeWhile (· = ' ')).length
  c.advance (min blanks (indent - c.column))

/-- The empty lines between two lines of a block. -/
def blockBreaks (indent : Nat) : Nat → List Char → Cursor → List Char × Cursor
  | 0, breaks, c => (breaks, c)
  | fuel + 1, breaks, c =>
    let c := toIndent indent c
    match c.lineBreak? with
    | none => (breaks, c)
    | some (b, c) => blockBreaks indent fuel (breaks ++ [b]) c

/-- The rest of a block from the start of a line on, where `breaks` are the empty lines before
it. -/
def blockFrom (folded : Bool) (chomp : Chomping) (indent : Nat) :
    Nat → List Char → List Char → Cursor → String × Cursor
  | 0, text, _, c => (String.ofList text.reverse, c)
  | fuel + 1, text, breaks, c =>
    let text := breaks.reverse ++ text
    let flush := !c.peek.any isSpace
    let (line, c) := c.span fun ch => !isBreak ch
    let text := line.reverse ++ text
    let (ending, c) := match c.lineBreak? with
      | some (b, c) => ([b], c)
      | none => ([], c)
    let (breaks, c) := blockBreaks indent (c.rest.length + 1) [] c
    if c.column = indent && !c.rest.isEmpty then
      let between :=
        if folded && ending = ['\n'] && flush && !c.peek.any isSpace then
          if breaks.isEmpty then [' '] else []
        else ending
      blockFrom folded chomp indent fuel (between.reverse ++ text) breaks c
    else
      let text := if chomp = .strip then text else ending.reverse ++ text
      let text := if chomp = .keep then breaks.reverse ++ text else text
      (String.ofList text.reverse, c)

/-- A block scalar inside a collection whose items start at column `parent`, if there is one. -/
def blockScalar (folded : Bool) (parent : Option Nat) (c : Cursor) :
    Except LexFault (String × Cursor) := do
  let (chomp, increment, c) ← blockIndicators c.step
  let c ← restOfLine c
  let least := match parent with
    | some n => max 1 (n + 1)
    | none => 1
  let (breaks, indent, c) := match increment with
    | none =>
      let (breaks, deepest, c) := leadingBreaks (c.rest.length + 1) [] 0 c
      (breaks, max least deepest, c)
    | some n =>
      let indent := least + n - 1
      let (breaks, c) := blockBreaks indent (c.rest.length + 1) [] c
      (breaks, indent, c)
  if c.column = indent && !c.rest.isEmpty then
    return blockFrom folded chomp indent (c.rest.length + 1) [] breaks c
  else
    return (String.ofList (if chomp = .keep then breaks else []), c)

end Routewright.Yaml
