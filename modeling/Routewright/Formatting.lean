import Routewright.Formatting.Member
import Routewright.Formatting.Number

/-!
# Formatting templates

A formatting template is text with fields in braces: `{}` takes the next argument, `{1}` the second
one, and a doubled brace stands for itself. A field may go on with items and members of its
argument, a conversion and a layout. Numbers may be written in the digits of any script, and have an
upper bound. Rendering works from left to right, so that what is wrong first is reported, be it a
malformed field or an argument that is missing.
-/

namespace Routewright.Formatting

/-- A field between braces, cut into its three parts. -/
structure Field where
  name : List Char
  conversion : Option Char
  layout : List Char
  deriving DecidableEq, Repr

/-- A stretch of a template: plain text, a field, or the point from which it cannot be read. -/
inductive Piece
  | text (chars : List Char)
  | field (field : Field)
  | broken
  deriving DecidableEq, Repr

/-- Where a reader stands in a template. Collected characters are held last first. -/
inductive Mode
  | text (chars : List Char)
  | opened (chars : List Char)
  | closed (chars : List Char)
  | name (chars : List Char)
  | item (chars : List Char)
  | conversion (name : List Char)
  | converted (name : List Char) (conversion : Char)
  | layout (name : List Char) (conversion : Option Char) (chars : List Char) (depth : Nat)

/-- The mode after one character of a field name that does not end the field. -/
def Mode.inName (chars : List Char) (c : Char) : Mode :=
  if c = '[' then .item (c :: chars)
  else if c = '!' then .conversion chars.reverse
  else if c = ':' then .layout chars.reverse none [] 1
  else .name (c :: chars)

/-- The pieces of the rest of a template. -/
def piecesFrom : Mode → List Char → List Piece
  | .text chars, [] => if chars.isEmpty then [] else [.text chars.reverse]
  | .text chars, c :: cs =>
    if c = '{' then piecesFrom (.opened chars) cs
    else if c = '}' then piecesFrom (.closed chars) cs
    else piecesFrom (.text (c :: chars)) cs
  | .opened _, [] => [.broken]
  | .opened chars, c :: cs =>
    if c = '{' then piecesFrom (.text ('{' :: chars)) cs
    else
      .text chars.reverse ::
        if c = '}' then .field ⟨[], none, []⟩ :: piecesFrom (.text []) cs
        else piecesFrom (Mode.inName [] c) cs
  | .closed _, [] => [.broken]
  | .closed chars, c :: cs => if c = '}' then piecesFrom (.text ('}' :: chars)) cs else [.broken]
  | .name _, [] => [.broken]
  | .name chars, c :: cs =>
    if c = '{' then [.broken]
    else if c = '}' then .field ⟨chars.reverse, none, []⟩ :: piecesFrom (.text []) cs
    else piecesFrom (Mode.inName chars c) cs
  | .item _, [] => [.broken]
  | .item chars, c :: cs =>
    piecesFrom (if c = ']' then .name (c :: chars) else .item (c :: chars)) cs
  | .conversion _, [] => [.broken]
  | .conversion name, c :: cs => piecesFrom (.converted name c) cs
  | .converted _ _, [] => [.broken]
  | .converted name conversion, c :: cs =>
    if c = '}' then .field ⟨name, some conversion, []⟩ :: piecesFrom (.text []) cs
    else if c = ':' then piecesFrom (.layout name (some conversion) [] 1) cs
    else [.broken]
  | .layout _ _ _ _, [] => [.broken]
  | .layout name conversion chars depth, c :: cs =>
    if c = '{' then piecesFrom (.layout name conversion (c :: chars) (depth + 1)) cs
    else if c = '}' then
      if depth ≤ 1 then .field ⟨name, conversion, chars.reverse⟩ :: piecesFrom (.text []) cs
      else piecesFrom (.layout name conversion (c :: chars) (depth - 1)) cs
    else piecesFrom (.layout name conversion (c :: chars) depth) cs

/-- The pieces of a template. -/
def pieces (template : List Char) : List Piece :=
  piecesFrom (.text []) template

/-- How the fields so far refer to arguments: in turn, with the next position, or by number. -/
inductive Numbering
  | undecided
  | inTurn (next : Nat)
  | byNumber
  deriving DecidableEq, Repr

/-- The argument that the first part of a field name refers to, and the numbering after it. -/
def argument (arguments : List (List Char)) (numbering : Numbering) (first : List Char) :
    Except Fault (List Char × Numbering) := do
  let at? (i : Nat) (after : Numbering) :=
    match arguments[i]? with
    | some a => .ok (a, after)
    | none => .error (.missing i)
  if first.isEmpty then
    match numbering with
    | .byNumber => throw .malformed
    | .undecided => at? 0 (.inTurn 1)
    | .inTurn next => at? next (.inTurn (next + 1))
  else
    match ← number? first, numbering with
    | none, _ => throw (.unnamed (String.ofList first))
    | some _, .inTurn _ => throw .malformed
    | some i, _ => at? i .byNumber

/-- The item of a subject under a key between brackets. A view has its items under names, and some
kinds are given the key as an argument. -/
def item (s : Subject) (key : List Char) : Except Fault Subject := do
  let index ← number? key
  let name := String.ofList key
  match s, index with
  | .text chars, some i =>
    match chars[i]? with
    | some c => return .text [c]
    | none => throw (.missing i)
  | .row items, some i =>
    match items[i]? with
    | some t => return t
    | none => throw (.missing i)
  | .view k, none =>
    match k.entries.find? fun e => e.name = name with
    | some e => return Subject.ofEntry k e
    | none => throw (.noKey name)
  | .view _, some _ | .table, _ => throw (.noKey name)
  | .kind k, _ =>
    if k.isApplicable then return .applied k ((index.map .integer).getD (.text key))
    else throw (.noItem name)
  | _, _ => throw (.noItem name)

/-- What a field asks of its argument: nothing more, or an item or a member and then more. -/
def select : Nat → Subject → List Char → Except Fault Subject
  | 0, s, _ => .ok s
  | _ + 1, s, [] => .ok s
  | fuel + 1, s, c :: cs =>
    if c = '[' then
      let key := cs.takeWhile (· ≠ ']')
      match cs.drop key.length with
      | [] => .error .malformed
      | _ :: rest =>
        if key.isEmpty then .error .malformed
        else do select fuel (← item s key) rest
    else if c = '.' then
      let key := cs.takeWhile fun d => d ≠ '.' && d ≠ '['
      if key.isEmpty then .error .malformed
      else match s.member? (String.ofList key) with
        | some t => select fuel t (cs.drop key.length)
        | none => .error (.noMember (String.ofList key))
    else .error .malformed

/-- A subject as its conversion writes it; without one it stays what it is, as it does with that of
the null character. -/
def convert (s : Subject) : Option Char → Except Fault Subject
  | none | some '\x00' => .ok s
  | some 's' => .ok (.text s.display)
  | some 'r' => .ok (.text s.shown.toList)
  | some 'a' =>
    .ok (.text (s.shown.toList.flatMap fun c =>
      if c.toNat < 0x7F then [c]
      else if c.toNat < 0x100 then '\\' :: 'x' :: Text.hex 2 c.toNat
      else if c.toNat < 0x10000 then '\\' :: 'u' :: Text.hex 4 c.toNat
      else '\\' :: 'U' :: Text.hex 8 c.toNat))
  | some _ => .error .malformed

/-- A subject with a layout, which is empty for what is neither text nor a number. A truth value is
laid out as one or zero. -/
def fillIn (spec : List Char) (s : Subject) : Except Fault (List Char) :=
  if spec.isEmpty then .ok s.display
  else match s with
    | .text chars => do (← Layout.parse spec).ofText chars
    | .integer n => do (← Layout.parse spec).ofNumber n
    | .truth b => do (← Layout.parse spec).ofNumber b.toNat
    | _ => .error .noLayout

/-- The text of pieces, where `nested` gives the text of a layout that holds fields of its own. -/
def renderWith (arguments : List (List Char))
    (nested : Numbering → List Char → Except Fault (List Char × Numbering))
    (numbering : Numbering) : List Piece → Except Fault (List Char × Numbering)
  | [] => .ok ([], numbering)
  | .broken :: _ => .error .malformed
  | .text chars :: rest => do
    let (tail, numbering) ← renderWith arguments nested numbering rest
    .ok (chars ++ tail, numbering)
  | .field f :: rest => do
    let first := f.name.takeWhile fun c => c ≠ '.' && c ≠ '['
    let (value, numbering) ← argument arguments numbering first
    let subject ← select f.name.length (.text value) (f.name.drop first.length)
    let subject ← convert subject f.conversion
    let (spec, numbering) ←
      if f.layout.contains '{' then nested numbering f.layout else .ok (f.layout, numbering)
    let filled ← fillIn spec subject
    let (tail, numbering) ← renderWith arguments nested numbering rest
    .ok (filled ++ tail, numbering)

/-- The text of pieces whose layouts hold fields of their own down to some levels. -/
def render (arguments : List (List Char)) :
    Nat → Numbering → List Piece → Except Fault (List Char × Numbering)
  | 0 => renderWith arguments fun _ _ => .error .malformed
  | levels + 1 => renderWith arguments fun numbering spec =>
      render arguments levels numbering (pieces spec)

/-- The text of a template with its fields filled from arguments. -/
def format (template : String) (arguments : List String) : Except Fault String :=
  (render (arguments.map String.toList) 1 .undecided (pieces template.toList)).map fun r =>
    String.ofList r.1

end Routewright.Formatting
