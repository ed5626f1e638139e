import Routewright.Text.Utf8
import Routewright.Yaml.Cursor
import Routewright.Yaml.Scalar
import Routewright.Yaml.Token

/-!
# Anchors, tags and directives

The readers of the marks that stand before a node or at the head of a document. Each gives what it
read together with the position after it.
-/

namespace Routewright.Yaml

/-- The name after the indicator of an anchor or an alias. -/
def anchorName (c : Cursor) : Except LexFault (String × Cursor) :=
  let (name, after) := c.step.span isWordChar
  let ends := match after.peek with
    | none => true
    | some ch =>
      isSpace ch || isBreak ch || ch = '?' || ch = ':' || ch = ',' || ch = ']' || ch = '}'
        || ch = '%' || ch = '@' || ch = Char.ofNat 0x60
  if name.isEmpty || !ends then .error .malformed else .ok (String.ofList name, after)

/-- A character of the address of a tag, percent signs apart. -/
def isAddressChar (c : Char) : Bool :=
  c.isAlphanum || c = '-' || c = ';' || c = '/' || c = '?' || c = ':' || c = '@' || c = '&'
    || c = '=' || c = '+' || c = '$' || c = ',' || c = '_' || c = '.' || c = '!' || c = '~'
    || c = '*' || c = '\'' || c = '(' || c = ')' || c = '[' || c = ']'

/-- The bytes that percent signs write, as many as there are in a row. -/
def escapedBytes : Nat → List UInt8 → Cursor → Except LexFault (List UInt8 × Cursor)
  | 0, bytes, c => .ok (bytes, c)
  | fuel + 1, bytes, c =>
    if c.peek ≠ some '%' then .ok (bytes, c)
    else
      let digits := c.step.rest.take 2
      match digits.length, Text.digitsIn? 16 0 digits with
      | 2, some n => escapedBytes fuel (bytes ++ [n.toUInt8]) (c.step.advance 2)
      | _, _ => .error .malformed

/-- The rest of the address of a tag whose characters so far are `text`. -/
def addressFrom : Nat → List Char → Cursor → Except LexFault (List Char × Cursor)
  | 0, text, c => .ok (text, c)
  | fuel + 1, text, c =>
    match c.peek with
    | some '%' => do
      let (bytes, c) ← escapedBytes (c.rest.length + 1) [] c
      match Text.decodeUtf8 bytes with
      | .error _ => throw .malformed
      | .ok more => addressFrom fuel (text ++ more) c
    | some ch =>
      if isAddressChar ch then
        let (run, c) := c.span isAddressChar
        addressFrom fuel (text ++ run) c
      else .ok (text, c)
    | none => .ok (text, c)

/-- The address of a tag. -/
def address (c : Cursor) : Except LexFault (String × Cursor) := do
  let (text, after) ← addressFrom (c.rest.length + 1) [] c
  if after.index = c.index then throw .malformed
  return (String.ofList text, after)

/-- The handle of a tag: a word between exclamation marks, or one such mark before a space. -/
def handle (c : Cursor) : Except LexFault (String × Cursor) :=
  if c.peek ≠ some '!' then .error .malformed
  else if c.peekAt 1 = some ' ' then .ok ("!", c.step)
  else
    let (word, after) := c.step.span isWordChar
    if after.peek = some '!' then .ok (String.ofList ('!' :: word ++ ['!']), after.step)
    else .error .malformed

/-- A tag that goes from its exclamation mark to a separator. -/
def writtenTag (c : Cursor) : Except LexFault (WrittenTag × Cursor) := do
  let (tag, after) ←
    if c.peekAt 1 = some '<' then do
      let (suffix, c) ← address (c.advance 2)
      if c.peek = some '>' then pure ({ handle := none, suffix : WrittenTag }, c.step)
      else throw .malformed
    else if isGap (c.peekAt 1) then
      pure ({ handle := none, suffix := "!" }, c.step)
    else do
      let word := c.step.rest.takeWhile fun ch => !isSeparator (some ch)
      let (handle, c) ← if word.contains '!' then handle c else pure ("!", c.step)
      let (suffix, c) ← address c
      pure ({ handle := some handle, suffix }, c)
  if isSeparator after.peek then return (tag, after) else throw .malformed

/-- A number of a version directive. -/
def versionNumber (c : Cursor) : Except LexFault (Nat × Cursor) :=
  let (digits, after) := c.span Char.isDigit
  if digits.isEmpty then .error .malformed
  else if Text.mostDigits < digits.length then .error .longNumber
  else .ok ((Text.digitsIn? 10 0 digits).getD 0, after)

/-- The value of a version directive. -/
def versionValue (c : Cursor) : Except LexFault (Directive × Cursor) := do
  let (major, c) ← versionNumber c.skipSpaces
  if c.peek ≠ some '.' then throw .malformed
  let (minor, c) ← versionNumber c.step
  if isSeparator c.peek then return (.version major minor, c) else throw .malformed

/-- The value of a tag directive. -/
def tagValue (c : Cursor) : Except LexFault (Directive × Cursor) := do
  let (name, c) ← handle c.skipSpaces
  if c.peek ≠ some ' ' then throw .malformed
  let (target, c) ← address c.skipSpaces
  if isSeparator c.peek then return (.tag name target, c) else throw .malformed

/-- A directive with its line. -/
def directive (c : Cursor) : Except LexFault (Directive × Cursor) := do
  let (name, c) := c.step.span isWordChar
  if name.isEmpty || !isSeparator c.peek then throw .malformed
  let (value, c) ←
    if name = "YAML".toList then versionValue c
    else if name = "TAG".toList then tagValue c
    else pure (Directive.other, c.skipLine)
  return (value, ← restOfLine c)

end Routewright.Yaml
