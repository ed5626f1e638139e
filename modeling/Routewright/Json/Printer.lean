import Routewright.Value

/-!
# Writing JSON

Values as JSON text: on one line, or with one element a line and two blanks for each level. Whether
characters beyond ASCII are escaped is a choice of the caller. What JSON has no form for is written
as the text it displays as; a collection inside itself is written as null there.
-/

namespace Routewright.Json

/-- The form of a text: how strings are escaped, and whether it is spread over lines. -/
structure Style where
  charset : Text.JsonCharset
  spread : Bool

/-- What separates two elements at a level. -/
def Style.between (s : Style) (level : Nat) : String :=
  if s.spread then ",\n" ++ String.ofList (List.replicate (2 * level) ' ') else ", "

/-- What stands between a bracket and the elements inside it. -/
def Style.edge (s : Style) (level : Nat) : String :=
  if s.spread then "\n" ++ String.ofList (List.replicate (2 * level) ' ') else ""

/-- A number as JSON writes it. -/
def floatText : Binary64 → String
  | .nan => "NaN"
  | .infinite negative => if negative then "-Infinity" else "Infinity"
  | x => x.text

/-- The text of a key: truth values, numbers and null are written as JSON writes them. -/
def keyText : Value → String
  | .text s => s
  | .null => "null"
  | .bool b => if b then "true" else "false"
  | .int n => toString n
  | .float x => floatText x
  | v => v.display

mutual

/-- A value inside `level` brackets. -/
def writeAt (s : Style) (level : Nat) : Value → String
  | .null => "null"
  | .bool b => if b then "true" else "false"
  | .int n => toString n
  | .float x => floatText x
  | .text t => Text.jsonString s.charset t
  | .list [] | .tuple [] => "[]"
  | .list (v :: vs) | .tuple (v :: vs) =>
    "[" ++ s.edge (level + 1) ++ writeAt s (level + 1) v ++ writeMore s (level + 1) vs
      ++ s.edge level ++ "]"
  | .map [] => "\x7b\x7d"
  | .map ((k, v) :: es) =>
    "\x7b" ++ s.edge (level + 1) ++ Text.jsonString s.charset (keyText k) ++ ": "
      ++ writeAt s (level + 1) v ++ writeEntries s (level + 1) es ++ s.edge level ++ "\x7d"
  | .set items => Text.jsonString s.charset (Value.shown (.set items))
  | .moment m => Text.jsonString s.charset m.text
  | .bytes bs => Text.jsonString s.charset (Value.shownBytes bs)
  | .knot _ body => writeAt s level body
  | .again _ => "null"

/-- Further elements of a list, each after a separator. -/
def writeMore (s : Style) (level : Nat) : List Value → String
  | [] => ""
  | v :: vs => s.between level ++ writeAt s level v ++ writeMore s level vs

/-- Further entries of a mapping, each after a separator. -/
def writeEntries (s : Style) (level : Nat) : List (Value × Value) → String
  | [] => ""
  | (k, v) :: es =>
    s.between level ++ Text.jsonString s.charset (keyText k) ++ ": " ++ writeAt s level v
      ++ writeEntries s level es

end

/-- A value on one line. -/
def write (charset : Text.JsonCharset) (v : Value) : String :=
  writeAt ⟨charset, false⟩ 0 v

/-- A value spread over lines. -/
def writeLines (charset : Text.JsonCharset) (v : Value) : String :=
  writeAt ⟨charset, true⟩ 0 v

end Routewright.Json
