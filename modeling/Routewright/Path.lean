import Routewright.Text.Lines

/-!
# Paths

A path leads from the working directory or from the root along names. Repeated separators and single
dots say nothing and are dropped when a path is read; double dots stay, since what they lead to
depends on the files. `text` writes a path in its shortest form.
-/

namespace Routewright

/-- Where a path starts. Exactly two separators in front are kept apart from any other number. -/
inductive Anchor
  | here
  | root
  | doubleRoot
  deriving DecidableEq, Repr

/-- The text of an anchor. -/
def Anchor.text : Anchor → String
  | .here => ""
  | .root => "/"
  | .doubleRoot => "//"

/-- A path: its start and the names along it. -/
structure Path where
  anchor : Anchor := .here
  names : List String := []
  deriving DecidableEq, Repr

namespace Path

/-- The start of the path of a text. -/
def anchorOf : List Char → Anchor
  | '/' :: '/' :: '/' :: _ => .root
  | '/' :: '/' :: _ => .doubleRoot
  | '/' :: _ => .root
  | _ => .here

/-- Whether a name between separators says nothing. -/
def isSilent (name : List Char) : Bool :=
  name.isEmpty || name = ['.']

/-- The path of a text. -/
def ofText (s : String) : Path where
  anchor := anchorOf s.toList
  names := ((Text.pieces '/' s.toList).filter fun name => !isSilent name).map String.ofList

/-- The text of a path; one that leads nowhere is a dot. -/
def text (p : Path) : String :=
  if p.anchor = .here && p.names.isEmpty then "."
  else p.anchor.text ++ Text.join "/" p.names

/-- The last name of a path, empty if there is none. -/
def name (p : Path) : String :=
  (p.names.getLast?).getD ""

/-- A path without its last name. -/
def parent (p : Path) : Path :=
  { p with names := p.names.dropLast }

/-- A path with a name after it. -/
def child (p : Path) (name : String) : Path :=
  { p with names := p.names ++ [name] }

/-- The last dot of a name with what follows it. It is no suffix if nothing follows it or nothing
precedes it. -/
def suffixOf (name : List Char) : List Char :=
  let ending := (name.reverse.takeWhile (· ≠ '.')).reverse
  if ending.isEmpty || name.length ≤ ending.length + 1 then [] else '.' :: ending

/-- The suffix of a path. -/
def suffix (p : Path) : String :=
  String.ofList (suffixOf p.name.toList)

end Path

end Routewright
