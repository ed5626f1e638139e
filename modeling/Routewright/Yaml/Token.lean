/-!
# Tokens

The pieces that a YAML text is cut into: indicators, marks of where block collections begin and end,
and scalars. The list of tokens of a text ends in `finish`, or in `broken` where it can be read no
further.
-/

namespace Routewright.Yaml

/-- What keeps a text from being read as a document. -/
inductive LexFault
  | malformed
  /-- An escape writes a number that no character has. -/
  | noCharacter
  /-- An escape writes a number of more than 31 bits. -/
  | wideNumber
  /-- A version number has more digits than are read. -/
  | longNumber
  /-- Nodes are inside each other down to more levels than are read. -/
  | tooDeep
  deriving DecidableEq, Repr

/-- A tag as it is written: a handle, if there is one, and the rest. -/
structure WrittenTag where
  handle : Option String
  suffix : String
  deriving DecidableEq, Repr

/-- A directive at the head of a document. -/
inductive Directive
  | version (major minor : Nat)
  | tag (handle address : String)
  | other
  deriving DecidableEq, Repr

/-- A token. -/
inductive Token
  | directive (d : Directive)
  | documentStart
  | documentEnd
  | blockSequenceStart
  | blockMappingStart
  | blockEnd
  | flowSequenceStart
  | flowSequenceEnd
  | flowMappingStart
  | flowMappingEnd
  | flowEntry
  | blockEntry
  | key
  | value
  | alias (name : String)
  | anchor (name : String)
  | tag (t : WrittenTag)
  | scalar (text : String) (isPlain : Bool)
  | finish
  | broken (fault : LexFault)
  deriving DecidableEq, Repr

end Routewright.Yaml
