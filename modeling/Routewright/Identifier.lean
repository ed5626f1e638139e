/-!
# Identifiers and generated names

Which texts name a parameter or a part of an endpoint name, and how a spelling becomes the name of a
generated type: `pascal` joins the words of a spelling with each first letter raised, and
`sharedTypeName` keeps the result apart from the types that every generated module defines.
-/

namespace Routewright

/-- A character that may start an identifier. -/
def isNameStart (c : Char) : Bool :=
  c.isAlpha || c = '_'

/-- A character that may stand inside an identifier. -/
def isNameChar (c : Char) : Bool :=
  c.isAlphanum || c = '_'

/-- What may follow the first character: name characters, and one line feed at the very end. -/
def isNameTail : List Char → Bool
  | [] => true
  | c :: cs => (c = '\n' && cs.isEmpty) || (isNameChar c && isNameTail cs)

/-- Whether a text names a parameter or a token of an endpoint name. -/
def isIdentifier : List Char → Bool
  | [] => false
  | c :: cs => isNameStart c && isNameTail cs

/-- The ASCII letters and digits of a text with the first of each run raised; `fresh` tells that a
new run starts here. -/
def pascalFrom (fresh : Bool) : List Char → List Char
  | [] => []
  | c :: cs =>
    if c.isAlphanum then (if fresh then c.toUpper else c) :: pascalFrom false cs
    else pascalFrom true cs

/-- A spelling in any word style as one capitalised word. -/
def pascal (s : String) : String :=
  String.ofList (pascalFrom true s.toList)

/-- The types that every generated module defines. -/
def sharedTypeNames : List String :=
  ["Url", "Body", "HttpRequest", "HttpMethod", "UrlBuffer"]

/-- The name of the type generated for a url part or a declared type name. -/
def sharedTypeName (s : String) : String :=
  let name := pascal s
  if name ∈ sharedTypeNames then name ++ "Part" else name

/-- Whether a generated name can stand for a type: it has a first character and that is no digit. -/
def isTypeName (s : String) : Bool :=
  match s.toList with
  | [] => false
  | c :: _ => !c.isDigit

end Routewright
