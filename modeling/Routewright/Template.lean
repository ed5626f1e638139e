import Routewright.Identifier
import Routewright.Text.Quoted

/-!
# Path templates

A path template is text with holes such as `/{index}/_alias/{name}`. `parseSegments` splits it into
literals and parameters in order, or says what is wrong with it. The parameter names of a path in
template order are its shape.
-/

namespace Routewright

/-- A piece of a path template. -/
inductive Segment
  | literal (text : String)
  | param (name : String)
  deriving DecidableEq, Repr

/-- What keeps a text from being a path template. Offsets count characters from the start. -/
inductive TemplateFault
  | unbalanced (offset : Nat)
  | unterminated (offset : Nat)
  | emptyName
  | invalidName (name : String)
  | repeatedName (name : String)
  deriving DecidableEq, Repr

/-- The wording of a fault in `template`. -/
def TemplateFault.message (template : String) : TemplateFault → String
  | .unbalanced offset =>
    "Unbalanced '\x7d' at offset " ++ toString offset ++ " in path template " ++ Text.shown template
  | .unterminated offset =>
    "Unterminated '\x7b' at offset " ++ toString offset ++ " in path template "
      ++ Text.shown template
  | .emptyName => "Empty parameter name in path template " ++ Text.shown template
  | .invalidName name =>
    "Invalid parameter name " ++ Text.shown name ++ " in path template " ++ Text.shown template
  | .repeatedName name =>
    "Parameter " ++ Text.shown name ++ " appears more than once in path template "
      ++ Text.shown template

/-- A piece of a path template as it is read: the characters of a literal, or a parameter. -/
inductive Piece
  | chars (text : List Char)
  | hole (name : String)
  deriving DecidableEq, Repr

/-- The segment that a piece makes. -/
def Piece.segment : Piece → Segment
  | .chars text => .literal (String.ofList text)
  | .hole name => .param name

/-- Puts a character in front of pieces, into their first literal if they start with one. -/
def consChar (c : Char) : List Piece → List Piece
  | .chars text :: rest => .chars (c :: text) :: rest
  | rest => .chars [c] :: rest

/-- A parameter name that may follow the names `seen`. -/
def checkName (seen : List String) (name : List Char) : Except TemplateFault String :=
  let s := String.ofList name
  if name.isEmpty then .error .emptyName
  else if !isIdentifier name then .error (.invalidName s)
  else if s ∈ seen then .error (.repeatedName s)
  else .ok s

mutual

/-- The pieces of the text from `offset` on, outside a hole. -/
def parseText (offset : Nat) (seen : List String) : List Char → Except TemplateFault (List Piece)
  | [] => .ok []
  | c :: cs =>
    if c = '}' then .error (.unbalanced offset)
    else if c = '{' then parseHole offset (offset + 1) seen [] cs
    else (parseText (offset + 1) seen cs).map (consChar c)

/-- The pieces from inside a hole that opened at `start`; `name` holds its characters so far, last
first. -/
def parseHole (start offset : Nat) (seen : List String) (name : List Char) :
    List Char → Except TemplateFault (List Piece)
  | [] => .error (.unterminated start)
  | c :: cs =>
    if c = '}' then
      match checkName seen name.reverse with
      | .error fault => .error fault
      | .ok param => (parseText (offset + 1) (param :: seen) cs).map (Piece.hole param :: ·)
    else parseHole start (offset + 1) seen (c :: name) cs

end

/-- The segments of a template; the empty template is one empty literal. -/
def parseSegments (template : String) : Except TemplateFault (List Segment) :=
  (parseText 0 [] template.toList).map fun pieces =>
    if pieces.isEmpty then [.literal ""] else pieces.map Piece.segment

/-- A path template together with its segments. -/
structure UrlPath where
  template : String
  segments : List Segment
  deriving DecidableEq, Repr

/-- The path of a template. -/
def UrlPath.parse (template : String) : Except TemplateFault UrlPath :=
  (parseSegments template).map fun segments => { template, segments }

/-- The parameter names among segments, in order. -/
def Segment.params : List Segment → List String
  | [] => []
  | .literal _ :: rest => Segment.params rest
  | .param name :: rest => name :: Segment.params rest

/-- The literal texts among segments, in order. -/
def Segment.literals : List Segment → List String
  | [] => []
  | .literal text :: rest => text :: Segment.literals rest
  | .param _ :: rest => Segment.literals rest

/-- The shape of a path: its parameter names in template order. -/
def UrlPath.params (path : UrlPath) : List String :=
  Segment.params path.segments

/-- The literals of a path in template order. -/
def UrlPath.literals (path : UrlPath) : List String :=
  Segment.literals path.segments

/-- Segments as text for one formatting call, each parameter an empty hole. -/
def Segment.holes : List Segment → String
  | [] => ""
  | .literal text :: rest => text ++ Segment.holes rest
  | .param _ :: rest => "\x7b\x7d" ++ Segment.holes rest

/-- The formatting template of segments: a hole for the base address, then the segments. -/
def holeTemplate (segments : List Segment) : String :=
  "\x7b\x7d" ++ Segment.holes segments

end Routewright
