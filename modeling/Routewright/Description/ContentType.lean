import Routewright.Text.Blank
import Routewright.Text.Case
import Routewright.Text.CharsetName
import Routewright.Text.Numeral

/-!
# Content types

What is said about a document beside it: a row of parameters between semicolons, the first of which
is usually the kind of the document. A semicolon between quotes parts nothing. The value of a
parameter may be spread over several ones, its segments, each of which may be written in percent
signs; such a value says in which charset it is written itself.
-/

namespace Routewright

/-- Why a content type does not lead to the text of a document. -/
inductive ContentTypeFault
  /-- It is not written in ASCII. -/
  | notAscii
  /-- Some segments of a parameter are numbered, and others are not. -/
  | unordered
  /-- The number of a segment has more digits than are read. -/
  | longNumber
  /-- The name of a charset holds the first character, which ends names. -/
  | endInName
  | charset (fault : Text.CharsetFault)
  deriving DecidableEq, Repr

/-- The wording of a fault. -/
def ContentTypeFault.message : ContentTypeFault → String
  | .notAscii => "the content type is not in ASCII"
  | .unordered => "the segments of a parameter of the content type have no order"
  | .longNumber => "the number of a segment of the content type has too many digits"
  | .endInName => "the name of a charset ends before its last character"
  | .charset fault => fault.message

namespace ContentType

/-! ## Parameters -/

/-- The pieces of a text between semicolons. `previous` is the character before the text, and
`isQuoted` says whether it is between quotes. -/
def pieces (isQuoted : Bool) (previous : Char) : List Char → List (List Char)
  | [] => [[]]
  | c :: cs =>
    if c = ';' && !isQuoted then [] :: pieces false c cs
    else
      let isQuoted := if c = '"' && previous ≠ '\\' then !isQuoted else isQuoted
      match pieces isQuoted c cs with
      | [] => [[c]]
      | piece :: more => (c :: piece) :: more

/-- The name of a parameter and its value, which is empty if there is none. The name of one with a
value is in lower case. -/
def parameter (piece : List Char) : List Char × List Char :=
  let name := piece.takeWhile (· ≠ '=')
  let value := piece.drop name.length
  if value.isEmpty then (Text.trim name, [])
  else (Text.lower (Text.trim name), Text.trim (value.drop 1))

/-! ## Quotes -/

/-- A text with one of each two backslashes. -/
def singleBackslashes : List Char → List Char
  | '\\' :: '\\' :: cs => '\\' :: singleBackslashes cs
  | c :: cs => c :: singleBackslashes cs
  | [] => []

/-- A text with its quotes without backslashes before them. -/
def bareQuotes : List Char → List Char
  | '\\' :: '"' :: cs => '"' :: bareQuotes cs
  | c :: cs => c :: bareQuotes cs
  | [] => []

/-- A value without the quotes or the brackets that it stands in. -/
def unquoted (value : List Char) : List Char :=
  let inside := (value.drop 1).dropLast
  if value.length ≤ 1 then value
  else if value.head? = some '"' && value.getLast? = some '"' then
    bareQuotes (singleBackslashes inside)
  else if value.head? = some '<' && value.getLast? = some '>' then inside
  else value

/-- A value with backslashes before its quotes and its backslashes. -/
def escaped (value : List Char) : List Char :=
  value.flatMap fun c => if c = '\\' || c = '"' then ['\\', c] else [c]

/-- What is left of a value between quotes in which it has been escaped. -/
def requoted (value : List Char) : List Char :=
  bareQuotes (singleBackslashes (escaped value))

/-! ## Segments -/

/-- Part of the value of a parameter. -/
structure Segment where
  number : Option Nat
  text : List Char
  isEncoded : Bool
  deriving DecidableEq, Repr

/-- Whether a character may be in the name of a parameter with segments. -/
def isNameChar (c : Char) : Bool :=
  c.isAlphanum || c = '_'

/-- The name of the parameter that a segment belongs to, and the digits of its number. -/
def segmentName? (name : List Char) : Option (List Char × List Char) :=
  let base := name.takeWhile isNameChar
  match name.drop base.length with
  | '*' :: rest =>
    let digits := rest.takeWhile Char.isDigit
    let tail := rest.drop digits.length
    if !base.isEmpty && (tail.isEmpty || tail = ['*'] && !digits.isEmpty) then some (base, digits)
    else none
  | _ => none

/-- The most digits of a number. -/
def mostDigits : Nat := 4300

/-- A segment by the digits of its number. -/
def segment (name digits value : List Char) : Except ContentTypeFault Segment :=
  if mostDigits < digits.length then .error .longNumber
  else
    .ok {
      number := if digits.isEmpty then none
        else some (digits.foldl (fun n d => n * 10 + (d.toNat - '0'.toNat)) 0)
      text := unquoted value
      isEncoded := name.getLast? = some '*' }

/-- Whether a text is not behind another one in the order of code points. -/
def textLe : List Char → List Char → Bool
  | [], _ => true
  | _ :: _, [] => false
  | a :: as, b :: bs => a < b || a = b && textLe as bs

/-- Whether a segment is not behind another one: by their numbers, then by their texts. -/
def Segment.le (a b : Segment) : Bool :=
  if a.number = b.number then
    if a.text = b.text then !a.isEncoded || b.isEncoded else textLe a.text b.text
  else a.number.getD 0 ≤ b.number.getD 0

/-- The characters of a text with percent signs, each of which stands for a byte before two
digits. -/
def percentDecoded : List Char → List Char
  | '%' :: a :: b :: cs =>
    match Text.hexDigit? a, Text.hexDigit? b with
    | some x, some y => Char.ofNat (x * 16 + y) :: percentDecoded cs
    | _, _ => '%' :: percentDecoded (a :: b :: cs)
  | c :: cs => c :: percentDecoded cs
  | [] => []

/-- The text of a segment. -/
def Segment.decoded (s : Segment) : List Char :=
  if s.isEncoded then percentDecoded s.text else s.text

/-! ## Values -/

/-- The value of a parameter, with the charset that it is written in, if it says so. -/
structure ParameterValue where
  charset : Option (List Char)
  text : List Char
  deriving DecidableEq, Repr

/-- The value of an encoded text: behind the charset and a language, if all three are there, between
apostrophes. The charset of ASCII has no need to be named. -/
def encodedValue (text : List Char) : ParameterValue :=
  let charset := text.takeWhile (· ≠ '\'')
  let rest := text.drop (charset.length + 1)
  let language := rest.takeWhile (· ≠ '\'')
  let value (cs : List Char) := bareQuotes (singleBackslashes cs)
  if rest.contains '\'' then
    { charset := some (if charset.isEmpty then "us-ascii".toList else charset)
      text := value (rest.drop (language.length + 1)) }
  else { charset := some "us-ascii".toList, text := value text }

/-- The value that segments give together. -/
def joined (segments : List Segment) : Except ContentTypeFault ParameterValue :=
  if segments.any (·.number.isNone) && segments.any (·.number.isSome) then .error .unordered
  else
    let ordered := segments.mergeSort Segment.le
    let text := ordered.flatMap Segment.decoded
    .ok (if ordered.any (·.isEncoded) then encodedValue (escaped text)
      else { charset := none, text := requoted text })

/-- Segments by the parameters that they belong to, with one more. -/
def addSegment (groups : List (List Char × List Segment)) (name : List Char) (s : Segment) :
    List (List Char × List Segment) :=
  if groups.any (·.1 = name) then
    groups.map fun (other, ss) => if other = name then (other, ss ++ [s]) else (other, ss)
  else groups ++ [(name, [s])]

/-- The parameters behind the first one: whole ones, and segments by their parameters. -/
def sorted :
    List (List Char × List Char) →
      Except ContentTypeFault
        (List (List Char × ParameterValue) × List (List Char × List Segment)) :=
  fun parameters => parameters.foldlM
    (fun (whole, groups) (name, value) =>
      match segmentName? name with
      | some (base, digits) => do
        return (whole, addSegment groups base (← segment name digits value))
      | none => return (whole ++ [(name, ⟨none, requoted (unquoted value)⟩)], groups))
    ([], [])

/-- The parameters of a content type. The first one has no segments. -/
def values (contentType : List Char) :
    Except ContentTypeFault (List (List Char × ParameterValue)) := do
  match (pieces false ' ' contentType).map parameter with
  | [] => return []
  | (name, value) :: rest =>
    let (whole, groups) ← sorted rest
    let spread ← groups.mapM fun (base, segments) => return (base, ← joined segments)
    return (name, ⟨none, unquoted value⟩) :: whole ++ spread

/-! ## Charsets -/

/-- The end of a name. -/
def nameEnd : Char := Char.ofNat 0

/-- The charset of a name. -/
def named (name : List Char) : Except ContentTypeFault (Option Text.Charset) :=
  if name.contains nameEnd then .error .endInName else .ok (Text.Charset.ofName? name)

/-- The text of a value. What cannot be read in its charset is left as it is. -/
def ParameterValue.read (v : ParameterValue) : Except ContentTypeFault (List Char) :=
  match v.charset with
  | none => .ok v.text
  | some name => do
    let bytes := v.text.map fun c => UInt8.ofNat c.toNat
    return ((← named name).bind (·.readWhole? bytes)).getD v.text

/-- The name of the charset that a content type gives, if it is written in ASCII. -/
def charsetName? (contentType : String) : Except ContentTypeFault (Option (List Char)) := do
  let parameters ← values contentType.toList
  match parameters.find? fun p => Text.lower p.1 = "charset".toList with
  | none => return none
  | some (_, value) =>
    let name ← value.read
    return if name.all fun c => c.toNat < 0x80 then some name else none

/-- The charset of a document: that which its content type names, if it is known, and else UTF-8. -/
def charset (contentType : String) : Except ContentTypeFault Text.Charset := do
  match ← charsetName? contentType with
  | none => return .utf8 false
  | some name => return (← named name).getD (.utf8 false)

/-- The text of a document. An empty one has no charset. -/
def read (contentType : String) (body : List UInt8) : Except ContentTypeFault (List Char) := do
  if body.isEmpty then return []
  else ((← charset contentType).read body).mapError .charset

/-- Checks that a content type can be sent. -/
def check (contentType : String) : Except ContentTypeFault Unit :=
  if contentType.toList.all fun c => c.toNat < 0x80 then .ok () else .error .notAscii

end ContentType

end Routewright
