import Routewright.Domain.CodePoints
import Routewright.Domain.Punycode
import Routewright.Text.NormalForm

/-!
# Labels of domain names

A label is a word between the dots of a domain name. It is written in the characters of any script,
under rules that keep it readable, or in ASCII behind a prefix that says so. Characters are given by
their code points.
-/

namespace Routewright.Domain

/-- Why a word is no label. -/
inductive LabelFault
  /-- It is empty, too long, not composed, or breaks a rule on hyphens, marks or the form in
  ASCII. -/
  | malformed
  /-- A character stands in no label. -/
  | character
  /-- A character stands in labels, but not beside these neighbours. -/
  | neighbours
  /-- Characters that are written leftward do not go with the others. -/
  | direction
  deriving DecidableEq, Repr

/-- The most characters of a name that ends in a dot. -/
def longestName : Nat := 254

/-- The most characters of a label in ASCII. -/
def longestLabel : Nat := 63

/-- The hyphen. -/
def hyphen : Nat := '-'.toNat

/-! ## Rules on single characters -/

/-- The next code point of some that has a part in the joining of letters. -/
def nextLetter? (label : List Nat) : Option Nat :=
  label.find? fun n => !within transparentRanges n

/-- Whether a virama stands right before the rest of a label. -/
def followsVirama (before : List Nat) : Bool :=
  before.head?.any viramas.contains

/-- Whether what stands right before the rest of a label is known well enough to say whether it is a
virama. -/
def followsNamed (before : List Nat) : Bool :=
  !before.head?.any isNameless

/-- Whether the letters on both sides are joined in writing. -/
def isBetweenJoined (before after : List Nat) : Bool :=
  (nextLetter? before).any (within joiningOnwardRanges)
    && (nextLetter? after).any (within joiningBackRanges)

/-- Whether a code point is a digit of the Arabic script. -/
def isArabicDigit (n : Nat) : Bool :=
  0x660 ≤ n && n ≤ 0x669

/-- Whether a code point is a digit of the eastern form of the Arabic script. -/
def isEasternDigit (n : Nat) : Bool :=
  0x6F0 ≤ n && n ≤ 0x6F9

/-- No fault if a condition holds. -/
def demand (holds : Bool) (fault : LabelFault) : Except LabelFault Unit :=
  if holds then .ok () else .error fault

/-- Checks that a character may stand between others, of which those before it are given last
first. -/
def checkCharacter (before : List Nat) (n : Nat) (after : List Nat) : Except LabelFault Unit :=
  if isLetter n then .ok ()
  else if n = 0x200C || n = 0x200D then
    if followsNamed before then
      demand (followsVirama before || n = 0x200C && isBetweenJoined before after) .neighbours
    else .error .malformed
  else if n = 0xB7 then
    demand (before.head? = some 'l'.toNat && after.head? = some 'l'.toNat) .neighbours
  else if n = 0x375 then demand (after.head?.any (within greekRanges)) .neighbours
  else if n = 0x5F3 || n = 0x5F4 then demand (before.head?.any (within hebrewRanges)) .neighbours
  else if n = 0x30FB then demand ((before ++ after).any (within japaneseRanges)) .neighbours
  else if isArabicDigit n then demand (!(before ++ after).any isEasternDigit) .neighbours
  else if isEasternDigit n then demand (!(before ++ after).any isArabicDigit) .neighbours
  else .error .character

/-- Checks the characters of the rest of a label one after the other. -/
def checkCharacters (before : List Nat) : List Nat → Except LabelFault Unit
  | [] => .ok ()
  | n :: after => do
    checkCharacter before n after
    checkCharacters (n :: before) after

/-! ## Rules on whole labels -/

/-- Whether hyphens are where none may be: at an end, or where a prefix would end. -/
def hasWrongHyphen (label : List Nat) : Bool :=
  (label.drop 2).take 2 = [hyphen, hyphen]
    || label.head? = some hyphen || label.getLast? = some hyphen

/-- Whether a direction is of what is written leftward. -/
def Direction.isLeftward (d : Direction) : Bool :=
  d = .leftward || d = .nativeDigit

/-- Whether a label with leftward characters is readable: it starts with a leftward letter, ends in
a letter or digit but for silent characters, has no rightward letters and not both kinds of
digits. -/
def isReadableLeftward (directions : List Direction) : Bool :=
  directions.head? = some .leftward
    && !directions.contains .rightward
    && !(directions.contains .digit && directions.contains .nativeDigit)
    && (directions.reverse.find? (· ≠ .silent)).any fun d => d = .digit || d.isLeftward

/-- Whether the directions of a label's characters go together. -/
def isReadable (directions : List Direction) : Bool :=
  !directions.contains .unknown
    && (!directions.any Direction.isLeftward || isReadableLeftward directions)

/-- Checks a label as it is read. -/
def checkLabel (label : List Nat) : Except LabelFault Unit := do
  if label.isEmpty || longestName < label.length then throw .malformed
  if !Text.isComposedForm label || hasWrongHyphen label || label.head?.any isMark then
    throw .malformed
  checkCharacters [] label
  if !isReadable (label.map direction) then throw .direction

/-! ## Labels in ASCII -/

/-- The prefix of a label in ASCII that stands for another one. -/
def asciiPrefix : List Nat :=
  ['x'.toNat, 'n'.toNat, hyphen, hyphen]

/-- The label that a word in ASCII stands for, in lower case. -/
def decodedLabel (word : List Nat) : Except LabelFault (List Nat) :=
  if asciiPrefix.isPrefixOf word then
    let rest := word.drop asciiPrefix.length
    if rest.isEmpty || rest.getLast? = some hyphen then .error .malformed
    else match Punycode.decode rest with
      | none => .error .malformed
      | some label => do
        checkLabel label
        if Punycode.encode label ≠ rest then throw .malformed
        return label
  else (checkLabel word).map fun _ => word

/-- The form in ASCII of a label in lower case. -/
def encodedLabel (label : List Nat) : Except LabelFault (List Nat) := do
  let written ←
    if label.all (· < 0x80) then (decodedLabel label).map fun _ => label
    else (checkLabel label).map fun _ => asciiPrefix ++ Punycode.encode label
  if longestLabel < written.length then throw .malformed
  return written

end Routewright.Domain
