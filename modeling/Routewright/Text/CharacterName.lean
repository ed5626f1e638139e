import Routewright.Text.CharacterName.Roll
import Routewright.Text.HexTable

/-!
# Characters by their names

Most characters are in a roll of names, which are looked up in any case. Ideographs are named by
their code points, and the syllables of Korean by their parts.
-/

namespace Routewright.Text.CharacterName

/-! ## The roll -/

/-- The words of a text, between single blanks. -/
def words (cs : List Char) : List (List Char) :=
  cs.foldr
    (fun c words =>
      match words with
      | word :: more => if c = ' ' then [] :: word :: more else (c :: word) :: more
      | [] => [[c]])
    [[]]

/-- A reader of the roll that looks for the words of a name: the code point of the next character,
the words of the last name, the characters of the present entry, last first, and what it has
found. -/
structure Seeker where
  target : List (List Char)
  code : Nat := 0
  name : List (List Char) := []
  entry : List Char := []
  found : Option Nat := none

/-- The code point that hexadecimal digits write. -/
def codeOf (digits : List Char) : Nat :=
  digits.foldl (fun n c => n * 16 + (capitalHexDigit? c).getD 0) 0

/-- A seeker at the end of an entry. -/
def Seeker.endEntry (s : Seeker) : Seeker :=
  match s.entry.reverse with
  | '@' :: digits => { s with code := codeOf digits, entry := [] }
  | kept :: rest =>
    let name := s.name.take (codeOf [kept]) ++ (if rest.isEmpty then [] else words rest)
    { s with
      code := s.code + 1
      name
      entry := []
      found := s.found.or (if name = s.target then some s.code else none) }
  | [] => s

/-- A seeker that has read a character. -/
def Seeker.next (s : Seeker) (c : Char) : Seeker :=
  if s.found.isSome || s.entry.isEmpty && (c = '\n' || c = ' ') then s
  else if c = ';' then s.endEntry
  else { s with entry := c :: s.entry }

/-- The code point of a name in the roll. -/
def enrolled? (name : List Char) : Option Nat :=
  (roll.foldl Seeker.next { target := words (name.map Char.toUpper) }).found

/-! ## Rules -/

/-- What the names of ideographs start with. -/
def ideographPrefix : List Char := "CJK UNIFIED IDEOGRAPH-".toList

/-- The code points of ideographs that are named by them. -/
def ideographRanges : List (Nat × Nat) :=
  [(0x3400, 0x4DBF), (0x4E00, 0x9FFF), (0x20000, 0x2A6DF), (0x2A700, 0x2B738), (0x2B740, 0x2B81D),
    (0x2B820, 0x2CEA1), (0x2CEB0, 0x2EBE0), (0x30000, 0x3134A)]

/-- The code point of an ideograph by its digits, four or five of them. -/
def ideograph? (digits : List Char) : Option Nat :=
  if (digits.length = 4 || digits.length = 5) && digits.all (capitalHexDigit? · |>.isSome)
      && ideographRanges.any (fun r => r.1 ≤ codeOf digits && codeOf digits ≤ r.2) then
    some (codeOf digits)
  else none

/-- What the names of syllables start with. -/
def syllablePrefix : List Char := "HANGUL SYLLABLE ".toList

/-- The names of the first parts of syllables. -/
def firstParts : List String :=
  ["G", "GG", "N", "D", "DD", "R", "M", "B", "BB", "S", "SS", "", "J", "JJ", "C", "K", "T", "P",
    "H"]

/-- The names of the middle parts. -/
def middleParts : List String :=
  ["A", "AE", "YA", "YAE", "EO", "E", "YEO", "YE", "O", "WA", "WAE", "OE", "YO", "U", "WEO", "WE",
    "WI", "YU", "EU", "YI", "I"]

/-- The names of the last parts. -/
def lastParts : List String :=
  ["", "G", "GG", "GS", "N", "NJ", "NH", "D", "L", "LG", "LM", "LB", "LS", "LT", "LP", "LH", "M",
    "B", "BS", "S", "SS", "NG", "J", "C", "K", "T", "P", "H"]

/-- The number of the longest of some parts that a text starts with, and the text behind it. -/
def part? (parts : List String) (cs : List Char) : Option (Nat × List Char) :=
  let fitting := parts.zipIdx.filter fun p => p.1.toList.isPrefixOf cs
  let longest := fitting.foldl (fun n p => max n p.1.length) 0
  (fitting.find? fun p => p.1.length = longest).map fun p => (p.2, cs.drop longest)

/-- The code point of a syllable by the names of its parts. -/
def syllable? (cs : List Char) : Option Nat := do
  let (first, cs) ← part? firstParts cs
  let (middle, cs) ← part? middleParts cs
  let (last, cs) ← part? lastParts cs
  if cs.isEmpty then some (0xAC00 + (first * 21 + middle) * 28 + last) else none

/-- The character of a name. -/
def char? (name : List Char) : Option Char :=
  let code? :=
    if syllablePrefix.isPrefixOf name then syllable? (name.drop syllablePrefix.length)
    else if ideographPrefix.isPrefixOf name then ideograph? (name.drop ideographPrefix.length)
    else enrolled? name
  code?.map Char.ofNat

end Routewright.Text.CharacterName
