/-!
# Words of a command line

A command line is cut into words at its blanks. Between quotes a blank parts nothing, and a
backslash keeps the character after it; between single quotes it is a character like others. A line
may end inside a word.
-/

namespace Routewright.Words

/-- Whether a character parts words. -/
def isGap (c : Char) : Bool :=
  c = ' ' || c = '\t' || c = '\r' || c = '\n'

/-- Whether a character opens and closes a quotation. -/
def isQuote (c : Char) : Bool :=
  c = '\'' || c = '"'

/-- Where a reader stands: outside quotes, between them, or behind a backslash. -/
inductive Place
  | bare
  | quoted (quote : Char)
  | escaped (inside : Option Char)
  deriving DecidableEq, Repr

/-- What a reader has read: the words before the present one, and its characters, both last first,
with whether a part of it stood between quotes. -/
structure Reader where
  words : List String := []
  chars : List Char := []
  wasQuoted : Bool := false
  place : Place := .bare
  deriving Repr

/-- A reader that is at the end of a word, if it is in one. -/
def Reader.endWord (r : Reader) : Reader :=
  if r.chars.isEmpty && !r.wasQuoted then r
  else { words := String.ofList r.chars.reverse :: r.words }

/-- A reader that has read a character. Between double quotes a backslash stands for itself before
what is neither a quote nor a backslash. -/
def Reader.next (r : Reader) (c : Char) : Reader :=
  match r.place with
  | .bare =>
    if isGap c then r.endWord
    else if isQuote c then { r with place := .quoted c, wasQuoted := true }
    else if c = '\\' then { r with place := .escaped none }
    else { r with chars := c :: r.chars }
  | .quoted quote =>
    if c = quote then { r with place := .bare }
    else if c = '\\' && quote = '"' then { r with place := .escaped (some quote) }
    else { r with chars := c :: r.chars }
  | .escaped none => { r with place := .bare, chars := c :: r.chars }
  | .escaped (some quote) =>
    let kept := if c = '\\' || c = quote then r.chars else '\\' :: r.chars
    { r with place := .quoted quote, chars := c :: kept }

/-- The words at the end of a line. What is open there is a word, even if it is empty. -/
def Reader.finish (r : Reader) : List String :=
  let ended := if r.place = .bare then r.endWord else { r with wasQuoted := true }.endWord
  ended.words.reverse

/-- The words of a command line. -/
def ofLine (line : String) : List String :=
  (line.toList.foldl Reader.next {}).finish

end Routewright.Words
