/-!
# Lines and pieces

Splitting a text at line boundaries or at one separator, joining pieces, and indenting. A line
feed always separates, `lines` knows every boundary that Unicode text may carry.
-/

namespace Routewright.Text

/-- A character that ends a line by itself. -/
def isLineEnd (c : Char) : Bool :=
  let n := c.toNat
  (0x0A ≤ n && n ≤ 0x0D) || (0x1C ≤ n && n ≤ 0x1E) || n == 0x85 || n == 0x2028 || n == 0x2029

/-- The lines of a text without their ends; a carriage return and a line feed end one line. -/
def lines : List Char → List (List Char)
  | [] => []
  | '\r' :: '\n' :: cs => [] :: lines cs
  | c :: cs =>
    if isLineEnd c then [] :: lines cs
    else match lines cs with
      | [] => [[c]]
      | l :: ls => (c :: l) :: ls

/-- The pieces between the occurrences of one character; there is always at least one. -/
def pieces (separator : Char) : List Char → List (List Char)
  | [] => [[]]
  | c :: cs =>
    if c = separator then [] :: pieces separator cs
    else match pieces separator cs with
      | [] => [[c]]
      | p :: ps => (c :: p) :: ps

/-- Texts in a row with a separator between each two. -/
def join (separator : String) : List String → String
  | [] => ""
  | [s] => s
  | s :: t :: rest => s ++ separator ++ join separator (t :: rest)

/-- A text without the line feeds at its ends. -/
def trimNewlines (s : String) : String :=
  String.ofList
    (((s.toList.dropWhile (· = '\n')).reverse.dropWhile (· = '\n')).reverse)

/-- The four blanks of one level of indentation. -/
def indentUnit : String := "    "

/-- A text with its non-empty lines moved right by some levels. -/
def indent (s : String) (levels : Nat) : String :=
  let margin := String.ofList (List.replicate (4 * levels) ' ')
  join "\n" ((pieces '\n' s.toList).map fun l =>
    if l.isEmpty then "" else margin ++ String.ofList l)

/-- A text with every carriage return, alone or before a line feed, read as a line feed. -/
def unifyNewlines : List Char → List Char
  | [] => []
  | '\r' :: '\n' :: cs => '\n' :: unifyNewlines cs
  | c :: cs => (if c = '\r' then '\n' else c) :: unifyNewlines cs

/-- Whether `part` occurs in a text. -/
def contains (part : List Char) : List Char → Bool
  | [] => part.isEmpty
  | c :: cs => part.isPrefixOf (c :: cs) || contains part cs

end Routewright.Text
