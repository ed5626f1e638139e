import Routewright.Text.Lines

/-!
# Layout of source text

How the pieces of a source file are put under each other, whatever the language: chunks without line
feeds at their ends, a separator between them, and names that are kept apart from reserved words.
-/

namespace Routewright.Code

/-- Chunks under each other. -/
def stack (separator : String) (chunks : List String) : String :=
  Text.join separator (chunks.map Text.trimNewlines)

/-- A whole file: its chunks and one final line feed. -/
def file (separator : String) (chunks : List String) : String :=
  stack separator chunks ++ "\n"

/-- Items separated by commas. -/
def commas (items : List String) : String :=
  Text.join ", " items

/-- A name, escaped if it is reserved. -/
def escapeReserved (reserved : List String) (escape : String → String) (name : String) : String :=
  if name ∈ reserved then escape name else name

end Routewright.Code
