import Routewright.Json.Printer
import Routewright.Machine
import Routewright.Table
import Routewright.Value

/-!
# The console

Data goes to standard output and messages about it to standard error. The format of data is asked
for or follows from where standard output leads.
-/

namespace Routewright

/-- The format in which data is shown. -/
inductive DataFormat
  | json
  | plain
  | rich
  deriving DecidableEq, Repr

namespace DataFormat

/-- The label of a format. -/
def label : DataFormat → String
  | .json => "json"
  | .plain => "plain"
  | .rich => "rich"

/-- Every format. -/
def all : List DataFormat :=
  [.json, .plain, .rich]

/-- The format of a label. -/
def ofLabel? (s : String) : Option DataFormat :=
  all.find? fun f => f.label = s

end DataFormat

/-- A table of texts. -/
structure TextTable where
  title : String
  headers : List String
  rows : List (List String)
  deriving DecidableEq, Repr

namespace TextTable

/-- A row as an object, with the headers as keys. Cells without a header are left out, as are
headers without a cell. -/
def record (headers row : List String) : Value :=
  Value.object (Table.ofList ((headers.zip row).map fun cell => (cell.1, .text cell.2)))

/-- A table as a list of objects. -/
def records (table : TextTable) : Value :=
  .list (table.rows.map (record table.headers))

end TextTable

namespace Console

/-- Text for standard output: it ends with a line feed. -/
def dataText (s : String) : String :=
  if s.toList.getLast? = some '\n' then s else s ++ "\n"

/-- A row of cells separated by tabs. -/
def rowText (cells : List String) : String :=
  dataText (Text.join "\t" cells)

/-- A table with a row of headers first. -/
def plainText (table : TextTable) : String :=
  String.join ((table.headers :: table.rows).map rowText)

/-- A value as it is shown. -/
def valueText (v : Value) : String :=
  dataText (Json.writeLines .unicode v)

/-- A table in a format. -/
def tableText (format : DataFormat) (table : TextTable) : String :=
  match format with
  | .json => valueText table.records
  | .plain => plainText table
  | .rich => dataText table.title ++ plainText table

end Console

/-- How data and messages are shown: whether messages of success are left out, and whether messages
for finding errors are shown. -/
structure Console where
  format : DataFormat := .plain
  quiet : Bool := false
  verbose : Bool := false
  deriving DecidableEq, Repr

namespace Console

variable {m : Type → Type} [Monad m] [Machine m]

/-- Whether the environment asks for text without colors. -/
def colorless : m Bool := do
  return (← Machine.environment "NO_COLOR").isSome || (← Machine.environment "TERM") = some "dumb"

/-- The format for what is asked for. Without a request it is rich on a terminal that may show
colors, and else plain. -/
def resolveFormat (requested : Option DataFormat) (noColor : Bool) : m DataFormat := do
  match requested with
  | some format => return format
  | none =>
    let plain ← colorless
    let terminal ← Machine.isTerminal
    return if terminal && !(noColor || plain) then .rich else .plain

/-- The console for what is asked for. -/
def configure (requested : Option DataFormat) (noColor quiet verbose : Bool) : m Console := do
  return { format := ← resolveFormat requested noColor, quiet, verbose }

/-- Shows data as it is. -/
def data (_ : Console) (text : String) : m Unit :=
  Machine.print (dataText text)

/-- Shows a value. -/
def value (_ : Console) (v : Value) : m Unit :=
  Machine.print (valueText v)

/-- Shows a table. -/
def table (c : Console) (t : TextTable) : m Unit :=
  Machine.print (tableText c.format t)

/-- Tells that something is done. -/
def success (c : Console) (message : String) : m Unit := do
  unless c.quiet do
    Machine.report (message ++ "\n")

/-- Warns of something. -/
def warning (_ : Console) (message : String) : m Unit :=
  Machine.report ("Warning: " ++ message ++ "\n")

/-- Tells what went wrong. -/
def error (_ : Console) (message : String) : m Unit :=
  Machine.report ("Error: " ++ message ++ "\n")

/-- Tells what helps to find errors, if that is wanted. -/
def debug (c : Console) (message : String) : m Unit := do
  if c.verbose then
    Machine.report ("[debug] " ++ message ++ "\n")

/-- Logs what helps to find errors, if that is wanted. -/
def note (c : Console) (message : String) : m Unit := do
  if c.verbose then
    Machine.log message

end Console

end Routewright
