import Routewright.Console

/-!
# Sheets

A table whose headers and rows are any values. What is in a row one after the other follows from the
kind of the value: a text has its characters, a mapping its keys. As records, cells may be anything;
as lines, they must be texts. Lines that come before one that cannot be shown are shown.
-/

namespace Routewright

/-- Why a sheet cannot be shown. -/
inductive SheetFault
  /-- There is nothing in a row for a value that has no parts. -/
  | noParts
  /-- A header is no key of a record. -/
  | noKey
  /-- A cell is no text. -/
  | noText
  deriving DecidableEq, Repr

/-- The wording of a fault. -/
def SheetFault.message : SheetFault → String
  | .noParts => "a row has no cells"
  | .noKey => "a header cannot be a key"
  | .noText => "a cell is no text"

/-- A table of values. -/
structure Sheet where
  headers : Value
  rows : Value
  deriving Repr

namespace Sheet

/-- The parts of a value, or the fault that it has none. -/
def parts (v : Value) : Except SheetFault (List Value) :=
  match v.parts? with
  | some vs => .ok vs
  | none => .error .noParts

/-- A row as a record, with the headers as keys. Cells without a header are left out, as are headers
without a cell. -/
def record (headers row : Value) : Except SheetFault Value := do
  let cells := (← parts headers).zip (← parts row)
  if cells.any fun cell => !cell.1.isKey then throw .noKey
  return .map (Value.ofEntries cells)

/-- A sheet as a list of records. -/
def records (s : Sheet) : Except SheetFault Value := do
  return .list (← (← parts s.rows).mapM (record s.headers))

/-- A row as a line of texts. -/
def line (row : Value) : Except SheetFault String := do
  let cells ← (← parts row).mapM fun v =>
    match v with
    | .text s => .ok s
    | _ => .error .noText
  return Console.rowText cells

/-- The lines of rows, up to the first that is none. -/
def lines : List Value → String × Except SheetFault Unit
  | [] => ("", .ok ())
  | row :: rest =>
    match line row with
    | .error fault => ("", .error fault)
    | .ok text => ((text ++ (lines rest).1), (lines rest).2)

/-- What a sheet shows in a format, and what stops it. -/
def shown (format : DataFormat) (s : Sheet) : String × Except SheetFault Unit :=
  match format with
  | .json =>
    match s.records with
    | .ok v => (Console.valueText v, .ok ())
    | .error fault => ("", .error fault)
  | .plain | .rich =>
    match line s.headers, parts s.rows with
    | .error fault, _ => ("", .error fault)
    | .ok text, .error fault => (text, .error fault)
    | .ok text, .ok rows => ((text ++ (lines rows).1), (lines rows).2)

end Sheet

namespace Console

variable {m : Type → Type} [Monad m] [Machine m]

/-- Shows a sheet. -/
def sheet (c : Console) (s : Sheet) : m (Except SheetFault Unit) := do
  let (text, outcome) := s.shown c.format
  Machine.print text
  return outcome

end Console

end Routewright
