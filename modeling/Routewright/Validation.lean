import Routewright.Text.Utf8
import Routewright.Value

/-!
# Validation of settings

Settings come as loaded values and are checked against the types they stand for. A check either
gives the typed result or every fault it found, in the order of fields, each with the path that
leads to it.
-/

namespace Routewright

/-- A step on the way to a part of a value. -/
inductive Step
  | field (name : String)
  | item (index : Nat)
  /-- A key that is no text. -/
  | key (value : Value)
  /-- The key itself rather than what it holds. -/
  | keyItself
  deriving Repr

/-- What is wrong with a part of a value. -/
inductive Mismatch
  | missing
  | choice
  | text
  /-- Bytes that are no text. -/
  | textBytes
  | truth
  | truthSpelling
  | list
  | mapping
  | model
  deriving DecidableEq, Repr

/-- The label of a mismatch. -/
def Mismatch.label : Mismatch → String
  | .missing => "missing"
  | .choice => "enum"
  | .text => "string_type"
  | .textBytes => "string_unicode"
  | .truth => "bool_type"
  | .truthSpelling => "bool_parsing"
  | .list => "list_type"
  | .mapping => "dict_type"
  | .model => "model_type"

/-- A mismatch and where it is. -/
structure Misfit where
  place : List Step
  mismatch : Mismatch
  deriving Repr

/-- Why a value is no instance of a named model: at least one misfit. -/
structure ValidationError where
  model : String
  misfits : List Misfit
  deriving Repr

/-- The summary of a validation. -/
def ValidationError.summary (e : ValidationError) : String :=
  let n := e.misfits.length
  toString n ++ (if n = 1 then " validation error for " else " validation errors for ") ++ e.model

/-- The result of a check: a typed value, or all misfits. -/
inductive Checked (α : Type)
  | valid (value : α)
  | invalid (misfits : List Misfit)
  deriving Repr

namespace Checked

/-- A check that fails at the value itself. -/
def fail {α : Type} (mismatch : Mismatch) : Checked α :=
  .invalid [{ place := [], mismatch }]

/-- A check of a part, reached by a step. -/
def under {α : Type} (step : Step) : Checked α → Checked α
  | .valid x => .valid x
  | .invalid misfits => .invalid (misfits.map fun m => { m with place := step :: m.place })

/-- A function of a checked value. -/
def map {α β : Type} (f : α → β) : Checked α → Checked β
  | .valid x => .valid (f x)
  | .invalid misfits => .invalid misfits

/-- Applies a checked function to a checked value and keeps the misfits of both. -/
def ap {α β : Type} : Checked (α → β) → Checked α → Checked β
  | .valid f, .valid x => .valid (f x)
  | .valid _, .invalid ms => .invalid ms
  | .invalid ms, .valid _ => .invalid ms
  | .invalid ms, .invalid ns => .invalid (ms ++ ns)

/-- Checks each item of a list, the first at a position. -/
def itemsFrom {α : Type} (check : Value → Checked α) (i : Nat) : List Value → Checked (List α)
  | [] => .valid []
  | v :: rest =>
    (((check v).under (.item i)).map List.cons).ap (itemsFrom check (i + 1) rest)

/-- A text, or the bytes of one. -/
def text : Value → Checked String
  | .text s => .valid s
  | .bytes bs =>
    match Text.decodeUtf8 bs with
    | .ok cs => .valid (String.ofList cs)
    | .error _ => fail .textBytes
  | _ => fail .text

/-- One of the choices that have labels. -/
def choice {α : Type} (ofLabel? : String → Option α) : Value → Checked α
  | .text s =>
    match ofLabel? s with
    | some x => .valid x
    | none => fail .choice
  | _ => fail .choice

/-- The truth that a spelling in lower case stands for. -/
def truthOfSpelling? (s : String) : Option Bool :=
  if s ∈ ["0", "off", "f", "false", "n", "no"] then some false
  else if s ∈ ["1", "on", "t", "true", "y", "yes"] then some true
  else none

/-- The number after the greatest of a machine word. -/
def wordEnd : Int := 9223372036854775808

/-- The truth that a number stands for. Only numbers of a machine word are looked at. -/
def truthOfNumber (n : Int) : Checked Bool :=
  if n = 0 then .valid false
  else if n = 1 then .valid true
  else if -wordEnd ≤ n && n < wordEnd then fail .truthSpelling
  else fail .truth

/-- The truth that a spelling stands for, in any case. -/
def truthOfText (s : String) : Checked Bool :=
  match truthOfSpelling? (String.ofList (s.toList.map Char.toLower)) with
  | some b => .valid b
  | none => fail .truthSpelling

/-- A truth value, or a number or spelling that stands for one. A float counts as the integer it
equals, within one less than the range of a machine word. -/
def truth : Value → Checked Bool
  | .bool b => .valid b
  | .int n => truthOfNumber n
  | .float x =>
    match x.toInt? with
    | some n => if n = -wordEnd then fail .truth else truthOfNumber n
    | none => fail .truth
  | .text s => truthOfText s
  | .bytes bs =>
    match Text.decodeUtf8 bs with
    | .ok cs => truthOfText (String.ofList cs)
    | .error _ => fail .truth
  | _ => fail .truth

/-- A list of checked items. -/
def list {α : Type} (check : Value → Checked α) : Value → Checked (List α)
  | .list items => itemsFrom check 0 items
  | _ => fail .list

/-- The step to what a key holds. -/
def stepOf : Value → Step
  | .text s => .field s
  | k => .key k

/-- A key that must be a text. -/
def textKey (key : Value) : Checked String :=
  ((text key).under .keyItself).under (stepOf key)

/-- Checks each entry of a mapping. -/
def entriesFrom {α : Type} (check : Value → Checked α) :
    List (Value × Value) → Checked (List (String × α))
  | [] => .valid []
  | (k, v) :: rest =>
    let entry := ((textKey k).map Prod.mk).ap ((check v).under (stepOf k))
    (entry.map List.cons).ap (entriesFrom check rest)

/-- A mapping from texts to checked values. -/
def mapping {α : Type} (check : Value → Checked α) : Value → Checked (List (String × α))
  | .map entries => entriesFrom check entries
  | _ => fail .mapping

/-- A field that must be there. -/
def required {α : Type} (entries : List (Value × Value)) (name : String)
    (check : Value → Checked α) : Checked α :=
  (match Value.find? name entries with
    | none => fail .missing
    | some v => check v).under (.field name)

/-- A field that may be left out. -/
def optional {α : Type} (entries : List (Value × Value)) (name : String)
    (check : Value → Checked α) (default : α) : Checked α :=
  match Value.find? name entries with
  | none => .valid default
  | some v => (check v).under (.field name)

/-- The fields of a model. -/
def model {α : Type} (check : List (Value × Value) → Checked α) : Value → Checked α
  | .map entries => check entries
  | _ => fail .model

/-- A check as the validation of a named model. -/
def validate {α : Type} (name : String) : Checked α → Except ValidationError α
  | .valid x => .ok x
  | .invalid misfits => .error { model := name, misfits }

end Checked

end Routewright
