import Routewright.Description.Fault

/-!
# Description documents

A document is a JSON or YAML text that holds an object. Without a hint JSON is tried first, and YAML
only for what is no JSON. How deeply a document may be nested depends on the room that is left when
it is read, counted in levels of calls: a level of JSON takes one of them, one of YAML two, and
reading takes one before it starts.
-/

namespace Routewright

/-- What is known beforehand about the notation of a document. -/
inductive Notation
  | json
  | yaml
  | unknown
  deriving DecidableEq, Repr

/-- The entries of a document in order. -/
abbrev Document := List (Value × Value)

namespace Document

/-- The entries of a value that must be an object; `nothing` is what a missing one is called. -/
def ofValue (origin nothing : String) (v : Value) : Except DescriptionFailure Document :=
  match v.opened with
  | .map entries => .ok entries
  | .null => .error (.fault (.document origin (.notObject nothing)))
  | v => .error (.fault (.document origin (.notObject v.typeName)))

/-- The room where nothing but a document is read. -/
def usualRoom : Nat := 991

/-- How many levels of YAML are read in some room. -/
def yamlLevels (room : Nat) : Nat := (room - 8) / 2

/-- The document of a YAML text, after `json` is known to be wrong with it as JSON if that was
tried. -/
def ofYaml (room : Nat) (origin text : String) (json : Option Json.Fault) :
    Except DescriptionFailure Document :=
  match Yaml.load (yamlLevels room) text.toList with
  | .ok v => ofValue origin "empty document" v
  | .error fault =>
    if fault.isSyntactic then
      .error (.fault (.document origin (.neither (json.map fun f => (text, f)))))
    else .error (.irregular (if fault = .lexing .tooDeep then .tooDeep else .scalar fault))

/-- The document of a text. -/
def parse (room : Nat) (origin text : String) (hint : Notation) :
    Except DescriptionFailure Document :=
  if hint = .yaml then ofYaml room origin text none
  else match Json.parse (room - 1) text with
    | .ok v => ofValue origin "NoneType" v
    | .error fault =>
      match fault.kind with
      | .longInteger _ => .error (.irregular .longInteger)
      | .tooDeep => .error (.irregular .tooDeep)
      | _ =>
        if hint = .json then .error (.fault (.document origin (.json text fault)))
        else ofYaml room origin text (some fault)

end Document

end Routewright
