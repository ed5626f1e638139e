import Routewright.Compilation

/-!
# Inspecting endpoints

What the generation sees: a table of the normalized endpoints, and one of them with its requests as
an object.
-/

namespace Routewright

namespace Endpoint

/-- How a table refers to the body of an endpoint. -/
def bodyLabel (e : Endpoint) : String :=
  match e.body with
  | none => "-"
  | some body => if body.required then "required" else "optional"

/-- The template of a path as a table shows it; an empty one is a slash. -/
def shownTemplate (path : UrlPath) : String :=
  if path.template.isEmpty then "/" else path.template

/-- The cells of an endpoint in a table. -/
def cells (e : Endpoint) : List String :=
  [e.name, (e.method?.map HttpMethod.name).getD "", Text.join ", " (e.paths.map shownTemplate),
    e.bodyLabel]

/-- A table of endpoints. -/
def table (endpoints : List Endpoint) : TextTable where
  title := "Endpoints (" ++ toString endpoints.length ++ ")"
  headers := ["Name", "Method", "Paths", "Body"]
  rows := endpoints.map cells

end Endpoint

/-- Texts as a list. -/
def Value.texts (items : List String) : Value :=
  .list (items.map Value.text)

/-- A text, or null for none. -/
def Value.optionalText (s : Option String) : Value :=
  (s.map Value.text).getD .null

/-- A segment as an object. -/
def Segment.toValue : Segment → Value
  | .literal s => Value.object [("kind", .text "literal"), ("text", .text s)]
  | .param name => Value.object [("kind", .text "param"), ("name", .text name)]

/-- A path as an object. -/
def UrlPath.toValue (path : UrlPath) : Value :=
  Value.object
    [("template", .text path.template), ("segments", .list (path.segments.map Segment.toValue))]

/-- A declared type as an object. -/
def SpecType.toValue (type : SpecType) : Value :=
  Value.object [("kind", .text type.kind.label), ("name", Value.optionalText type.name)]

/-- What is said about a body as an object. -/
def BodySpec.toValue (body : BodySpec) : Value :=
  Value.object [("required", .bool body.required), ("description", .text body.description)]

/-- An endpoint as an object. -/
def Endpoint.toValue (e : Endpoint) : Value :=
  Value.object
    [("name", .text e.name),
      ("documentation", .text e.documentation),
      ("methods", Value.texts (e.methods.map HttpMethod.name)),
      ("paths", .list (e.paths.map UrlPath.toValue)),
      ("parts", Value.object (e.parts.map fun p => (p.1, p.2.toValue))),
      ("body", (e.body.map BodySpec.toValue).getD .null),
      ("origin", Value.optionalText e.origin)]

/-- A summand of a capacity: the name of a value or the length of a literal. -/
def CapacityTerm.toValue : CapacityTerm → Value
  | .value name => .text name
  | .literal length => .int length

/-- How a url is built, as the last fields of a request. -/
def UrlBuilder.summary : UrlBuilder → List (String × Value)
  | .push segments _ =>
    [("strategy", .text Strategy.push.label),
      ("capacity", .list ((UrlBuilder.capacityTerms segments).map CapacityTerm.toValue))]
  | .format template _ =>
    [("strategy", .text Strategy.format.label), ("template", .text template)]

/-- A request as an object. -/
def Request.toValue (r : Request) : Value :=
  Value.object
    ([("type", .text r.typeName),
      ("constructor", .text r.shapeName),
      ("url_function", .text r.urlFunction),
      ("path", .text r.path),
      ("params", Value.texts (r.params.map (·.name)))] ++ r.urlBuilder.summary)

/-- The first normalized endpoint of a name with its requests, as an object. -/
def Generated.describe? (g : Generated) (name : String) : Option Value :=
  (g.endpoints.find? fun e => e.name = name).map fun e =>
    Value.object
      [("endpoint", e.toValue),
        ("requests", .list (((Table.find? name g.requests).getD []).map Request.toValue))]

variable {m : Type → Type} [Monad m] [Machine m]

/-- What the descriptions of a call give. -/
def inspected (console : Console) (config spec : Option String) : Task m Generated := do
  let room := commandRoom - 2
  (← Settings.resolve console room config { spec }).compile console room

/-- Shows a table of all endpoints. -/
def inspectEndpoints (console : Console) (config spec : Option String) : Task m Unit := do
  let g ← inspected console config spec
  console.table (m := m) (Endpoint.table g.endpoints)

/-- Shows one endpoint. -/
def inspectEndpoint (console : Console) (config : Option String) (name : String)
    (spec : Option String) : Task m Unit := do
  let g ← inspected console config spec
  match g.describe? name with
  | some v => console.value (m := m) v
  | none => Task.fail (.usage ("Unknown endpoint '" ++ name ++ "'"))

end Routewright
