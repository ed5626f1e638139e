import Routewright.Address
import Routewright.Description.ContentType
import Routewright.Json.Reader
import Routewright.Normalization
import Routewright.Template
import Routewright.Text.Utf8
import Routewright.Validation
import Routewright.Yaml.Construction

/-!
# Faults of descriptions

What can be wrong with the documents that describe endpoints, from where they are loaded to what
they say. Every fault names the document, or the place it was looked for.
-/

namespace Routewright

/-- What is wrong with a document as a whole. -/
inductive DocumentFault
  /-- It holds a value of this type and not an object. -/
  | notObject (found : String)
  | json (text : String) (fault : Json.Fault)
  /-- It is no YAML, and no JSON either if that was tried. -/
  | neither (asJson : Option (String × Json.Fault))
  deriving DecidableEq, Repr

/-- What is wrong with the paths of an endpoint. -/
inductive PathsFault
  | notList
  | none
  | notText (found : Value)
  | template (text : String) (fault : TemplateFault)
  deriving Repr

/-- What is wrong with what is declared under a name. -/
inductive EndpointFault
  | notObject
  | noUrl
  | paths (fault : PathsFault)
  | methodsNotList
  | unsupportedMethod (found : Value)
  | partsNotObject
  | bodyNotObject
  deriving Repr

/-- What is wrong with a description. -/
inductive DescriptionFault
  | noDocuments (directory : String)
  | notFound (path : String)
  | unreadable (path reason : String)
  | empty (path : String)
  | noInput
  | status (code : Nat) (url : String)
  | unreachable (url reason : String)
  | document (origin : String) (fault : DocumentFault)
  | endpoint (name origin : String) (fault : EndpointFault)
  /-- A name is declared in a document although an earlier one declares it. -/
  | duplicate (name origin first : String)
  deriving Repr

/-- The wording of a fault in paths. -/
def PathsFault.message : PathsFault → String
  | .notList => "'url.paths' must be a list"
  | .none => "no url paths declared"
  | .notText found => "path template must be a string (got " ++ found.shown ++ ")"
  | .template text fault => fault.message text

/-- The wording of a fault in an endpoint. -/
def EndpointFault.message : EndpointFault → String
  | .notObject => "descriptor must be an object"
  | .noUrl => "missing 'url' object"
  | .paths fault => fault.message
  | .methodsNotList => "'methods' must be a list"
  | .unsupportedMethod found => "unsupported HTTP method " ++ found.shown
  | .partsNotObject => "'url.parts' must be an object"
  | .bodyNotObject => "'body' must be an object or null"

/-- The wording of a fault in a document. -/
def DocumentFault.message (origin : String) : DocumentFault → String
  | .notObject found =>
    "Failed to parse " ++ origin ++ ": document must be an object (got " ++ found ++ ")"
  | .json text fault => "Failed to parse " ++ origin ++ ": invalid JSON: " ++ fault.message text
  | .neither asJson =>
    let jsonLine := match asJson with
      | some (text, fault) => "\n  JSON error: " ++ fault.message text
      | _ => ""
    "Failed to parse " ++ origin ++ " as JSON or YAML" ++ jsonLine
      ++ "\n  YAML error: the text is no YAML document"

/-- The wording of a fault. -/
def DescriptionFault.message : DescriptionFault → String
  | .noDocuments directory => "No descriptor files found in " ++ directory
  | .notFound path => "Spec file not found: " ++ path
  | .unreadable path reason => "Failed to read spec file " ++ path ++ ": " ++ reason
  | .empty path => "Spec file is empty: " ++ path
  | .noInput => "No input received from stdin"
  | .status code url => "HTTP " ++ toString code ++ " fetching spec from " ++ url
  | .unreachable url reason => "Failed to fetch spec from " ++ url ++ ": " ++ reason
  | .document origin fault => fault.message origin
  | .endpoint name origin fault =>
    "Failed to parse endpoint '" ++ name ++ "' in " ++ origin ++ ": " ++ fault.message
  | .duplicate name origin first =>
    "Endpoint '" ++ name ++ "' in " ++ origin ++ " is already declared in " ++ first

/-- What stops a description without being told as a fault of it. -/
inductive Irregularity
  /-- An integer has more digits than are read or written. -/
  | longInteger
  /-- Values are inside each other down to more levels than are read. -/
  | tooDeep
  /-- A scalar has the form of a number, a truth value, a date or a character and is none. -/
  | scalar (fault : Yaml.Fault)
  /-- A name or the name of a part is no text. -/
  | names (error : ValidationError)
  /-- A file is not written in UTF-8. -/
  | notUtf8 (fault : Text.Utf8Fault)
  /-- What is said about a document does not lead to its text. -/
  | contentType (fault : ContentTypeFault)
  /-- There is no document at an address. -/
  | address (fault : AddressFault)
  deriving Repr

/-- Why a description gives no endpoints. -/
inductive DescriptionFailure
  | fault (fault : DescriptionFault)
  | irregular (irregularity : Irregularity)
  deriving Repr

end Routewright
