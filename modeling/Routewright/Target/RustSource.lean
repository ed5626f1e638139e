import Routewright.Code.Layout
import Routewright.Code.Tree
import Routewright.Text.Blank
import Routewright.Text.Case
import Routewright.Text.Quoted

/-!
# Rust source

The text of generated code as one Rust file: groups become public modules, records structs with an
`impl` block, text types tuple structs around `String`. A url is pushed into a string allocated
with its exact size in bytes. Reserved words get an underscore in front.
-/

namespace Routewright.Code.Rust

/-- The reserved words. -/
def reserved : List String :=
  ["as", "async", "await", "break", "const", "continue", "crate", "dyn", "else", "enum", "extern",
    "false", "fn", "for", "if", "impl", "in", "let", "loop", "match", "mod", "move", "mut", "pub",
    "ref", "return", "self", "Self", "static", "struct", "super", "trait", "true", "type", "unsafe",
    "use", "where", "while", "abstract", "become", "box", "do", "final", "macro", "override",
    "priv", "typeof", "unsized", "virtual", "yield", "try"]

/-- A name as an identifier. -/
def ident (name : String) : String :=
  escapeReserved reserved ("_" ++ ·) name

/-- One character of a string literal. -/
def literalChar (c : Char) : List Char :=
  if c = '"' || c = '\\' then ['\\', c]
  else if c = '\n' then ['\\', 'n']
  else if c = '\r' then ['\\', 'r']
  else if c = '\t' then ['\\', 't']
  else if c.toNat < 0x20 then '\\' :: 'u' :: '{' :: Text.hex 1 c.toNat ++ ['}']
  else [c]

/-- A text as a literal. -/
def stringLiteral (s : String) : String :=
  String.ofList ('"' :: s.toList.flatMap literalChar ++ ['"'])

/-- The comment lines of a documentation text. -/
def docLines (doc : String) : List String :=
  (Text.lines doc.toList).map fun l =>
    String.ofList (Text.trimEnd ("/// ".toList ++ l))

/-- A host type. -/
def host (type : HostType) : String :=
  match type.kind with
  | .bool => "bool"
  | .i64 => "i64"
  | .i32 => "i32"
  | .i16 => "i16"
  | .u8 => "u8"
  | .f32 => "f32"
  | .text => "String"
  | .bytes => "Vec<u8>"
  | .named => ident (type.name.getD "")

/-- A host type that is borrowed; scalars are copied. -/
def borrowedHost (type : HostType) : String :=
  match type.kind with
  | .text => "&str"
  | .bytes => "&[u8]"
  | .named => "&" ++ host type
  | _ => host type

/-- A type. -/
def typeRef : TypeRef → String
  | .host type borrowed => if borrowed then borrowedHost type else host type
  | .named name borrowed isOptional =>
    if isOptional then "Option<" ++ ident name ++ ">"
    else if borrowed then "&" ++ ident name
    else ident name
  | .enclosing => "Self"

/-- A literal value. -/
def literal : Literal → String
  | .text s => stringLiteral s
  | .int n => toString n
  | .absent => "None"

/-- A field of a record expression; a variable of the same name is not repeated. -/
def fieldValue (name value : String) : String :=
  if value = name then name ++ "," else name ++ ": " ++ value ++ ","

mutual

/-- An expression. -/
def expr : Expr → String
  | .literal value => literal value
  | .variable name => ident name
  | .receiver => "self"
  | .member value name => expr value ++ "." ++ ident name
  | .length (.literal (.text s)) => toString s.utf8ByteSize
  | .length value => expr value ++ ".len()"
  | .sum left right => expr left ++ " + " ++ expr right
  | .call function arguments => ident function ++ "(" ++ commas (exprs arguments) ++ ")"
  | .format template arguments =>
    "format!(" ++ stringLiteral template ++ ", " ++ commas (exprs arguments) ++ ")"
  | .convert typeName value => ident typeName ++ "::from(" ++ expr value ++ ")"
  | .construct type fields =>
    typeRef type ++ " \x7b\n" ++ Text.indent (Text.join "\n" (fieldExprs fields)) 1 ++ "\n\x7d"
  | .enumMember enumeration member =>
    ident enumeration ++ "::" ++ String.ofList (Text.capitalize member.toList)
  | .present value => "Some(" ++ expr value ++ ")"
  | .newBuffer capacity => "String::with_capacity(" ++ expr capacity ++ ")"
  | .finishBuffer buffer => expr buffer

/-- Each of some expressions. -/
def exprs : List Expr → List String
  | [] => []
  | e :: rest => expr e :: exprs rest

/-- Each of some fields. -/
def fieldExprs : List (String × Expr) → List String
  | [] => []
  | (name, e) :: rest => fieldValue (ident name) (expr e) :: fieldExprs rest

end

/-- A statement. -/
def stmt : Stmt → String
  | .bind name value isMutable =>
    "let " ++ (if isMutable then "mut " else "") ++ ident name ++ " = " ++ expr value ++ ";"
  | .push buffer value => ident buffer ++ ".push_str(" ++ expr value ++ ");"
  | .result value => expr value

/-- A parameter. -/
def param (p : Param) : String :=
  ident p.name ++ ": " ++ typeRef p.type

/-- A function. -/
def function (f : Function) : String :=
  let params := (if f.kind = .method then ["self"] else []) ++ f.params.map param
  Text.join "\n"
    (docLines f.doc
      ++ ["pub fn " ++ ident f.name ++ "(" ++ commas params ++ ") -> " ++ typeRef f.returns
          ++ " \x7b",
        Text.indent (Text.join "\n" (f.body.map stmt)) 1,
        "\x7d"])

/-- The attribute above every generated struct. -/
def derives : String := "#[derive(Debug, PartialEq, Clone)]"

/-- A record. -/
def record (r : Record) : String :=
  let name := ident r.name
  let fields := r.fields.map fun f =>
    Text.indentUnit ++ "pub " ++ ident f.name ++ ": " ++ typeRef f.type ++ ","
  let functions :=
    if r.functions.isEmpty then []
    else ["", "impl " ++ name ++ " \x7b\n"
      ++ Text.indent (Text.join "\n\n" (r.functions.map function)) 1 ++ "\n\x7d"]
  Text.join "\n"
    (docLines r.doc ++ derives :: ("pub struct " ++ name ++ " \x7b") :: fields
      ++ "\x7d" :: functions)

/-- How a value of a host type becomes a `String`. -/
def conversion (type : HostType) : String :=
  match type.kind with
  | .bytes => "String::from_utf8_lossy(&value).into_owned()"
  | .named => "value.0"
  | _ => "value.to_string()"

/-- The conversion of one host type into the type of a name. -/
def conversionText (name : String) (type : HostType) : String :=
  "\n\nimpl From<" ++ host type ++ "> for " ++ name ++ " \x7b\n    fn from(value: " ++ host type
    ++ ") -> " ++ name ++ " \x7b\n        " ++ name ++ "(" ++ conversion type
    ++ ")\n    \x7d\n\x7d"

/-- A text type that is made from strings and from values of some host types. -/
def textType (name doc : String) (hosts : List HostType) : String :=
  (if doc.isEmpty then "" else "/// " ++ doc ++ "\n")
    ++ derives ++ "\npub struct " ++ name ++ "(pub String);\n\nimpl From<String> for " ++ name
    ++ " \x7b\n    fn from(value: String) -> " ++ name ++ " \x7b\n        " ++ name
    ++ "(value)\n    \x7d\n\x7d\n\nimpl<'a> From<&'a str> for " ++ name
    ++ " \x7b\n    fn from(value: &'a str) -> " ++ name ++ " \x7b\n        " ++ name
    ++ "(value.to_owned())\n    \x7d\n\x7d"
    ++ String.join (hosts.map (conversionText name))
    ++ "\n\nimpl Deref for " ++ name
    ++ " \x7b\n    type Target = str;\n\n    fn deref(&self) -> &str \x7b\n"
    ++ "        &self.0\n    \x7d\n"
    ++ "\x7d\n\nimpl fmt::Display for " ++ name
    ++ " \x7b\n    fn fmt(&self, f: &mut fmt::Formatter) -> fmt::Result \x7b\n"
    ++ "        f.write_str(&self.0)\n    \x7d\n\x7d"

/-- A wrapper type; strings always convert, so a text host adds nothing. -/
def wrapper (w : Wrapper) : String :=
  textType (ident w.name) w.doc (w.hosts.filter fun h => h.kind ≠ .text)

/-- A text type for a declared name. -/
def namedText (t : NamedText) : String :=
  textType (ident t.name) t.doc []

/-- The declarations that every file holds. -/
def preludeText : String :=
  Text.join "\n"
    ["use std::collections::BTreeMap;",
      "use std::fmt;",
      "use std::ops::Deref;",
      "",
      "/// A fully assembled request url.",
      "#[derive(Debug, PartialEq, Clone)]",
      "pub struct Url(pub String);",
      "",
      "impl From<String> for Url \x7b",
      "    fn from(value: String) -> Url \x7b",
      "        Url(value)",
      "    \x7d",
      "\x7d",
      "",
      "impl<'a> From<&'a str> for Url \x7b",
      "    fn from(value: &'a str) -> Url \x7b",
      "        Url(value.to_owned())",
      "    \x7d",
      "\x7d",
      "",
      "impl Deref for Url \x7b",
      "    type Target = str;",
      "",
      "    fn deref(&self) -> &str \x7b",
      "        &self.0",
      "    \x7d",
      "\x7d",
      "",
      "impl fmt::Display for Url \x7b",
      "    fn fmt(&self, f: &mut fmt::Formatter) -> fmt::Result \x7b",
      "        f.write_str(&self.0)",
      "    \x7d",
      "\x7d",
      "",
      "/// A request payload.",
      "#[derive(Debug, PartialEq, Clone)]",
      "pub struct Body(pub Vec<u8>);",
      "",
      "impl From<Vec<u8>> for Body \x7b",
      "    fn from(value: Vec<u8>) -> Body \x7b",
      "        Body(value)",
      "    \x7d",
      "\x7d",
      "",
      "impl From<String> for Body \x7b",
      "    fn from(value: String) -> Body \x7b",
      "        Body(value.into_bytes())",
      "    \x7d",
      "\x7d",
      "",
      "impl<'a> From<&'a str> for Body \x7b",
      "    fn from(value: &'a str) -> Body \x7b",
      "        Body(value.as_bytes().to_vec())",
      "    \x7d",
      "\x7d",
      "",
      "impl Deref for Body \x7b",
      "    type Target = [u8];",
      "",
      "    fn deref(&self) -> &[u8] \x7b",
      "        &self.0",
      "    \x7d",
      "\x7d",
      "",
      "#[derive(Debug, PartialEq, Eq, Clone, Copy)]",
      "pub enum HttpMethod \x7b",
      "    Get,",
      "    Post,",
      "    Put,",
      "    Delete,",
      "    Head,",
      "\x7d",
      "",
      "/// A transport independent HTTP request.",
      "#[derive(Debug, PartialEq, Clone)]",
      "pub struct HttpRequest \x7b",
      "    pub method: HttpMethod,",
      "    pub url: Url,",
      "    pub body: Option<Body>,",
      "    pub headers: BTreeMap<String, String>,",
      "\x7d",
      "",
      "pub fn default_headers() -> BTreeMap<String, String> \x7b",
      "    let mut headers = BTreeMap::new();",
      "    headers.insert(String::from(\"Content-Type\"), String::from(\"application/json\"));",
      "    headers",
      "\x7d"]

/-- A declaration. -/
def item : Item → String
  | .function f => function f
  | .record r => record r
  | .wrapper w => wrapper w
  | .namedText t => namedText t
  | .prelude => preludeText

/-- The declarations of a group, each without line feeds at its ends. -/
def items (declarations : List Item) : List String :=
  declarations.map fun i => Text.trimNewlines (item i)

/-- A group of declarations. -/
def namespaceText (n : Namespace) : String :=
  let imports :=
    if n.uses.isEmpty then []
    else [Text.join "\n" (n.uses.map fun u => "use super::" ++ ident u ++ "::*;")]
  "pub mod " ++ ident n.name ++ " \x7b\n"
    ++ Text.indent (Text.join "\n\n" (imports ++ items n.items)) 1 ++ "\n\x7d"

/-- The opening comment of a file. -/
def banner (lines : List String) : String :=
  "/*\n" ++ Text.join "\n" lines ++ "\n*/"

/-- A source file, with its opening comment if `marked`. -/
def module (m : Module) (marked : Bool) : String :=
  file "\n\n"
    ((if marked && !m.banner.isEmpty then [banner m.banner] else [])
      ++ m.namespaces.map namespaceText)

end Routewright.Code.Rust
