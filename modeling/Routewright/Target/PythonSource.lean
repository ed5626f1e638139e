import Routewright.Code.Layout
import Routewright.Code.Tree
import Routewright.Text.Blank
import Routewright.Text.Quoted

/-!
# Python source

The text of generated code as one Python module: groups become sections under a comment, records
frozen data classes with class methods, text types subclasses of `str`. A url is pushed into a
buffer class of the prelude that refuses to pass its capacity or to finish before it is full.
Reserved words get an underscore at their end.
-/

namespace Routewright.Code.Python

/-- The reserved words, and `len`, which url functions call. -/
def reserved : List String :=
  ["False", "None", "True", "and", "as", "assert", "async", "await", "break", "class", "continue",
    "def", "del", "elif", "else", "except", "finally", "for", "from", "global", "if", "import",
    "in", "is", "lambda", "nonlocal", "not", "or", "pass", "raise", "return", "try", "while",
    "with", "yield", "len"]

/-- A name as an identifier. -/
def ident (name : String) : String :=
  escapeReserved reserved (· ++ "_") name

/-- A text as a literal. -/
def stringLiteral (s : String) : String :=
  Text.jsonString .ascii s

/-- A documentation text on one line between triple quotes. -/
def docstring (doc : String) : String :=
  let escaped := (Text.join " " ((Text.words doc.toList).map String.ofList)).toList.flatMap fun c =>
    if c = '\\' then ['\\', '\\'] else if c = '"' then ['\\', '"'] else [c]
  "\"\"\"" ++ String.ofList escaped ++ "\"\"\""

/-- A host type. -/
def host (type : HostType) : String :=
  match type.kind with
  | .bool => "bool"
  | .i64 | .i32 | .i16 | .u8 => "int"
  | .f32 => "float"
  | .text => "str"
  | .bytes => "bytes"
  | .named => ident (type.name.getD "")

/-- A type inside the record of a name. -/
def typeRef (record : String) : TypeRef → String
  | .host type _ => host type
  | .named name _ isOptional =>
    if isOptional then "Optional[" ++ ident name ++ "]" else ident name
  | .enclosing => record

/-- A literal value. -/
def literal : Literal → String
  | .text s => stringLiteral s
  | .int n => toString n
  | .absent => "None"

/-- What is called to make a record of a type. -/
def constructed : TypeRef → String
  | .enclosing => "cls"
  | type => typeRef "" type

mutual

/-- An expression. -/
def expr : Expr → String
  | .literal value => literal value
  | .variable name => ident name
  | .receiver => "self"
  | .member value name => expr value ++ "." ++ ident name
  | .length (.literal (.text s)) => toString s.length
  | .length value => "len(" ++ expr value ++ ")"
  | .sum left right => expr left ++ " + " ++ expr right
  | .call function arguments => ident function ++ "(" ++ commas (exprs arguments) ++ ")"
  | .format template arguments =>
    stringLiteral template ++ ".format(" ++ commas (exprs arguments) ++ ")"
  | .convert typeName value => ident typeName ++ "(" ++ expr value ++ ")"
  | .construct type fields => constructed type ++ "(" ++ commas (namedExprs fields) ++ ")"
  | .enumMember enumeration member => ident enumeration ++ "." ++ member
  | .present value => expr value
  | .newBuffer capacity => "UrlBuffer(" ++ expr capacity ++ ")"
  | .finishBuffer buffer => expr buffer ++ ".finish()"

/-- Each of some expressions. -/
def exprs : List Expr → List String
  | [] => []
  | e :: rest => expr e :: exprs rest

/-- Each of some named arguments. -/
def namedExprs : List (String × Expr) → List String
  | [] => []
  | (name, e) :: rest => (ident name ++ "=" ++ expr e) :: namedExprs rest

end

/-- A statement. -/
def stmt : Stmt → String
  | .bind name value _ => ident name ++ " = " ++ expr value
  | .push buffer value => ident buffer ++ ".push(" ++ expr value ++ ")"
  | .result value => "return " ++ expr value

/-- A parameter. -/
def param (record : String) (p : Param) : String :=
  ident p.name ++ ": " ++ typeRef record p.type ++ if p.defaultsToAbsent then " = None" else ""

/-- What stands before the parameters of a function, and the lines above it. -/
def receiverParams : FunctionKind → List String
  | .free => []
  | .maker => ["cls"]
  | .method => ["self"]

/-- A function of the record of a name. -/
def function (record : String) (f : Function) : String :=
  let params := receiverParams f.kind ++ f.params.map (param record)
  let body := (if f.doc.isEmpty then [] else [docstring f.doc]) ++ f.body.map stmt
  Text.join "\n"
    ((if f.kind = .maker then ["@classmethod"] else [])
      ++ ["def " ++ ident f.name ++ "(" ++ commas params ++ ") -> " ++ typeRef record f.returns
          ++ ":",
        Text.indent (Text.join "\n" body) 1])

/-- A field of the record of a name. -/
def field (record : String) (f : Field) : String :=
  let default := match f.type with
    | .named _ _ true => " = None"
    | _ => ""
  ident f.name ++ ": " ++ typeRef record f.type ++ default

/-- A record. -/
def record (r : Record) : String :=
  let name := ident r.name
  let body := (if r.doc.isEmpty then [] else [docstring r.doc ++ "\n"])
    ++ r.fields.map (field name)
    ++ r.functions.map fun f => "\n" ++ function name f
  "@dataclass(frozen=True)\nclass " ++ name ++ ":\n" ++ Text.indent (Text.join "\n" body) 1

/-- A text type that is made from any of some types. -/
def textType (name doc : String) (accepted : List String) : String :=
  let value := match accepted with
    | [one] => one
    | several => "Union[" ++ commas several ++ "]"
  "class " ++ name ++ "(str):\n    \"\"\"" ++ doc ++ "\"\"\"\n\n    def __new__(cls, value: "
    ++ value ++ ") -> " ++ name
    ++ ":\n        return super().__new__(cls, _url_text(value))"

/-- The types a wrapper is made from: text, and its hosts. -/
def accepted (hosts : List HostType) : List String :=
  hosts.foldl (fun seen h => if host h ∈ seen then seen else seen ++ [host h]) ["str"]

/-- A wrapper type. -/
def wrapper (w : Wrapper) : String :=
  let types := accepted w.hosts
  let doc := if w.doc.isEmpty then "Url part value, built from " ++ commas types ++ "." else w.doc
  textType (ident w.name) doc types

/-- A text type for a declared name. -/
def namedText (t : NamedText) : String :=
  let doc := if t.doc.isEmpty then "Text form of a ``" ++ t.name ++ "`` value." else t.doc
  textType (ident t.name) doc ["str"]

/-- The imports of a file. -/
def header : String :=
  Text.join "\n"
    ["from __future__ import annotations",
      "",
      "import enum",
      "from dataclasses import dataclass, field",
      "from typing import Optional, Union"]

/-- The declarations that every file holds. -/
def preludeText : String :=
  Text.join "\n"
    ["class Url(str):",
      "    \"\"\"A fully assembled request url.\"\"\"",
      "",
      "",
      "class Body(bytes):",
      "    \"\"\"A request payload; text is encoded as UTF-8.\"\"\"",
      "",
      "    def __new__(cls, value: Union[bytes, str] = b\"\") -> Body:",
      "        if isinstance(value, str):",
      "            value = value.encode(\"utf-8\")",
      "        return super().__new__(cls, value)",
      "",
      "",
      "class HttpMethod(str, enum.Enum):",
      "    GET = \"GET\"",
      "    POST = \"POST\"",
      "    PUT = \"PUT\"",
      "    DELETE = \"DELETE\"",
      "    HEAD = \"HEAD\"",
      "",
      "",
      "@dataclass(frozen=True)",
      "class HttpRequest:",
      "    \"\"\"A transport independent HTTP request.\"\"\"",
      "",
      "    method: HttpMethod",
      "    url: Url",
      "    body: Optional[Body] = None",
      "    headers: dict[str, str] = field(default_factory=dict)",
      "",
      "",
      "def default_headers() -> dict[str, str]:",
      "    return \x7b\"Content-Type\": \"application/json\"\x7d",
      "",
      "",
      "class UrlBuffer:",
      "    \"\"\"Text buffer filled up to an exact, precomputed capacity.",
      "",
      "    Pushing past the capacity or finishing before the buffer is full raises",
      "    :class:`ValueError`.",
      "    \"\"\"",
      "",
      "    __slots__ = (\"capacity\", \"_parts\", \"_size\")",
      "",
      "    def __init__(self, capacity: int) -> None:",
      "        self.capacity = capacity",
      "        self._parts: list[str] = []",
      "        self._size = 0",
      "",
      "    def push(self, text: str) -> None:",
      "        size = self._size + len(text)",
      "        if size > self.capacity:",
      "            raise ValueError(f\"url buffer overflow: "
        ++ "\x7bsize\x7d > \x7bself.capacity\x7d\")",
      "        self._parts.append(text)",
      "        self._size = size",
      "",
      "    def finish(self) -> str:",
      "        if self._size != self.capacity:",
      "            raise ValueError(f\"url buffer holds "
        ++ "\x7bself._size\x7d of \x7bself.capacity\x7d characters\")",
      "        return \"\".join(self._parts)",
      "",
      "",
      "def _url_text(value: Union[str, bytes, bool, int, float]) -> str:",
      "    if isinstance(value, bool):",
      "        return \"true\" if value else \"false\"",
      "    if isinstance(value, bytes):",
      "        return value.decode(\"utf-8\")",
      "    return str(value)"]

/-- A declaration. -/
def item : Item → String
  | .function f => function "" f
  | .record r => record r
  | .wrapper w => wrapper w
  | .namedText t => namedText t
  | .prelude => preludeText

/-- The declarations of a group, each without line feeds at its ends. -/
def items (declarations : List Item) : List String :=
  declarations.map fun i => Text.trimNewlines (item i)

/-- What separates the sections of a file. -/
def separator : String := "\n\n\n"

/-- A group of declarations. -/
def namespaceText (n : Namespace) : String :=
  Text.join separator (("# --- " ++ n.name ++ " ---") :: items n.items)

/-- The opening comment of a file. -/
def banner (lines : List String) : String :=
  Text.join "\n" (lines.map fun l => if l.isEmpty then "#" else "# " ++ l)

/-- A source file, with its opening comment if `marked`. -/
def module (m : Module) (marked : Bool) : String :=
  file separator
    ((if marked && !m.banner.isEmpty then [banner m.banner] else [])
      ++ header :: m.namespaces.map namespaceText)

end Routewright.Code.Python
