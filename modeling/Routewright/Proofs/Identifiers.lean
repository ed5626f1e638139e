import Routewright.Proofs.Parameters
import Routewright.Proofs.Wrappers

/-!
# Identifiers that are written

What a declaration is called is written behind a word of the target, and ends where the name ends
(`Target.function_heading`, `Target.item_heading`). Escaping takes care of reserved words and of
nothing else, so a name is written as a legal identifier just when it is a word
(`Target.isLegal_ident_iff`).

Names of text types are words. Names of url functions, constructors, records and parameters are made
from what an endpoint and its paths are called, and `Endpoint.SpellsWords` is what it takes for them
to be words as well : it is not checked, and `generate_idents_legal_iff` shows that nothing less
will do.
-/

namespace Routewright

open Code Outcome

variable {policy : Policy}

/-! ## Legal identifiers -/

namespace Target

variable (target : Target)

/-- A text that a target takes for an identifier : a word that is not reserved. -/
def IsLegal (s : String) : Prop :=
  isWord s.toList = true ∧ s ∉ target.reserved

instance (s : String) : Decidable (target.IsLegal s) :=
  inferInstanceAs (Decidable (_ ∧ _))

/-- A name is written as a legal identifier just when it is a word. -/
theorem isLegal_ident_iff {name : String} :
    target.IsLegal (target.ident name) ↔ isWord name.toList = true := by
  have hwords : ∀ w ∈ target.reserved,
      isWord w.toList = true ∧ isWord (target.escape w).toList = true := by
    cases target <;> decide
  rw [IsLegal, ident_eq]
  by_cases hname : name ∈ target.reserved
  · rw [escapeReserved_of_mem hname]
    exact iff_of_true ⟨(hwords name hname).2, target.escape_not_mem_reserved name hname⟩
      (hwords name hname).1
  · rw [escapeReserved_of_not_mem hname]
    exact and_iff_left hname

end Target

/-! ## Names as they are written -/

/-- A text that ends a name in front of it. -/
def Stops (s : String) : Prop :=
  ∃ c ∈ s.toList.head?, isNameChar c = false

/-- A name between two texts stands behind the end of the first and in front of the start of the
second. -/
theorem Text.occurs_name {word name stop start rest : String}
    (hstart : ∃ before, start = before ++ word) (hrest : ∃ after, rest = stop ++ after) :
    Text.Occurs (word ++ name ++ stop) (start ++ name ++ rest) := by
  obtain ⟨before, rfl⟩ := hstart
  obtain ⟨after, rfl⟩ := hrest
  exact ⟨before, after, by simp only [String.append_assoc]⟩

namespace Code

theorem Python.occurs_textType (name doc : String) (accepted : List String) :
    Text.Occurs ("class " ++ name ++ "(str):") (Python.textType name doc accepted) := by
  unfold Python.textType
  iterate 6 refine Text.Occurs.append ?_ _
  exact Text.occurs_name ⟨"", by decide⟩ ⟨"\n    \"\"\"", by decide⟩

theorem Python.occurs_wrapper (w : Wrapper) :
    Text.Occurs ("class " ++ Python.ident w.name ++ "(str):") (Python.wrapper w) := by
  rw [Python.wrapper]
  exact Python.occurs_textType _ _ _

theorem Python.occurs_namedText (t : NamedText) :
    Text.Occurs ("class " ++ Python.ident t.name ++ "(str):") (Python.namedText t) := by
  rw [Python.namedText]
  exact Python.occurs_textType _ _ _

theorem Python.occurs_record (r : Record) :
    Text.Occurs ("class " ++ Python.ident r.name ++ ":") (Python.record r) :=
  (Text.occurs_name ⟨"@dataclass(frozen=True)\n", by decide⟩ ⟨"\n", by decide⟩).append _

theorem Rust.occurs_textType (name doc : String) (hosts : List HostType) :
    Text.Occurs ("pub struct " ++ name ++ "(pub String);") (Rust.textType name doc hosts) := by
  have hopen : "\npub struct " = "\n" ++ "pub struct " := by decide
  unfold Rust.textType
  iterate 21 refine Text.Occurs.append ?_ _
  refine Text.occurs_name
    ⟨(if doc.isEmpty then "" else "/// " ++ doc ++ "\n") ++ Rust.derives ++ "\n", ?_⟩
    ⟨"\n\nimpl From<String> for ", by decide⟩
  rw [hopen, ← String.append_assoc]

theorem Rust.occurs_wrapper (w : Wrapper) :
    Text.Occurs ("pub struct " ++ Rust.ident w.name ++ "(pub String);") (Rust.wrapper w) := by
  rw [Rust.wrapper]
  exact Rust.occurs_textType _ _ _

theorem Rust.occurs_namedText (t : NamedText) :
    Text.Occurs ("pub struct " ++ Rust.ident t.name ++ "(pub String);") (Rust.namedText t) := by
  rw [Rust.namedText]
  exact Rust.occurs_textType _ _ _

theorem Rust.occurs_record (r : Record) :
    Text.Occurs ("pub struct " ++ Rust.ident r.name ++ " \x7b") (Rust.record r) := by
  have hline : Text.Occurs ("pub struct " ++ Rust.ident r.name ++ " \x7b")
      ("pub struct " ++ Rust.ident r.name ++ " \x7b") := ⟨"", "", by simp⟩
  unfold Rust.record
  exact hline.join (by simp)

end Code

namespace Target

variable (target : Target)

/-- What stands before the name of a type. -/
def typeWord : Target → String
  | .python => "class "
  | .rust => "pub struct "

/-- A declaration in a target. -/
def item : Target → Item → String
  | .python => Python.item
  | .rust => Rust.item

/-- A type is written with its name behind a word of the target. -/
theorem item_heading {i : Item} (hi : i ≠ .prelude) {name : String} (hname : name ∈ i.typeNames) :
    ∃ stop, Stops stop ∧
      Text.Occurs (target.typeWord ++ target.ident name ++ stop) (target.item i) := by
  have hpython : Stops "(str):" := ⟨'(', rfl, rfl⟩
  have hrust : Stops "(pub String);" := ⟨'(', rfl, rfl⟩
  cases i with
  | function f => exact absurd hname List.not_mem_nil
  | prelude => exact absurd rfl hi
  | record r =>
    obtain rfl := List.mem_singleton.mp hname
    cases target with
    | python => exact ⟨":", ⟨':', rfl, rfl⟩, Python.occurs_record r⟩
    | rust => exact ⟨" \x7b", ⟨' ', rfl, rfl⟩, Rust.occurs_record r⟩
  | wrapper w =>
    obtain rfl := List.mem_singleton.mp hname
    cases target with
    | python => exact ⟨_, hpython, Python.occurs_wrapper w⟩
    | rust => exact ⟨_, hrust, Rust.occurs_wrapper w⟩
  | namedText t =>
    obtain rfl := List.mem_singleton.mp hname
    cases target with
    | python => exact ⟨_, hpython, Python.occurs_namedText t⟩
    | rust => exact ⟨_, hrust, Rust.occurs_namedText t⟩

end Target

/-! ## What declarations are called -/

namespace Code

/-- The names that a function is written with. -/
def Function.identifiers (f : Function) : List String :=
  f.name :: f.params.map Param.name

/-- The names that a declaration is written with. -/
def Item.identifiers : Item → List String
  | .function f => f.identifiers
  | .record r => r.name :: r.functions.flatMap Function.identifiers
  | .wrapper w => [w.name]
  | .namedText t => [t.name]
  | .prelude => []

/-- The names that the declarations of a module are written with, what every module has apart. -/
def Module.identifiers (m : Module) : List String :=
  m.items.flatMap Item.identifiers

end Code

/-- An endpoint whose names lead to words : the first letter or digit in its name is no digit, no
line feed stands in its name, and the parameters of its paths are words themselves. -/
structure Endpoint.SpellsWords (e : Endpoint) : Prop where
  letter : ∀ c ∈ e.name.toList.find? Char.isAlphanum, c.isDigit = false
  single_line : '\n' ∉ e.name.toList
  params : ∀ path ∈ e.paths, ∀ name ∈ path.params, isWord name.toList = true

/-! ## Names of types -/

namespace Endpoint

variable {e : Endpoint} {part : String} {host : HostType}

/-- A host type that has a name has one that can stand for a type. -/
theorem isTypeName_partHost (h : e.partHost part = .ok host) (hkind : host.kind = .named) :
    isTypeName (pascal (host.name.getD "")) = true := by
  unfold partHost at h
  split at h
  · cases h
    cases hkind
  · next type htype =>
    rcases type.host_eq_ok h with ⟨kind, hscalar, rfl⟩ | ⟨hname, rfl⟩
    · exact absurd (hkind ▸ hscalar) type.kind.host?_ne_named
    · exact (pascal_pascal _).symm ▸ hname

end Endpoint

/-- The names of types that parts add are words. -/
theorem SharedTypes.isWord_of_mem_ofParts {e : Endpoint} :
    ∀ {parts : List String} {types after : SharedTypes}, ofParts e types parts = .ok after →
      (∀ name ∈ types.names, isWord name.toList = true) →
      ∀ name ∈ after.names, isWord name.toList = true
  | [], _, _, h, hbefore => by
    cases h
    exact hbefore
  | part :: parts, types, after, h, hbefore => by
    obtain ⟨hpart, host, hhost, h⟩ := ofParts_cons_eq_ok h
    refine isWord_of_mem_ofParts h fun name hname => ?_
    rcases mem_names_addPart_iff.mp hname with rfl | ⟨hkind, rfl⟩ | hname
    · rwa [isWord_iff_isTypeName isAlphanum_of_mem_sharedTypeName]
    · exact isWord_sharedTypeName.mpr (Endpoint.isTypeName_partHost hhost hkind)
    · exact hbefore name hname

/-! ## Declarations of an endpoint -/

namespace Endpoint.HasRequests

variable {l : Lowered policy} {method : HttpMethod} {tokens : List String} {P : String → Prop}

theorem forall_identifiers_function {e : Endpoint} {strategy : Strategy} {path : UrlPath} :
    (∀ name ∈ (Request.functionFor e method tokens strategy path).identifiers, P name) ↔
      P (urlFunctionName tokens path.params) ∧ ∀ name ∈ baseParam :: path.params, P name := by
  rw [Function.identifiers, Request.map_name_functionFor, List.forall_mem_cons]
  rfl

theorem forall_identifiers_makerDecl {e : Endpoint} {strategy : Strategy} {path : UrlPath} :
    (∀ name ∈ (Request.forPath e method tokens strategy path).makerDecl.identifiers, P name) ↔
      P (makerName path.params) ∧ ∀ name ∈ Request.makerNames e path, P name := by
  rw [Function.identifiers, Request.map_name_makerDecl, List.forall_mem_cons, Request.makerDecl,
    Request.maker_forPath]

theorem forall_identifiers_record
    (h : l.endpoint.HasRequests policy method tokens l.requests l.types) {r : Record}
    (hr : r ∈ Request.recordsOf l.requests) :
    (∀ name ∈ (Item.record r).identifiers, P name) ↔
      P (requestTypeName tokens) ∧
        (∀ path ∈ l.endpoint.paths, P (makerName path.params) ∧
          ∀ name ∈ Request.makerNames l.endpoint path, P name) ∧
        P "into_http_request" := by
  obtain ⟨first, -, rfl⟩ := h.mem_recordsOf hr
  have hconversion : ∀ r : Request, r.conversionDecl.identifiers = ["into_http_request"] :=
    fun _ => rfl
  rw [Item.identifiers, List.forall_mem_cons, Request.recordDecl, List.flatMap_append,
    List.forall_mem_append, List.flatMap_singleton, hconversion, List.forall_mem_singleton,
    h.requests_eq, List.flatMap_map, List.flatMap_map, List.forall_mem_flatMap]
  exact and_congr_right fun _ => and_congr_left fun _ =>
    forall₂_congr fun _ _ => forall_identifiers_makerDecl

/-- The names that an endpoint is written with : for each of its paths those of the url function,
of the constructor and of their parameters, and beside them those of the record. -/
theorem forall_identifiers_iff
    (h : l.endpoint.HasRequests policy method tokens l.requests l.types) :
    (∀ name ∈ l.items.flatMap Item.identifiers, P name) ↔ ∀ path ∈ l.endpoint.paths,
      P (urlFunctionName tokens path.params) ∧ P (makerName path.params) ∧
        (∀ name ∈ Request.makerNames l.endpoint path, P name) ∧
        P (requestTypeName tokens) ∧ P "into_http_request" := by
  rw [h.items_eq, List.flatMap_append, List.forall_mem_append, List.flatMap_map, List.flatMap_map,
    List.flatMap_map, List.forall_mem_flatMap, List.forall_mem_flatMap]
  constructor
  · rintro ⟨hfunctions, hrecords⟩ path hpath
    have hne : l.requests ≠ [] := by
      rw [h.requests_eq]
      exact List.ne_nil_of_mem (List.mem_map_of_mem hpath)
    obtain ⟨first, rest, hcons⟩ := List.exists_cons_of_ne_nil hne
    have hr : Request.recordDecl first l.requests ∈ Request.recordsOf l.requests :=
      List.mem_map_of_mem (by rw [hcons]; exact List.mem_singleton_self first)
    obtain ⟨htype, hmakers, hconversion⟩ := (h.forall_identifiers_record hr).mp (hrecords _ hr)
    obtain ⟨hmaker, hnames⟩ := hmakers path hpath
    exact ⟨(forall_identifiers_function.mp (hfunctions path hpath)).1, hmaker, hnames, htype,
      hconversion⟩
  · intro hall
    refine ⟨fun path hpath => ?_, fun r hr => ?_⟩
    · obtain ⟨hfunction, -, hnames, -⟩ := hall path hpath
      exact forall_identifiers_function.mpr
        ⟨hfunction, fun name hname => hnames name (List.mem_append_left _ hname)⟩
    · obtain ⟨path, hpath, -⟩ := h.mem_recordsOf hr
      obtain ⟨-, -, -, htype, hconversion⟩ := hall path hpath
      refine (h.forall_identifiers_record hr).mpr ⟨htype, fun path hpath => ?_, hconversion⟩
      obtain ⟨-, hmaker, hnames, -⟩ := hall path hpath
      exact ⟨hmaker, hnames⟩

end Endpoint.HasRequests

namespace Lowered

variable {l : Lowered policy}

/-- The names of an endpoint with paths are words just when it spells words. -/
theorem forall_isWord_iff :
    (∀ name ∈ l.items.flatMap Item.identifiers, isWord name.toList = true) ↔
      (l.endpoint.paths ≠ [] → l.endpoint.SpellsWords) := by
  obtain ⟨method, tokens, h⟩ := Endpoint.requests_eq_ok l.requests_eq
  rw [h.forall_identifiers_iff]
  constructor
  · intro hwords hne
    obtain ⟨path, hpath⟩ := List.exists_mem_of_ne_nil _ hne
    obtain ⟨hfunction, -, -, hrecord, -⟩ := hwords path hpath
    refine ⟨(isWord_requestTypeName h.modulePath_eq).mp hrecord,
      ((isWord_urlFunctionName h.modulePath_eq).mp hfunction).1, fun path hpath name hname => ?_⟩
    obtain ⟨-, -, hparams, -⟩ := hwords path hpath
    exact hparams name (List.mem_append_left _ (List.mem_cons_of_mem _ hname))
  · intro hspells path hpath
    obtain ⟨hletter, hline, hparams⟩ := hspells (List.ne_nil_of_mem hpath)
    have hchars : ∀ part ∈ path.params, ∀ c ∈ part.toList, isNameChar c = true :=
      fun part hpart => (isWord_iff.mp (hparams path hpath part hpart)).2
    refine ⟨(isWord_urlFunctionName h.modulePath_eq).mpr ⟨hline, hchars⟩,
      isWord_makerName.mpr hchars, fun name hname => ?_,
      (isWord_requestTypeName h.modulePath_eq).mpr hletter, by decide⟩
    rcases List.mem_append.mp hname with hname | hname
    · rcases List.mem_cons.mp hname with rfl | hname
      · decide
      · exact hparams path hpath name hname
    · split_ifs at hname
      · exact List.mem_singleton.mp hname ▸ by decide
      · exact absurd hname List.not_mem_nil

end Lowered

/-! ## All declarations -/

/-- A type of all endpoints is one of some endpoint, whatever the names of endpoints are. -/
theorem exists_of_mem_types {lowered : List (Lowered policy)}
    {types : List (String × SharedTypes)} (h : types ⊆ Lowered.typeTable lowered) {name : String}
    (hname : name ∈ (mergeTypes types).names) :
    ∃ l ∈ lowered, l.endpoint.sharedTypes = .ok l.types ∧ name ∈ l.types.names := by
  obtain ⟨t, ht, hname⟩ := SharedTypes.mem_names_mergeTypes.mp hname
  obtain ⟨l, hl, rfl⟩ := List.mem_map.mp (h ht)
  obtain ⟨method, tokens, hrequests⟩ := Endpoint.requests_eq_ok l.requests_eq
  exact ⟨l, hl, hrequests.sharedTypes_eq, hname⟩

/-- Text types are written with words, whatever the endpoints are called. -/
theorem isWord_of_mem_types {lowered : List (Lowered policy)}
    {types : List (String × SharedTypes)} (h : types ⊆ Lowered.typeTable lowered) {name : String}
    (hname : name ∈ (mergeTypes types).names) : isWord name.toList = true := by
  obtain ⟨l, -, htypes, hname⟩ := exists_of_mem_types h hname
  exact SharedTypes.isWord_of_mem_ofParts htypes (fun _ hmem => absurd hmem List.not_mem_nil)
    name hname

theorem SharedTypes.identifiers_items (types : SharedTypes) :
    types.items.flatMap Item.identifiers = types.declared := by
  rw [items, List.flatMap_append, List.flatMap_cons, List.flatMap_map, List.flatMap_map,
    declared, Table.keys, List.map_eq_flatMap]
  simp only [Item.identifiers, wrapperDecl, ← List.map_eq_flatMap, List.map_id', List.nil_append]

/-- What is generated is written with its names : those of functions stand in front of their
parameters, each of which stands in front of its type, and those of types behind a word of the
target. The identifiers of text types are legal. All identifiers are, just when each endpoint that
has a path has a name without line feeds, whose first letter or digit is no digit, and paths whose
parameters are words. -/
theorem generate_idents_legal_iff {endpoints : List Endpoint} {g : Generated}
    (h : generate endpoints policy = .ok g) (target : Target) :
    (∀ f ∈ g.code.functions, ∀ record, Text.Occurs (target.functionWord ++ target.ident f.name ++
      "(" ++ commas (target.receivers f.kind ++ f.params.map (target.param record)) ++ ")")
      (target.function record f)) ∧
    (∀ f ∈ g.code.functions, ∀ record, ∀ p ∈ f.params,
      ∃ type, target.param record p = target.ident p.name ++ ": " ++ type) ∧
    (∀ i ∈ g.code.items, i ≠ .prelude → ∀ name ∈ i.typeNames, ∃ stop, Stops stop ∧
      Text.Occurs (target.typeWord ++ target.ident name ++ stop) (target.item i)) ∧
    (∀ name ∈ g.code.textTypes, target.IsLegal (target.ident name)) ∧
    ((∀ name ∈ g.code.identifiers, target.IsLegal (target.ident name)) ↔
      ∀ e ∈ g.endpoints, e.paths ≠ [] → e.SpellsWords) := by
  obtain ⟨-, lowered, hendpoints, hcode, types, hsubset, htypes⟩ := items_of_generate h
  have htext : ∀ name ∈ g.types.declared, isWord name.toList = true := fun name hname =>
    isWord_of_mem_types hsubset (htypes ▸ SharedTypes.mem_declared.mp hname)
  refine ⟨fun f _ record => target.function_heading record f,
    fun _ _ record p _ => target.param_eq record p,
    fun i _ hi name hname => target.item_heading hi hname, fun name hname => ?_, ?_⟩
  · rw [hcode, Module.textTypes_assemble] at hname
    exact target.isLegal_ident_iff.mpr (htext name hname)
  · simp only [target.isLegal_ident_iff]
    rw [hcode, Module.identifiers, items_assemble, List.flatMap_append, List.flatMap_assoc,
      SharedTypes.identifiers_items, List.forall_mem_append, and_iff_left htext,
      List.forall_mem_flatMap, hendpoints, List.forall_mem_map]
    exact forall₂_congr fun l _ => l.forall_isWord_iff

/-- Reserved parameters and types are written as legal identifiers in either target. -/
theorem generate_idents_legal_reserved :
    ∃ (get : Endpoint) (g : Generated), generate [get] {} = .ok g ∧
      g.code.identifiers = ["_cluster_get_url_class_self", "base", "class", "self",
        "ClusterGetRequest", "for_class_self", "base", "class", "self", "into_http_request",
        "Class", "Self"] ∧
      (∀ e ∈ g.endpoints, e.paths ≠ [] → e.SpellsWords) ∧
      ∀ target : Target, ∀ name ∈ g.code.identifiers, target.IsLegal (target.ident name) := by
  let get : Endpoint :=
    { name := "_cluster.get", methods := [.get],
      paths := [⟨"/{class}/{self}", [.literal "/", .param "class", .literal "/", .param "self"]⟩] }
  obtain ⟨g, hg, hendpoints, hidentifiers⟩ : ∃ g, generate [get] {} = .ok g ∧
      g.endpoints = [get] ∧
      g.code.identifiers = ["_cluster_get_url_class_self", "base", "class", "self",
        "ClusterGetRequest", "for_class_self", "base", "class", "self", "into_http_request",
        "Class", "Self"] := by
    subst get
    exact ⟨_, rfl, rfl, rfl⟩
  have hspells : ∀ e ∈ g.endpoints, e.paths ≠ [] → e.SpellsWords := by
    rw [hendpoints, List.forall_mem_singleton]
    have hfirst : get.name.toList.find? Char.isAlphanum = some 'c' := by decide
    refine fun _ => ⟨fun c hc => ?_, by decide, by decide⟩
    rw [hfirst] at hc
    obtain rfl := Option.some.inj hc
    rfl
  exact ⟨get, g, hg, hidentifiers, hspells, fun target =>
    (generate_idents_legal_iff hg target).2.2.2.2.mpr hspells⟩

/-- The name of an endpoint may end in a line feed, which then stands in the name of its url
function, or start with a digit behind an underscore, with which its record then starts. -/
theorem idents_illegal_linefeed :
    ∃ (get first : Endpoint) (g : Generated),
      (∀ e ∈ [get, first], ∀ path ∈ e.paths, UrlPath.parse path.template = .ok path) ∧
      generate [get, first] {} = .ok g ∧
      "get\n_url" ∈ g.code.identifiers ∧ "1Request" ∈ g.code.identifiers ∧
      ∀ target : Target, ¬target.IsLegal (target.ident "get\n_url") ∧
        ¬target.IsLegal (target.ident "1Request") := by
  let get : Endpoint := { name := "get\n", methods := [.get], paths := [⟨"/", [.literal "/"]⟩] }
  let first : Endpoint := { name := "_1", methods := [.get], paths := [⟨"/", [.literal "/"]⟩] }
  obtain ⟨g, hg, hidentifiers⟩ : ∃ g, generate [get, first] {} = .ok g ∧
      g.code.identifiers = ["get\n_url", "base", "GetRequest", "new", "base", "into_http_request",
        "_1_url", "base", "1Request", "new", "base", "into_http_request"] := by
    subst get first
    exact ⟨_, rfl, rfl⟩
  refine ⟨get, first, g, by decide, hg, hidentifiers ▸ by decide, hidentifiers ▸ by decide,
    fun target => ?_⟩
  cases target <;> decide

end Routewright
