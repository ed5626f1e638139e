import Mathlib.Data.List.Flatten
import Routewright.Proofs.Repetition

/-!
# What entries declare

An endpoint has what its entry declares : the origin of its document, a path for each template, each
method once, and its parts (`Entry.declares_of_endpoint_eq_ok`). Names of endpoints and of parts may
also be written as the bytes of a text. Such a name is another key than the text, so that both may
be declared in one place, and then there are two endpoints of one name, or one part for two
(`endpoints_declared_iff`).
-/

namespace Routewright

open Outcome

/-! ## Methods -/

namespace HttpMethod

theorem name_injective : Function.Injective name := by
  intro m m' h
  cases m <;> cases m' <;> first | rfl | exact absurd h (by decide)

theorem name_of_ofName? {s : String} {m : HttpMethod} (h : ofName? s = some m) : m.name = s := by
  simpa using List.find?_some h

end HttpMethod

namespace Description

/-- The name of a method as a value declares it, in capitals. -/
def methodName (v : Value) : String :=
  String.ofList (Text.upper v.display.toList)

/-- The names of methods are added in capitals, unless they are there. -/
theorem addMethods_eq_ok :
    ∀ {items : List Value} {methods added : List HttpMethod},
      addMethods methods items = .ok added →
      added.map HttpMethod.name = (items.map methodName).foldl
        (fun seen name => Table.insert name seen) (methods.map HttpMethod.name)
  | [], _, _, h => by
    cases h
    rfl
  | v :: items, methods, added, h => by
    obtain ⟨name, hname, h⟩ := bind_eq_ok.mp h
    have hdisplay : v.display = name := by
      unfold written at hname
      split_ifs at hname
      exact Except.ok.inj hname
    split at h
    · cases h
    · next m hm =>
      have hupper : m.name = methodName v := by
        rw [HttpMethod.name_of_ofName? hm, methodName, hdisplay]
      rw [addMethods_eq_ok h, Table.map_insert HttpMethod.name_injective, hupper, List.map_cons,
        List.foldl_cons]

/-- The values that name methods, of which there are none if nothing is declared. -/
def methodValues (v : Value) : List Value :=
  match v.opened with
  | .list items => items
  | _ => []

/-- Methods are those that are named, in the order in which they are named first. -/
theorem methods_eq_ok {v : Value} {methods : List HttpMethod}
    (h : Description.methods v = .ok methods) :
    methods.map HttpMethod.name = Table.distinct ((methodValues v).map methodName) := by
  unfold Description.methods at h
  unfold methodValues
  split at h
  · next hopened =>
    cases h
    rw [hopened]
    rfl
  · next items hopened =>
    rw [addMethods_eq_ok h, hopened]
    rfl
  · cases h

/-! ## Paths -/

/-- The values that are taken for templates : those listed under `paths`, or if there is no list the
one under `path`. -/
def templateValues (url : Document) : List Value :=
  match (Value.field url "paths").opened with
  | .null => [Value.field url "path"]
  | .list items => items
  | _ => []

theorem templates_eq_ok {url : Document} {values : List Value} (h : templates url = .ok values) :
    values = templateValues url ∧ values ≠ [] := by
  unfold templates at h
  unfold templateValues
  split at h
  · next hopened =>
    rw [hopened]
    split at h
    · cases h
    · cases h
      exact ⟨rfl, List.cons_ne_nil _ _⟩
  · cases h
  · next items hne hopened =>
    rw [hopened]
    cases h
    exact ⟨rfl, fun hnil => hne hnil⟩
  · cases h

/-- A path that is read from a value that is its template. -/
def IsPathOf (v : Value) (path : UrlPath) : Prop :=
  v = .text path.template ∧ parseSegments path.template = .ok path.segments

theorem isPathOf_of_path_eq_ok {v : Value} {path : UrlPath} (h : Description.path v = .ok path) :
    IsPathOf v path := by
  unfold Description.path at h
  split at h
  · next template =>
    obtain ⟨segments, hsegments, rfl⟩ := map_eq_ok.mp (mapError_eq_ok.mp h)
    exact ⟨rfl, hsegments⟩
  · split_ifs at h

/-- There is a path, and one for each template. -/
theorem paths_eq_ok {url : Document} {paths : List UrlPath}
    (h : Description.paths url = .ok paths) :
    paths ≠ [] ∧ List.Forall₂ IsPathOf (templateValues url) paths := by
  obtain ⟨values, hvalues, h⟩ := bind_eq_ok.mp h
  obtain ⟨rfl, hne⟩ := templates_eq_ok (mapError_eq_ok.mp hvalues)
  have hpaths := mapM_eq_ok.mp h
  refine ⟨fun hnil => hne ?_, hpaths.imp fun _ _ => isPathOf_of_path_eq_ok⟩
  rw [hnil, List.forall₂_nil_right_iff] at hpaths
  exact hpaths

/-! ## Parts -/

/-- A part that an entry declares, under the text that its key is taken for. -/
def IsPartOf (entry : Value × Value) (part : String × SpecType) : Prop :=
  Checked.text entry.1 = .valid part.1 ∧ part.2 = declaredType entry.2

theorem namedParts_eq_valid :
    ∀ {entries : List (Value × Value)} {named : List (String × SpecType)},
      namedParts (entries.map fun part => (part.1, declaredType part.2)) = .valid named →
      List.Forall₂ IsPartOf entries named
  | [], _, h => by
    cases h
    exact .nil
  | (key, value) :: entries, _, h => by
    obtain ⟨_, rest, hcons, hrest, rfl⟩ := Checked.ap_eq_valid.mp h
    obtain ⟨_, hpart, rfl⟩ := Checked.map_eq_valid.mp hcons
    obtain ⟨name, hname, rfl⟩ := Checked.map_eq_valid.mp hpart
    exact .cons ⟨Checked.under_eq_valid.mp (Checked.under_eq_valid.mp hname), rfl⟩
      (namedParts_eq_valid hrest)

theorem IsPartOf.unique {entry : Value × Value} {part part' : String × SpecType}
    (h : IsPartOf entry part) (h' : IsPartOf entry part') : part' = part :=
  Prod.ext (Checked.valid.inj (h'.1.symm.trans h.1)) (h'.2.trans h.2.symm)

/-- Entries declare one part each, in order, just when no two keys are taken for one text. -/
theorem forall₂_isPartOf_iff {v : Value} {parts : List (Value × SpecType)}
    {table : List (String × SpecType)} (hparts : Description.parts v = .ok parts)
    (htable : partTable parts = .valid table) :
    List.Forall₂ IsPartOf (partEntries v) table ↔
      ((partEntries v).map fun part => Checked.text part.1).Nodup := by
  obtain ⟨named, hnamed, rfl⟩ := Checked.map_eq_valid.mp htable
  rw [parts_eq_ok hparts] at hnamed
  have hall := namedParts_eq_valid hnamed
  have hkeys : ((partEntries v).map fun part => Checked.text part.1) =
      (Table.keys named).map Checked.valid := by
    rw [Table.keys, List.map_map]
    exact map_eq_map_iff_forall₂.mpr (hall.imp fun _ _ h => h.1)
  have hsame : List.Forall₂ IsPartOf (partEntries v) (Table.ofList named) ↔
      Table.ofList named = named := by
    refine ⟨fun h => ?_, fun h => h.symm ▸ hall⟩
    exact List.right_unique_forall₂' (fun _ _ _ h h' => h'.unique h) h hall
  rw [hsame, Table.ofList_eq_self_iff, hkeys,
    List.nodup_map_iff fun _ _ => Checked.valid.inj]

/-! ## Entries -/

namespace Entry

/-- The fields of what an entry declares. -/
def fields (e : Entry) : Document :=
  match e.descriptor.opened with
  | .map fields => fields
  | _ => []

/-- The fields of the address in what an entry declares. -/
def url (e : Entry) : Document :=
  match (Value.field e.fields "url").opened with
  | .map url => url
  | _ => []

/-- What an endpoint has from its entry. -/
structure Declares (e : Entry) (endpoint : Endpoint) : Prop where
  name_eq : Checked.text e.name = .valid endpoint.name
  origin_eq : endpoint.origin = some e.origin
  paths_ne_nil : endpoint.paths ≠ []
  paths : List.Forall₂ IsPathOf (templateValues e.url) endpoint.paths
  methods_nodup : endpoint.methods.Nodup
  methods_eq : endpoint.methods.map HttpMethod.name =
    Table.distinct ((methodValues (Value.field e.fields "methods")).map methodName)
  /-- There is one part for each that is declared, in order, unless two keys are one text. -/
  parts_iff : List.Forall₂ IsPartOf (partEntries (Value.field e.url "parts")) endpoint.parts ↔
    ((partEntries (Value.field e.url "parts")).map fun part => Checked.text part.1).Nodup

theorem declares_of_endpoint_eq_ok {e : Entry} {endpoint : Endpoint}
    (h : e.endpoint = .ok endpoint) : e.Declares endpoint := by
  obtain ⟨fields, url, parts, hfields, hurl, hname, horigin, hpaths, -, hmethods, hparts, htable,
    -⟩ := endpoint_eq_ok h
  have heqFields : e.fields = fields := by rw [Entry.fields, hfields]
  have heqUrl : e.url = url := by rw [Entry.url, heqFields, hurl]
  subst heqFields heqUrl
  obtain ⟨hne, hpaths⟩ := paths_eq_ok hpaths
  have hnames := methods_eq_ok hmethods
  refine ⟨hname, horigin, hne, hpaths, ?_, hnames, forall₂_isPartOf_iff hparts htable⟩
  exact List.Nodup.of_map HttpMethod.name (hnames ▸ Table.nodup_distinct _)

end Entry

/-! ## Documents -/

variable {documents : List (String × Document)} {endpoints : List Endpoint}

/-- Entries of two documents stand one after the other among all entries. -/
theorem pair_sublist_entriesOf {d d' : String × Document} (h : [d, d'].Sublist documents)
    {e e' : Value × Value} (he : e ∈ d.2) (he' : e' ∈ d'.2) :
    [Entry.mk d.1 e.1 e.2, Entry.mk d'.1 e'.1 e'.2].Sublist (entriesOf documents) := by
  have hone (d : String × Document) {e : Value × Value} (he : e ∈ d.2) :
      [Entry.mk d.1 e.1 e.2].Sublist (entriesOf [d]) := by
    rw [entriesOf, List.flatMap_singleton, List.singleton_sublist]
    exact List.mem_map.mpr ⟨e, he, rfl⟩
  have hpair := (hone d he).append (hone d' he')
  rw [entriesOf, entriesOf, ← List.flatMap_append] at hpair
  exact hpair.trans (h.flatMap _)

/-- Endpoints have the names of entries, which are distinct, just when these are all texts. -/
theorem names_eq_iff (h : declareAll [] (entriesOf documents) = .ok endpoints) :
    (endpoints.map (fun endpoint => Value.text endpoint.name) =
        (entriesOf documents).map Entry.name ∧ (endpoints.map Endpoint.name).Nodup) ↔
      ∀ e ∈ entriesOf documents, ∃ name, e.name = .text name := by
  constructor
  · rintro ⟨heq, -⟩ e he
    have hmem : e.name ∈ endpoints.map fun endpoint => Value.text endpoint.name :=
      heq ▸ List.mem_map_of_mem he
    obtain ⟨endpoint, -, hname⟩ := List.mem_map.mp hmem
    exact ⟨endpoint.name, hname.symm⟩
  · intro htexts
    have hnames : (entriesOf documents).map Entry.name =
        (endpoints.map Endpoint.name).map Value.text := by
      rw [List.map_map, map_eq_map_iff_forall₂]
      refine ((List.forall₂_and_left _ _).mpr ⟨htexts, (declareAll_eq_ok h).1⟩).imp ?_
      rintro e endpoint ⟨⟨name, hname⟩, hendpoint⟩
      have htext := Entry.text_name_eq hendpoint
      rw [hname] at htext
      rw [hname, Function.comp_apply, Checked.valid.inj htext]
    refine ⟨?_, (map_name_of_declareAll hnames h).2⟩
    rw [hnames, List.map_map]
    rfl

/-- From documents that are accepted there is one endpoint for each entry, in order, with what the
entry declares; the names are those of the entries, and distinct, just when all these are texts. A
name in two documents ends the run, and is told as a fault, or another fault before it, just when no
entry stops the run. -/
theorem endpoints_declared_iff (documents : List (String × Document)) :
    (∀ endpoints, Description.endpoints documents = .ok endpoints →
      List.Forall₂ Entry.Declares (entriesOf documents) endpoints ∧
      ((endpoints.map (fun endpoint => Value.text endpoint.name) =
          (entriesOf documents).map Entry.name ∧ (endpoints.map Endpoint.name).Nodup) ↔
        ∀ e ∈ entriesOf documents, ∃ name, e.name = .text name)) ∧
    ∀ d d' : String × Document, [d, d'].Sublist documents →
      (∃ e ∈ d.2, ∃ e' ∈ d'.2, e.1.sameKey e'.1) →
      (∃ failure, Description.endpoints documents = .error failure) ∧
      ((∃ fault, Description.endpoints documents = .error (.fault fault)) ↔
        ¬StopsAt (entriesOf documents)) := by
  rw [endpoints_eq]
  refine ⟨fun endpoints h => ⟨?_, names_eq_iff h⟩, ?_⟩
  · exact (declareAll_eq_ok h).1.imp fun _ _ => Entry.declares_of_endpoint_eq_ok
  · rintro d d' hsub ⟨e, he, e', he', hsame⟩
    rw [← declareAll_eq_irregular_iff]
    rcases h : declareAll [] (entriesOf documents) with failure | endpoints
    · refine ⟨⟨failure, rfl⟩, ?_⟩
      cases failure with
      | fault fault => exact iff_of_true ⟨fault, rfl⟩ fun ⟨_, h⟩ => nomatch h
      | irregular irregularity => exact iff_of_false nofun fun h => h ⟨irregularity, rfl⟩
    · have hdistinct := (declareAll_eq_ok h).2.1.sublist (pair_sublist_entriesOf hsub he he')
      exact absurd hsame (List.rel_of_pairwise_cons hdistinct (List.mem_singleton_self _))

/-- A method that is named twice is declared once, each template leads to a path, and a name in two
documents is told. -/
theorem endpoints_declared_methods :
    ∃ (d d' : String × Document) (endpoint : Endpoint),
      Description.endpoints [d] = .ok [endpoint] ∧
      (entriesOf [d]).map Entry.name = [.text "search"] ∧ endpoint.name = "search" ∧
      endpoint.origin = some "a.yaml" ∧ endpoint.methods = [.get, .post] ∧
      endpoint.paths.map UrlPath.template = ["/_search", "/{index}/_search"] ∧
      endpoint.parts.map Prod.fst = ["index"] ∧
      List.Forall₂ Entry.Declares (entriesOf [d]) [endpoint] ∧
      [endpoint].map (fun endpoint => Value.text endpoint.name) =
        (entriesOf [d]).map Entry.name ∧
      (∃ fault, Description.endpoints [d, d'] = .error (.fault fault)) ∧
      ¬StopsAt (entriesOf [d, d']) := by
  let url : Document :=
    [(.text "paths", .list [.text "/_search", .text "/{index}/_search"]),
      (.text "parts", .map [(.text "index", .text "long")])]
  let fields : Document :=
    [(.text "methods", .list [.text "get", .text "GET", .text "Post"]), (.text "url", .map url)]
  let d : String × Document := ("a.yaml", [(.text "search", .map fields)])
  let d' : String × Document := ("b.yaml", [(.text "search", .map fields)])
  let endpoint : Endpoint :=
    { name := "search", methods := [.get, .post], parts := [("index", { kind := .long })]
      paths := [⟨"/_search", [.literal "/_search"]⟩,
        ⟨"/{index}/_search", [.literal "/", .param "index", .literal "/_search"]⟩]
      origin := some "a.yaml" }
  have hrun : Description.endpoints [d] = .ok [endpoint] := by
    rw [← toOption_eq_some]
    subst d fields url endpoint
    decide +kernel
  have htwice : ∃ fault, Description.endpoints [d, d'] = .error (.fault fault) := by
    rw [endpoints_eq] at hrun
    refine ⟨.duplicate "search" "b.yaml" "a.yaml", ?_⟩
    rw [endpoints_eq]
    exact declareAll_eq_error_iff.mpr ⟨entriesOf [d], _, [], rfl, ⟨_, hrun⟩, rfl⟩
  obtain ⟨hdeclared, hnames⟩ := (endpoints_declared_iff [d]).1 _ hrun
  obtain ⟨-, htold⟩ := (endpoints_declared_iff [d, d']).2 d d' (List.Sublist.refl _)
    ⟨_, List.mem_singleton_self _, _, List.mem_singleton_self _, by decide⟩
  exact ⟨d, d', endpoint, hrun, rfl, rfl, rfl, rfl, rfl, rfl, hdeclared,
    (hnames.mpr (List.forall_mem_singleton.mpr ⟨"search", rfl⟩)).1, htwice, htold.mp htwice⟩

/-- A part under a number ends a run before it comes to a name that is in two documents. A text and
its bytes are two names of one document, and declare two endpoints of one name. -/
theorem endpoints_untold_and_alike :
    ∃ d d' alike : String × Document,
      (∃ e ∈ d.2, ∃ e' ∈ d'.2, e.1.sameKey e'.1) ∧
      (∃ error, Description.endpoints [d, d'] = .error (.irregular (.names error))) ∧
      (alike.2.map Prod.fst).Pairwise (fun name name' => ¬name.sameKey name') ∧
      ∃ endpoints, Description.endpoints [alike] = .ok endpoints ∧
        endpoints.map Endpoint.name = ["hi", "hi"] := by
  let descriptor (path : String) : Value := .map [(.text "url", .map [(.text "path", .text path)])]
  let numbered : Value :=
    .map [(.text "url", .map [(.text "path", .text "/x"),
      (.text "parts", .map [(.int 1, .text "long")])])]
  let d : String × Document := ("a.yaml", [(.text "a", numbered)])
  let d' : String × Document := ("b.yaml", [(.text "a", descriptor "/y")])
  let alike : String × Document :=
    ("a.yaml", [(.text "hi", descriptor "/x"), (.bytes [104, 105], descriptor "/y")])
  refine ⟨d, d', alike, ?_, ?_, ?_, ?_⟩
  · exact ⟨_, List.mem_singleton_self _, _, List.mem_singleton_self _, by decide⟩
  · subst d d' numbered descriptor
    exact ⟨_, rfl⟩
  · subst alike
    decide
  · subst alike descriptor
    exact ⟨_, rfl, rfl⟩

end Description

end Routewright
