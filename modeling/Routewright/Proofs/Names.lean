import Routewright.Proofs.Generation
import Routewright.Proofs.SharedTypes
import Routewright.Proofs.UrlFunction

/-!
# Distinct names

No name is declared twice at the top level of generated code, and none within a record. Three checks
work together. Within an endpoint, two url functions of one name would belong to constructors of one
name, which are refused. Over all endpoints, a name is taken before the next one is looked up. And
types, which endpoints may share, are only compared with the names of requests, since they are
collected without repetition.

A url function is told from everything else by the underscore in its name, and from the function
that every file has by `_url`.
-/

namespace Routewright

open Code Outcome

variable {policy : Policy}

/-! ## Spelling -/

theorem underscore_not_mem_requestTypeName (tokens : List String) :
    '_' ∉ (requestTypeName tokens).toList :=
  fun hmem => absurd (isAlphanum_of_mem_requestTypeName _ hmem) (by decide)

theorem url_sublist_urlFunctionName (tokens shape : List String) :
    "_url".toList.Sublist (urlFunctionName tokens shape).toList := by
  rw [urlFunctionName_eq, String.toList_append, String.toList_append, ← List.append_assoc]
  exact (List.infix_append _ _ _).sublist

theorem underscore_mem_urlFunctionName (tokens shape : List String) :
    '_' ∈ (urlFunctionName tokens shape).toList :=
  (url_sublist_urlFunctionName tokens shape).subset (by decide)

theorem urlFunctionName_ne_headersFunction (tokens shape : List String) :
    urlFunctionName tokens shape ≠ headersFunction := by
  intro heq
  have hsublist := url_sublist_urlFunctionName tokens shape
  rw [heq] at hsublist
  exact absurd hsublist (by decide)

/-- Url functions of one name belong to constructors of one name. -/
theorem makerName_eq_of_urlFunctionName_eq {tokens s t : List String}
    (h : urlFunctionName tokens s = urlFunctionName tokens t) : makerName s = makerName t := by
  rw [urlFunctionName_eq, urlFunctionName_eq, String.append_right_inj, String.append_right_inj] at h
  unfold makerName
  split_ifs at h ⊢
  · rfl
  · exact absurd (congrArg String.toList h) (by simp)
  · exact absurd (congrArg String.toList h) (by simp)
  · rw [(String.append_right_inj _).mp h]

theorem makerName_ne_conversion (shape : List String) : makerName shape ≠ "into_http_request" := by
  unfold makerName
  split_ifs
  · decide
  · intro heq
    have hhead := congrArg (fun s : String => s.toList.head?) heq
    simp at hhead

/-! ## Declarations of one endpoint -/

namespace Request

variable {requests : List Request} {items : List Item}

/-- The records of requests : one that all of them share, and none without requests. -/
def recordsOf (requests : List Request) : List Record :=
  requests.head?.toList.map fun first => recordDecl first requests

/-- Requests become a url function each and one record. -/
theorem items_eq_ok (h : Request.items requests = .ok items) :
    ∃ functions, List.Forall₂ (fun r f => urlFunctionDecl r = .ok f) requests functions ∧
      items = functions.map Item.function ++ (recordsOf requests).map Item.record := by
  cases requests with
  | nil =>
    cases h
    exact ⟨[], .nil, rfl⟩
  | cons first rest =>
    obtain ⟨functions, hfunctions, h⟩ := bind_eq_ok.mp h
    cases h
    exact ⟨functions, mapM_eq_ok.mp hfunctions, rfl⟩

theorem name_of_urlFunctionDecl {r : Request} {f : Function} (h : urlFunctionDecl r = .ok f) :
    f.name = r.urlFunction := by
  obtain ⟨_, -, h⟩ := bind_eq_ok.mp h
  cases h
  rfl

/-- The names that requests declare. -/
theorem names_items (h : Request.items requests = .ok items) :
    items.flatMap Item.names =
      requests.map urlFunction ++ (recordsOf requests).map Record.name := by
  obtain ⟨functions, hfunctions, rfl⟩ := items_eq_ok h
  have hnames : functions.map Function.name = requests.map urlFunction :=
    map_eq_map_iff_forall₂.mpr (hfunctions.flip.imp fun _ _ hf => name_of_urlFunctionDecl hf)
  rw [List.flatMap_append, List.flatMap_map, List.flatMap_map, ← hnames, List.map_eq_flatMap,
    List.map_eq_flatMap]
  rfl

end Request

namespace Endpoint.HasRequests

variable {e : Endpoint} {method : HttpMethod} {tokens : List String} {requests : List Request}
  {types : SharedTypes}

theorem map_urlFunction (h : e.HasRequests policy method tokens requests types) :
    requests.map Request.urlFunction =
      e.paths.map fun path => urlFunctionName tokens path.params := by
  rw [h.requests_eq, List.map_map]
  rfl

/-- Url functions of distinct constructors have distinct names. -/
theorem nodup_urlFunctions (h : e.HasRequests policy method tokens requests types) :
    (requests.map Request.urlFunction).Nodup := by
  have hmakers := h.nodup_makers
  rw [List.Nodup, List.pairwise_map] at hmakers
  rw [h.map_urlFunction, List.Nodup, List.pairwise_map]
  exact hmakers.imp fun hne heq => hne (makerName_eq_of_urlFunctionName_eq heq)

theorem mem_recordsOf (h : e.HasRequests policy method tokens requests types) {r : Record}
    (hr : r ∈ Request.recordsOf requests) :
    ∃ path ∈ e.paths, r = Request.recordDecl
      (Request.forPath e method tokens (policy.strategyFor e.name) path) requests := by
  obtain ⟨first, hfirst, rfl⟩ := List.mem_map.mp hr
  have hmem : first ∈ requests := List.mem_of_head? (Option.mem_toList.mp hfirst)
  rw [h.requests_eq] at hmem
  obtain ⟨path, hpath, rfl⟩ := List.mem_map.mp hmem
  exact ⟨path, hpath, rfl⟩

theorem name_of_mem_recordsOf (h : e.HasRequests policy method tokens requests types)
    {r : Record} (hr : r ∈ Request.recordsOf requests) : r.name = requestTypeName tokens := by
  obtain ⟨path, -, rfl⟩ := h.mem_recordsOf hr
  rfl

/-- The functions of a record are the constructors and the conversion. -/
theorem map_functions_name (h : e.HasRequests policy method tokens requests types) {r : Record}
    (hr : r ∈ Request.recordsOf requests) :
    r.functions.map Function.name =
      (e.paths.map fun path => makerName path.params) ++ ["into_http_request"] := by
  obtain ⟨path, -, rfl⟩ := h.mem_recordsOf hr
  rw [Request.recordDecl, List.map_append, List.map_map, h.requests_eq, List.map_map]
  exact congrArg (· ++ _) (List.map_congr_left fun _ _ => Request.maker_forPath)

end Endpoint.HasRequests

namespace Lowered

variable (l : Lowered policy)

/-- The names of the declarations of an endpoint. -/
def names : List String :=
  l.items.flatMap Item.names

theorem names_eq :
    l.names = l.requests.map Request.urlFunction ++
      (Request.recordsOf l.requests).map Record.name :=
  Request.names_items l.items_eq

/-- An endpoint declares no name twice. -/
theorem nodup_names : l.names.Nodup := by
  obtain ⟨method, tokens, h⟩ := Endpoint.requests_eq_ok l.requests_eq
  rw [names_eq]
  refine h.nodup_urlFunctions.append ?_ ?_
  · rw [Request.recordsOf]
    cases l.requests.head? <;> simp
  · intro name hfunction hrecord
    rw [h.map_urlFunction] at hfunction
    obtain ⟨path, -, rfl⟩ := List.mem_map.mp hfunction
    obtain ⟨r, hr, heq⟩ := List.mem_map.mp hrecord
    rw [h.name_of_mem_recordsOf hr] at heq
    exact underscore_not_mem_requestTypeName tokens (heq ▸ underscore_mem_urlFunctionName _ _)

/-- The names that are declared are among those that are entered for the endpoint. -/
theorem names_subset : l.names ⊆ ownNames l.requests := by
  intro name hname
  rw [names_eq, List.mem_append] at hname
  rw [ownNames, Sorted.mem_texts, List.mem_append]
  refine hname.symm.imp_left fun hrecord => ?_
  obtain ⟨r, hr, rfl⟩ := List.mem_map.mp hrecord
  obtain ⟨first, hfirst, rfl⟩ := List.mem_map.mp hr
  exact List.mem_map.mpr ⟨first, List.mem_of_head? (Option.mem_toList.mp hfirst), rfl⟩

theorem headersFunction_not_mem_names : headersFunction ∉ l.names := by
  intro hname
  obtain ⟨method, tokens, h⟩ := Endpoint.requests_eq_ok l.requests_eq
  rw [names_eq, List.mem_append, h.map_urlFunction] at hname
  rcases hname with hname | hname
  · obtain ⟨path, -, heq⟩ := List.mem_map.mp hname
    exact urlFunctionName_ne_headersFunction _ _ heq
  · obtain ⟨r, hr, heq⟩ := List.mem_map.mp hname
    rw [h.name_of_mem_recordsOf hr] at heq
    exact underscore_not_mem_requestTypeName tokens (heq ▸ by decide)

/-- Constructors and the conversion of a record have distinct names. -/
theorem nodup_functions {r : Record} (hr : Item.record r ∈ l.items) :
    (r.functions.map Function.name).Nodup ∧
      "into_http_request" ∈ r.functions.map Function.name := by
  obtain ⟨method, tokens, h⟩ := Endpoint.requests_eq_ok l.requests_eq
  obtain ⟨functions, -, hitems⟩ := Request.items_eq_ok l.items_eq
  rw [hitems] at hr
  have hr : r ∈ Request.recordsOf l.requests := by simpa using hr
  rw [h.map_functions_name hr]
  refine ⟨h.nodup_makers.append (List.nodup_singleton _) (List.disjoint_singleton.mpr ?_), by simp⟩
  intro hmem
  obtain ⟨path, -, heq⟩ := List.mem_map.mp hmem
  exact makerName_ne_conversion _ heq

end Lowered

/-! ## All declarations -/

theorem SharedTypes.names_items (types : SharedTypes) :
    types.items.flatMap Item.names = sharedTypeNames ++ headersFunction :: types.declared := by
  rw [items, List.flatMap_append, List.flatMap_cons, List.flatMap_map, List.flatMap_map,
    declared, Table.keys, List.map_eq_flatMap, List.append_assoc, ← List.singleton_append,
    ← List.append_assoc sharedTypeNames]
  simp only [Item.names, wrapperDecl, List.append_assoc, ← List.map_eq_flatMap, List.map_id']

theorem items_assemble (items : List Item) (types : SharedTypes) :
    (assemble items types).items = items ++ types.items := by
  simp [Module.items, assemble]

namespace Generated.IsMadeOf

variable {g : Generated} {lowered : List (Lowered policy)}

theorem items_eq (h : g.IsMadeOf lowered) :
    g.code.items = lowered.flatMap Lowered.items ++ g.types.items := by
  rw [h.code_eq, items_assemble]

/-- What is declared : the names of each endpoint, then those of types. -/
theorem names_eq (h : g.IsMadeOf lowered) :
    g.code.names = lowered.flatMap Lowered.names ++
      (sharedTypeNames ++ headersFunction :: g.types.declared) := by
  rw [Module.names, h.items_eq, List.flatMap_append, List.flatMap_assoc, SharedTypes.names_items]
  rfl

/-- A name of a type is none that requests declare, and is spelled as a shared type. -/
theorem of_mem_types (h : g.IsMadeOf lowered) {name : String} (hname : name ∈ g.types.names) :
    name ∉ Lowered.ownedNames lowered ∧ ∃ s, name = sharedTypeName s := by
  rw [h.types_eq, SharedTypes.mem_names_mergeTypes] at hname
  obtain ⟨t, ht, hname⟩ := hname
  obtain ⟨l, hl, rfl⟩ := List.mem_map.mp ht
  obtain ⟨method, tokens, hl'⟩ := Endpoint.requests_eq_ok l.requests_eq
  exact ⟨h.types_free l hl name hname, Endpoint.mem_names_sharedTypes hl'.sharedTypes_eq hname⟩

/-- Endpoints declare distinct names. -/
theorem nodup_flatMap_names (h : g.IsMadeOf lowered) : (lowered.flatMap Lowered.names).Nodup := by
  have howned := (List.nodup_append.mp h.nodup_ownedNames).2.1
  refine List.nodup_flatMap.mpr ⟨fun l _ => l.nodup_names, ?_⟩
  exact (List.nodup_flatMap.mp howned).2.imp fun {l l'} hdisjoint =>
    (List.disjoint_of_subset_left l.names_subset
      (List.disjoint_of_subset_right l'.names_subset hdisjoint))

/-- The types of all endpoints, and what every file has, are declared once each. -/
theorem nodup_types (h : g.IsMadeOf lowered) :
    (sharedTypeNames ++ headersFunction :: g.types.declared).Nodup := by
  have hordered : g.types.Ordered := h.types_eq ▸ SharedTypes.ordered_mergeTypes _
  have hheaders : headersFunction ∉ g.types.declared := by
    intro hname
    obtain ⟨-, s, heq⟩ := h.of_mem_types (g.types.declared_subset hname)
    exact underscore_not_mem_sharedTypeName s (heq ▸ by decide)
  refine List.Nodup.append (by decide) (List.nodup_cons.mpr ⟨hheaders, hordered.nodup_declared⟩) ?_
  intro name hshared hname
  rcases List.mem_cons.mp hname with rfl | hname
  · exact absurd hshared (by decide)
  · exact (h.of_mem_types (g.types.declared_subset hname)).1 (List.mem_append_left _ hshared)

/-- No name is declared twice. -/
theorem nodup_names (h : g.IsMadeOf lowered) : g.code.names.Nodup := by
  rw [h.names_eq]
  refine h.nodup_flatMap_names.append h.nodup_types ?_
  intro name hname htype
  obtain ⟨l, hl, hown⟩ := List.mem_flatMap.mp hname
  have howned : name ∈ lowered.flatMap fun l => ownNames l.requests :=
    List.mem_flatMap.mpr ⟨l, hl, l.names_subset hown⟩
  rcases List.mem_append.mp htype with hshared | htype
  · exact (List.nodup_append.mp h.nodup_ownedNames).2.2 name hshared name howned rfl
  rcases List.mem_cons.mp htype with rfl | htype
  · exact l.headersFunction_not_mem_names hown
  · exact (h.of_mem_types (g.types.declared_subset htype)).1 (List.mem_append_right _ howned)

/-- Records are those of endpoints. -/
theorem mem_items_of_record (h : g.IsMadeOf lowered) {r : Record}
    (hr : Item.record r ∈ g.code.items) : ∃ l ∈ lowered, Item.record r ∈ l.items := by
  rw [h.items_eq] at hr
  rcases List.mem_append.mp hr with hr | hr
  · exact List.mem_flatMap.mp hr
  · simp [SharedTypes.items] at hr

end Generated.IsMadeOf

/-- Code that is generated from endpoints of distinct names, whatever their paths, declares no name
twice : neither at the top level, where url functions, records, wrappers and text types stand beside
what every file defines, nor within a record, where constructors stand beside the conversion. -/
theorem generate_names_distinct {endpoints : List Endpoint} {g : Generated}
    (hnodup : (endpoints.map Endpoint.name).Nodup) (h : generate endpoints policy = .ok g) :
    g.code.names.Nodup ∧ ∀ r, Item.record r ∈ g.code.items →
      (r.functions.map Function.name).Nodup ∧
        "into_http_request" ∈ r.functions.map Function.name := by
  obtain ⟨-, lowered, hmade⟩ := generate_eq_ok hnodup h
  refine ⟨hmade.nodup_names, fun r hr => ?_⟩
  obtain ⟨l, -, hl⟩ := hmade.mem_items_of_record hr
  exact l.nodup_functions hl

/-- A derived endpoint shares the paths and the types of its source, and no names. -/
theorem generate_names_distinct_derived :
    ∃ (search : Endpoint) (policy : Policy) (g : Generated),
      ([search].map Endpoint.name).Nodup ∧ generate [search] policy = .ok g ∧
      g.endpoints.map Endpoint.name = ["search", "search.scroll"] ∧ g.code.names.Nodup ∧
      ∀ r, Item.record r ∈ g.code.items → (r.functions.map Function.name).Nodup ∧
        "into_http_request" ∈ r.functions.map Function.name := by
  let search : Endpoint :=
    { name := "search", methods := [.get, .post], body := some {},
      paths := [⟨"/_search", [.literal "/_search"]⟩,
        ⟨"/{index}/_search", [.literal "/", .param "index", .literal "/_search"]⟩] }
  let policy : Policy := { derived := [{ source := "search", target := "search.scroll" }] }
  have hnodup : ([search].map Endpoint.name).Nodup := List.nodup_singleton _
  obtain ⟨g, hg, hnames⟩ : ∃ g, generate [search] policy = .ok g ∧
      g.endpoints.map Endpoint.name = ["search", "search.scroll"] := by
    subst search policy
    exact ⟨_, rfl, rfl⟩
  obtain ⟨hdistinct, hrecords⟩ := generate_names_distinct hnodup hg
  exact ⟨search, policy, g, hnodup, hg, hnames, hdistinct, hrecords⟩

end Routewright
