import Routewright.Proofs.Names
import Routewright.Proofs.TwoRuns

/-!
# Constructors of an endpoint

Each path of an endpoint leads to a constructor that is named after its shape. The name does not
tell shapes apart that are joined to the same text, so that an endpoint is refused that has two such
paths (`UrlPath.clash_iff`, `Request.exists_of_pathsFault?`). That is all that may be wrong with the
paths of an endpoint whose parts have types and whose parameters are not reserved, and without it
there is one request for each path (`requests_clash_iff`).
-/

namespace Routewright

open Outcome

/-! ## Shapes that are joined to the same text -/

/-- Two paths that cannot both have a constructor : their shapes are the same, or differ, have
parameters, and are the same text when these are joined. -/
def UrlPath.Clash (p q : UrlPath) : Prop :=
  p.params = q.params ∨ (p.params ≠ q.params ∧ p.params ≠ [] ∧ q.params ≠ [] ∧
    Text.join "_" p.params = Text.join "_" q.params)

/-- No shape with parameters gives the constructor of a shape without. -/
theorem makerName_eq_plainMaker_iff {shape : List String} :
    makerName shape = plainMaker ↔ shape = [] := by
  refine ⟨fun h => ?_, fun h => h ▸ rfl⟩
  by_contra hne
  rw [makerName, if_neg (mt List.isEmpty_iff.mp hne)] at h
  have hhead := congrArg (fun s : String => s.toList.head?) h
  simp [plainMaker] at hhead

theorem makerName_of_ne_nil {shape : List String} (h : shape ≠ []) :
    makerName shape = "for_" ++ Text.join "_" shape :=
  if_neg (mt List.isEmpty_iff.mp h)

/-- Two paths clash just when their constructors have one name. -/
theorem UrlPath.clash_iff {p q : UrlPath} :
    p.Clash q ↔ makerName p.params = makerName q.params := by
  constructor
  · rintro (heq | ⟨-, hp, hq, heq⟩)
    · rw [heq]
    · rw [makerName_of_ne_nil hp, makerName_of_ne_nil hq, heq]
  · intro heq
    by_cases hsame : p.params = q.params
    · exact .inl hsame
    have hempty : p.params = [] ↔ q.params = [] := by
      rw [← makerName_eq_plainMaker_iff, heq, makerName_eq_plainMaker_iff]
    have hp : p.params ≠ [] := fun hnil => hsame (hnil.trans (hempty.mp hnil).symm)
    have hq : q.params ≠ [] := mt hempty.mpr hp
    rw [makerName_of_ne_nil hp, makerName_of_ne_nil hq, String.append_right_inj] at heq
    exact .inr ⟨hsame, hp, hq, heq⟩

/-- Constructors have distinct names just when no two paths clash. -/
theorem nodup_makers_iff {paths : List UrlPath} :
    (paths.map fun path => makerName path.params).Nodup ↔
      ¬∃ p q : UrlPath, [p, q].Sublist paths ∧ p.Clash q := by
  rw [List.Nodup, List.pairwise_map, List.pairwise_iff_forall_sublist]
  simp only [UrlPath.clash_iff, not_exists, not_and]

/-! ## Paths that are refused -/

namespace Request

/-- The constructors of paths as they are recorded, each with the template that it is for. -/
def recorded (paths : List UrlPath) : List (String × String) :=
  paths.map fun path => (makerName path.params, path.template)

/-- A path without reserved parameters is refused for a path with the same constructor, and for
nothing else. -/
theorem pathFault?_eq {path : UrlPath} (hfree : ∀ name ∈ path.params, name ∉ reservedParams)
    (made : List (String × String)) :
    pathFault? made path = (Table.find? (makerName path.params) made).map fun first =>
      .constructorClash first path.template (makerName path.params) := by
  have hnone : (path.params.find? fun name => name ∈ reservedParams) = none :=
    List.find?_eq_none.mpr fun name hname => by simpa using hfree name hname
  rw [pathFault?, hnone]

/-- Behind paths that were `seen`, the last first, paths are refused for two of all these that lead
to one constructor. -/
theorem exists_of_pathsFault? {fault : GenerationFault} :
    ∀ (paths seen : List UrlPath),
      (∀ path ∈ paths, ∀ name ∈ path.params, name ∉ reservedParams) →
      pathsFault? (recorded seen) paths = some fault →
      ∃ p q : UrlPath, [p, q].Sublist (seen.reverse ++ paths) ∧ p.Clash q ∧
        fault = .constructorClash p.template q.template (makerName q.params)
  | path :: paths, seen, hfree, h => by
    obtain ⟨hpath, hpaths⟩ := List.forall_mem_cons.mp hfree
    rw [pathsFault?, pathFault?_eq hpath] at h
    rcases Option.or_eq_some_iff.mp h with h | ⟨-, h⟩
    · obtain ⟨first, hfirst, rfl⟩ := Option.map_eq_some_iff.mp h
      obtain ⟨p, hp, heq⟩ := List.mem_map.mp (Table.mem_of_find? hfirst)
      obtain ⟨hmaker, rfl⟩ := Prod.mk.inj heq
      refine ⟨p, path, ?_, UrlPath.clash_iff.mpr hmaker, rfl⟩
      exact (List.singleton_sublist.mpr (List.mem_reverse.mpr hp)).append
        (List.singleton_sublist.mpr List.mem_cons_self)
    · have hrest := exists_of_pathsFault? paths (path :: seen) hpaths h
      rwa [List.reverse_cons, List.append_assoc, List.singleton_append] at hrest

/-- What the request for a path of an endpoint is like : its parameters are the base address, those
of the path, and the body if there is one, and its builder binds those of the path. -/
structure IsFor (e : Endpoint) (path : UrlPath) (r : Request) : Prop where
  path_eq : r.path = path.template
  params_eq : r.params.map (fun p => (p.name, p.role)) =
    (baseParam, .base) :: path.params.map (fun name => (name, .path)) ++
      if e.body.isSome then [(bodyParam, .body)] else []
  builder_params : r.urlBuilder.params = path.params

theorem isFor_forPath {e : Endpoint} {method : HttpMethod} {tokens : List String}
    {strategy : Strategy} (path : UrlPath) :
    IsFor e path (forPath e method tokens strategy path) where
  path_eq := rfl
  params_eq := by
    rw [forPath, paramsFor, List.map_append, List.map_cons, List.map_map]
    cases e.body <;> rfl
  builder_params := UrlBuilder.params_ofPath path strategy

end Request

/-! ## All requests -/

/-- Url parts have shared types just when each gives the name of a type and has a host type. -/
theorem SharedTypes.exists_ofParts_iff {e : Endpoint} :
    ∀ (parts : List String) (types : SharedTypes),
      (∃ after, ofParts e types parts = .ok after) ↔ ∀ part ∈ parts,
        isTypeName (sharedTypeName part) = true ∧ ∃ host, e.partHost part = .ok host
  | [], types => iff_of_true ⟨types, rfl⟩ nofun
  | part :: parts, types => by
    rw [List.forall_mem_cons]
    constructor
    · rintro ⟨after, h⟩
      obtain ⟨hname, host, hhost, h⟩ := ofParts_cons_eq_ok h
      exact ⟨⟨hname, host, hhost⟩, (exists_ofParts_iff parts _).mp ⟨after, h⟩⟩
    · rintro ⟨⟨hname, host, hhost⟩, hparts⟩
      obtain ⟨after, h⟩ := (exists_ofParts_iff parts (types.addPart part host)).mpr hparts
      refine ⟨after, ?_⟩
      rw [ofParts, hname, hhost]
      exact h

namespace Endpoint

variable {e : Endpoint} {method : HttpMethod} {tokens : List String} {types : SharedTypes}

/-- An endpoint whose name, method and types are right has requests unless a path is refused. -/
theorem requests_eq (policy : Policy) (hmethod : e.methods = [method])
    (hname : modulePath e.name = .ok tokens) (htypes : e.sharedTypes = .ok types) :
    e.requests policy = (Request.pathsFault? [] e.paths).elim
      (.ok (e.paths.map (Request.forPath e method tokens (policy.strategyFor e.name)), types))
      fun fault => .error (e.failure fault) := by
  rw [requests, hmethod]
  dsimp only
  simp only [hname, htypes, Except.mapError, ok_bind, Request.ofPaths_eq]
  cases Request.pathsFault? [] e.paths <;> rfl

end Endpoint

/-- An endpoint of one method, whose name is a module path, whose parameters are not reserved and
whose parts all have wrapper types is refused for two constructors of one name just when two of its
paths have one shape, or different shapes with parameters that are joined to the same text; then the
failure names these paths. Otherwise it has one request for each path, in order, each with the
parameters of its path, and no two constructors or url functions have one name. -/
theorem requests_clash_iff (e : Endpoint) (policy : Policy) {method : HttpMethod}
    {tokens : List String} (hmethod : e.methods = [method])
    (hname : modulePath e.name = .ok tokens)
    (hfree : ∀ path ∈ e.paths, ∀ name ∈ path.params, name ∉ reservedParams)
    (hparts : ∀ part ∈ e.partNames,
      isTypeName (sharedTypeName part) = true ∧ ∃ host, e.partHost part = .ok host) :
    ((∃ first second maker,
        e.requests policy = .error (e.failure (.constructorClash first second maker))) ↔
      ∃ p q : UrlPath, [p, q].Sublist e.paths ∧ p.Clash q) ∧
    (∀ failure, e.requests policy = .error failure →
      ∃ p q : UrlPath, [p, q].Sublist e.paths ∧ p.Clash q ∧
        failure = e.failure (.constructorClash p.template q.template (makerName q.params))) ∧
    ((∃ requests types, e.requests policy = .ok (requests, types)) ↔
      ¬∃ p q : UrlPath, [p, q].Sublist e.paths ∧ p.Clash q) ∧
    ∀ requests types, e.requests policy = .ok (requests, types) →
      List.Forall₂ (Request.IsFor e) e.paths requests ∧
      requests.map (fun r => (r.maker, r.path)) = Request.recorded e.paths ∧
      (requests.map Request.maker).Nodup ∧ (requests.map Request.urlFunction).Nodup := by
  obtain ⟨types, htypes⟩ := (SharedTypes.exists_ofParts_iff _ _).mpr hparts
  have heq := Endpoint.requests_eq policy hmethod hname htypes
  have herror : ∀ failure, e.requests policy = .error failure →
      ∃ p q : UrlPath, [p, q].Sublist e.paths ∧ p.Clash q ∧
        failure = e.failure (.constructorClash p.template q.template (makerName q.params)) := by
    intro failure h
    cases hfault : Request.pathsFault? [] e.paths with
    | none =>
      rw [heq, hfault] at h
      cases h
    | some fault =>
      rw [heq, hfault] at h
      cases h
      obtain ⟨p, q, hsub, hclash, rfl⟩ := Request.exists_of_pathsFault? e.paths [] hfree hfault
      exact ⟨p, q, hsub, hclash, rfl⟩
  have hok : (∃ requests types, e.requests policy = .ok (requests, types)) →
      ¬∃ p q : UrlPath, [p, q].Sublist e.paths ∧ p.Clash q := by
    rintro ⟨requests, types, h⟩
    obtain ⟨_, _, hrequests⟩ := Endpoint.requests_eq_ok h
    exact nodup_makers_iff.mp hrequests.nodup_makers
  refine ⟨⟨?_, ?_⟩, herror, ⟨hok, ?_⟩, ?_⟩
  · rintro ⟨first, second, maker, h⟩
    obtain ⟨p, q, hsub, hclash, -⟩ := herror _ h
    exact ⟨p, q, hsub, hclash⟩
  · intro hclash
    rcases h : e.requests policy with failure | ⟨requests, types⟩
    · obtain ⟨p, q, -, -, rfl⟩ := herror failure h
      exact ⟨_, _, _, rfl⟩
    · exact absurd hclash (hok ⟨requests, types, h⟩)
  · intro hdistinct
    rcases h : e.requests policy with failure | ⟨requests, types⟩
    · obtain ⟨p, q, hsub, hclash, -⟩ := herror failure h
      exact absurd ⟨p, q, hsub, hclash⟩ hdistinct
    · exact ⟨requests, types, rfl⟩
  · intro requests types h
    obtain ⟨_, _, hrequests⟩ := Endpoint.requests_eq_ok h
    have hrecorded : requests.map (fun r => (r.maker, r.path)) = Request.recorded e.paths := by
      rw [hrequests.requests_eq, List.map_map]
      refine List.map_congr_left fun path _ => ?_
      rw [Function.comp_apply, Request.maker_forPath]
      rfl
    refine ⟨?_, hrecorded, ?_, hrequests.nodup_urlFunctions⟩
    · rw [hrequests.requests_eq, List.forall₂_map_right_iff]
      exact List.forall₂_same.mpr fun path _ => Request.isFor_forPath path
    · have hnames := congrArg (List.map Prod.fst) hrecorded
      rw [Request.recorded, List.map_map, List.map_map] at hnames
      exact hnames ▸ hrequests.nodup_makers

/-- The shapes of `/{a_b}` and `/{a}/{b}` are joined to the same text, so that an endpoint with both
is refused. A parameter called `new` leads to another constructor than no parameter does. -/
theorem requests_clash_joined :
    ∃ (clashing distinct : Endpoint) (requests : List Request) (types : SharedTypes),
      shapesOf clashing.paths = [["a_b"], ["a", "b"]] ∧
      clashing.requests {} =
        .error (clashing.failure (.constructorClash "/{a_b}" "/{a}/{b}" "for_a_b")) ∧
      (∃ p q : UrlPath, [p, q].Sublist clashing.paths ∧ p.Clash q) ∧
      shapesOf distinct.paths = [[], ["new"]] ∧
      distinct.requests {} = .ok (requests, types) ∧
      List.Forall₂ (Request.IsFor distinct) distinct.paths requests ∧
      requests.map (fun r => (r.maker, r.path)) = [("new", "/"), ("for_new", "/{new}")] ∧
      (requests.map Request.maker).Nodup ∧ (requests.map Request.urlFunction).Nodup := by
  let joined : UrlPath := ⟨"/{a_b}", [.literal "/", .param "a_b"]⟩
  let apart : UrlPath := ⟨"/{a}/{b}", [.literal "/", .param "a", .literal "/", .param "b"]⟩
  let clashing : Endpoint := { name := "get", methods := [.get], paths := [joined, apart] }
  let distinct : Endpoint :=
    { name := "indices.get", methods := [.get], parts := [("new", { kind := .long })]
      paths := [⟨"/", [.literal "/"]⟩, ⟨"/{new}", [.literal "/", .param "new"]⟩], body := some {} }
  have hplain (part : String) (hpart : Table.find? part clashing.parts = none) :
      ∃ host, clashing.partHost part = .ok host :=
    ⟨HostType.plain, by rw [Endpoint.partHost, hpart]⟩
  have hget : modulePath "get" = .ok ["get"] := by decide
  have hindices : modulePath "indices.get" = .ok ["indices", "get"] := by decide
  have hfails : clashing.requests {} =
      .error (clashing.failure (.constructorClash "/{a_b}" "/{a}/{b}" "for_a_b")) := by
    subst clashing joined apart
    rfl
  obtain ⟨hrefused, -, -, -⟩ := requests_clash_iff clashing {} rfl hget
    (by decide) (List.forall_mem_cons.mpr ⟨⟨by decide, hplain "a_b" rfl⟩,
      List.forall_mem_cons.mpr ⟨⟨by decide, hplain "a" rfl⟩,
        List.forall_mem_singleton.mpr ⟨by decide, hplain "b" rfl⟩⟩⟩)
  obtain ⟨-, -, hmade, hrequests⟩ := requests_clash_iff distinct {} rfl
    hindices (by decide) (List.forall_mem_singleton.mpr ⟨by decide, { kind := .i64 }, rfl⟩)
  have hnone : ¬∃ p q : UrlPath, [p, q].Sublist distinct.paths ∧ p.Clash q :=
    nodup_makers_iff.mp (by decide)
  obtain ⟨requests, types, hok⟩ := hmade.mpr hnone
  obtain ⟨hall, hmakers, hnodup⟩ := hrequests requests types hok
  exact ⟨clashing, distinct, requests, types, rfl, hfails, hrefused.mp ⟨_, _, _, hfails⟩, rfl, hok,
    hall, hmakers, hnodup⟩

end Routewright
