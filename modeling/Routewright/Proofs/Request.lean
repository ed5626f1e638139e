import Routewright.Proofs.Outcome
import Routewright.Proofs.Rendering
import Routewright.Proofs.Table
import Routewright.Request

/-!
# The requests of an endpoint

Each path of an endpoint gives one request, which `Request.forPath` writes down as a whole. That it
is made tells two things more : no parameter has a name that generated functions use themselves, and
no constructor is made twice (`Request.ofPaths_eq_ok`).
-/

namespace Routewright

open Outcome

/-! ## Builders -/

theorem Segment.rename_params :
    ∀ segments : List Segment, Segment.rename segments (Segment.params segments) = segments
  | [] => rfl
  | .literal text :: rest => by rw [Segment.params, Segment.rename, Segment.rename_params rest]
  | .param name :: rest => by rw [Segment.params, Segment.rename, Segment.rename_params rest]

namespace UrlBuilder

/-- The builder for a path whose parameters keep their names. -/
def ofPath (path : UrlPath) : Strategy → UrlBuilder
  | .format => .format (holeTemplate path.segments) path.params
  | .push => .push path.segments path.params

@[simp] theorem params_ofPath (path : UrlPath) (strategy : Strategy) :
    (ofPath path strategy).params = path.params := by
  cases strategy <;> rfl

theorem build_eq_ofPath (path : UrlPath) (strategy : Strategy) :
    build path strategy none = .ok (ofPath path strategy) := by
  have hrename := Segment.rename_params path.segments
  cases strategy <;> simp [build, ofPath, UrlPath.params, hrename]

end UrlBuilder

/-! ## One path -/

namespace Request

/-- The request for one path of an endpoint. -/
def forPath (e : Endpoint) (method : HttpMethod) (tokens : List String) (strategy : Strategy)
    (path : UrlPath) : Request where
  endpoint := e.name
  typeName := requestTypeName tokens
  shapeName := shapeText path.params
  params := paramsFor path.params e.body.isSome
  urlBuilder := .ofPath path strategy
  urlFunction := urlFunctionName tokens path.params
  path := path.template
  method
  hasBody := e.body.isSome
  bodyRequired := (e.body.map (·.required)).getD false
  documentation := e.documentation

section OnePath

variable {e : Endpoint} {method : HttpMethod} {tokens : List String} {strategy : Strategy}
  {made : List (String × String)} {path : UrlPath} {r : Request}

theorem ofPath_eq_ok (h : ofPath e method tokens strategy made path = .ok r) :
    (∀ name ∈ path.params, name ∉ reservedParams) ∧
      Table.find? (makerName path.params) made = none ∧
      r = forPath e method tokens strategy path := by
  simp only [ofPath, UrlBuilder.build_eq_ofPath] at h
  cases hreserved : path.params.find? fun name => name ∈ reservedParams with
  | some name => simp [hreserved, throw, throwThe, MonadExceptOf.throw] at h
  | none =>
    cases hmade : Table.find? (makerName path.params) made with
    | some first => simp [hreserved, hmade, throw, throwThe, MonadExceptOf.throw] at h
    | none =>
      simp only [hreserved, hmade, pure_eq_ok, ok_bind, Except.ok.injEq] at h
      refine ⟨fun name hname => ?_, rfl, h.symm⟩
      simpa using List.find?_eq_none.mp hreserved name hname

/-- The parameters that a request takes from its path, each with the type that is named after it. -/
theorem pathParams_forPath :
    ((forPath e method tokens strategy path).params.filter fun p => p.role = .path) =
      path.params.map fun name => ⟨name, .path, sharedTypeName name⟩ := by
  have hpath : ∀ names : List String,
      (names.map fun name => (⟨name, .path, sharedTypeName name⟩ : RequestParam)).filter
        (fun p => p.role = .path) =
      names.map fun name => ⟨name, .path, sharedTypeName name⟩ :=
    fun names => List.filter_eq_self.mpr fun p hp => by
      obtain ⟨name, -, rfl⟩ := List.mem_map.mp hp
      rfl
  unfold forPath paramsFor
  rw [List.cons_append, List.filter_cons_of_neg (by decide), List.filter_append, hpath]
  cases e.body <;> simp

/-- The parameters that a request takes from its path are those of the path. -/
theorem shape_forPath : (forPath e method tokens strategy path).shape = path.params := by
  rw [shape, pathParams_forPath, List.map_map]
  exact List.map_id' path.params

/-- The constructor is called by the name that its path was checked under. -/
theorem maker_forPath :
    (forPath e method tokens strategy path).maker = makerName path.params := by
  rw [maker, shape_forPath, makerName, forPath, shapeText]
  split_ifs <;> rfl

end OnePath

/-! ## All paths -/

section AllPaths

variable {e : Endpoint} {method : HttpMethod} {tokens : List String} {strategy : Strategy}

/-- Paths give one request each, none of them with a reserved name, and no constructor twice. -/
theorem ofPaths_eq_ok :
    ∀ {paths : List UrlPath} {made : List (String × String)} {requests : List Request},
      ofPaths e method tokens strategy made paths = .ok requests →
      requests = paths.map (forPath e method tokens strategy) ∧
      (∀ path ∈ paths, ∀ name ∈ path.params, name ∉ reservedParams) ∧
      (paths.map fun path => makerName path.params).Nodup ∧
      ∀ path ∈ paths, makerName path.params ∉ Table.keys made
  | [], _, _, h => by
    cases h
    simp
  | path :: paths, made, requests, h => by
    rw [ofPaths] at h
    obtain ⟨r, hr, h⟩ := bind_eq_ok.mp h
    obtain ⟨rs, hrs, h⟩ := bind_eq_ok.mp h
    cases h
    obtain ⟨hfree, hnew, rfl⟩ := ofPath_eq_ok hr
    obtain ⟨rfl, hfrees, hnodup, hnews⟩ := ofPaths_eq_ok hrs
    have hother : ∀ other ∈ paths, makerName other.params ≠ makerName path.params ∧
        makerName other.params ∉ Table.keys made := fun other hother =>
      not_or.mp (mt List.mem_cons.mpr (hnews other hother))
    refine ⟨rfl, List.forall_mem_cons.mpr ⟨hfree, hfrees⟩, ?_,
      List.forall_mem_cons.mpr ⟨Table.find?_eq_none_iff.mp hnew, fun other h => (hother other h).2⟩⟩
    refine List.nodup_cons.mpr ⟨fun hmem => ?_, hnodup⟩
    obtain ⟨other, hmem, heq⟩ := List.mem_map.mp hmem
    exact (hother other hmem).1 heq

end AllPaths

end Request

/-- What an endpoint is like that has requests. -/
structure Endpoint.HasRequests (e : Endpoint) (policy : Policy) (method : HttpMethod)
    (tokens : List String) (requests : List Request) (types : SharedTypes) : Prop where
  methods_eq : e.methods = [method]
  modulePath_eq : modulePath e.name = .ok tokens
  sharedTypes_eq : e.sharedTypes = .ok types
  requests_eq :
    requests = e.paths.map (Request.forPath e method tokens (policy.strategyFor e.name))
  unreserved : ∀ path ∈ e.paths, ∀ name ∈ path.params, name ∉ reservedParams
  nodup_makers : (e.paths.map fun path => makerName path.params).Nodup

theorem Endpoint.requests_eq_ok {e : Endpoint} {policy : Policy} {requests : List Request}
    {types : SharedTypes} (h : e.requests policy = .ok (requests, types)) :
    ∃ method tokens, e.HasRequests policy method tokens requests types := by
  unfold Endpoint.requests at h
  split at h
  · next method hmethods =>
    obtain ⟨tokens, htokens, h⟩ := bind_eq_ok.mp h
    obtain ⟨types', htypes, h⟩ := bind_eq_ok.mp h
    obtain ⟨requests', hrequests, h⟩ := bind_eq_ok.mp h
    cases h
    obtain ⟨heq, hfree, hnodup, -⟩ := Request.ofPaths_eq_ok (mapError_eq_ok.mp hrequests)
    exact ⟨method, tokens, hmethods, mapError_eq_ok.mp htokens, mapError_eq_ok.mp htypes, heq,
      hfree, hnodup⟩
  · cases h

end Routewright
