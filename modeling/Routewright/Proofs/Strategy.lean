import Routewright.Proofs.Nodes
import Routewright.Proofs.TwoRuns

/-!
# What the strategy decides

The strategy of an endpoint decides how the bodies of its url functions put a url together, and
nothing else. Both builders of a parsed path pass validation, so that no strategy fails where the
other does not, and the url functions that they become agree on all base addresses and values
(`Request.sameUrls_functionFor`). `generate_strategy_bodies` says it for whole generations under two
policies that choose strategies in any other way.
-/

namespace Routewright

open Code Outcome

/-! ## Functions that differ in their bodies -/

namespace Code

/-- A function without its body. -/
def Function.withoutBody (f : Function) : Function :=
  { f with body := [] }

/-- A declaration whose body is left out if it is a url function. -/
def Item.withoutBody : Item → Item
  | .function f => .function f.withoutBody
  | i => i

/-- The function that a declaration at the top level is. -/
def Item.urlFunction? : Item → Option Function
  | .function f => some f
  | _ => none

/-- The url functions of a module, which are its functions outside of records. -/
def Module.urlFunctions (m : Module) : List Function :=
  m.items.filterMap Item.urlFunction?

/-- Two functions that do the same on every base address and all values, in whichever unit each
measures texts, and that give a url whenever there are as many values as parameters for them. -/
def Function.SameUrls (f f' : Function) : Prop :=
  ∀ (frame frame' : Frame) (base : String) (parts : List Datum) (values : List String),
    parts.map Datum.text? = values.map some →
      f.apply frame (.text base :: parts) = f'.apply frame' (.text base :: parts) ∧
      (values.length + 1 = f.params.length →
        ∃ url, f.apply frame (.text base :: parts) = .ok (.wrapped urlType url))

/-- Without parameters that may be left out, there must be an argument for each. -/
theorem length_of_bindArguments :
    ∀ {params : List Param} {arguments : List Datum} {locals : Locals},
      (∀ p ∈ params, p.defaultsToAbsent = false) → bindArguments params arguments = .ok locals →
      params.length = arguments.length
  | [], [], _, _, _ => rfl
  | p :: params, [], _, hneeded, h => by
    rw [bindArguments, hneeded p List.mem_cons_self] at h
    cases h
  | p :: params, d :: arguments, _, hneeded, h => by
    obtain ⟨locals, hlocals, -⟩ := map_eq_ok.mp h
    have hrest := length_of_bindArguments (List.forall_mem_cons.mp hneeded).2 hlocals
    rw [List.length_cons, List.length_cons, hrest]

end Code

/-! ## One path -/

namespace Request

variable {e : Endpoint} {method : HttpMethod} {tokens : List String} {path : UrlPath}

/-- The url function of a parsed path is lowered under every strategy. -/
theorem urlFunctionDecl_forPath (hplain : Segment.PlainLiterals path.segments)
    (strategy : Strategy) :
    urlFunctionDecl (forPath e method tokens strategy path) =
      .ok (functionFor e method tokens strategy path) :=
  UrlBuilder.toFunction_ofPath hplain strategy _ _ _

/-- The strategy decides the body of a url function and nothing else. -/
theorem withoutBody_functionFor (strategy strategy' : Strategy) :
    (functionFor e method tokens strategy path).withoutBody =
      (functionFor e method tokens strategy' path).withoutBody := by
  cases strategy <;> cases strategy' <;> rfl

/-- The url functions of a parsed path give the same urls under all strategies. -/
theorem sameUrls_functionFor (hpath : UrlPath.parse path.template = .ok path)
    (hfree : ∀ name ∈ path.params, name ∉ reservedParams) (strategy strategy' : Strategy) :
    (functionFor e method tokens strategy path).SameUrls
      (functionFor e method tokens strategy' path) := by
  intro frame frame' base parts values hparts
  have hcount := Datum.length_eq hparts
  have hparams : ∀ strategy, (functionFor e method tokens strategy path).params =
      (forPath e method tokens strategy path).urlParams path := fun _ => params_functionFor
  have hlength : ∀ strategy,
      (functionFor e method tokens strategy path).params.length = path.params.length + 1 := by
    intro strategy
    rw [hparams, urlParams, List.length_map, List.length_cons, List.length_map]
  have happly : ∀ (strategy : Strategy) (frame : Frame), values.length = path.params.length →
      (functionFor e method tokens strategy path).apply frame (.text base :: parts) =
        .ok (.wrapped urlType (base ++ filledTemplate path.template values)) :=
    fun strategy frame hlen =>
      UrlBuilder.apply_functionOf hpath hfree strategy _ _ _ frame rfl hparts hlen
  by_cases hlen : values.length = path.params.length
  · rw [happly strategy frame hlen, happly strategy' frame' hlen]
    exact ⟨rfl, fun _ => ⟨_, rfl⟩⟩
  · -- arguments are missing or left over, which no body gets to see
    have hneeded : ∀ p ∈ (functionFor e method tokens strategy path).params,
        p.defaultsToAbsent = false := by
      rw [hparams]
      intro p hp
      obtain ⟨param, hparam, rfl⟩ := List.mem_map.mp hp
      rcases List.mem_cons.mp hparam with rfl | hparam
      · rfl
      · obtain ⟨name, -, rfl⟩ := List.mem_map.mp hparam
        rfl
    have hsame : (functionFor e method tokens strategy' path).params =
        (functionFor e method tokens strategy path).params := by
      rw [hparams, hparams]
      rfl
    refine ⟨?_, fun h => absurd h (by rw [hlength]; omega)⟩
    rw [Function.apply, Function.apply, hsame]
    cases hbound : bindArguments (functionFor e method tokens strategy path).params
        (.text base :: parts) with
    | error fault => rfl
    | ok locals =>
      have hbinds := length_of_bindArguments hneeded hbound
      rw [hlength, List.length_cons, hcount] at hbinds
      omega

/-! ## One endpoint -/

/-- The requests for parsed paths under two strategies. -/
inductive SamePaths : List Request → List Request → Prop
  | intro {e : Endpoint} {method : HttpMethod} {tokens : List String}
    {strategy strategy' : Strategy}
    (hparsed : ∀ path ∈ e.paths, UrlPath.parse path.template = .ok path)
    (hfree : ∀ path ∈ e.paths, ∀ name ∈ path.params, name ∉ reservedParams) :
    SamePaths (e.paths.map (forPath e method tokens strategy))
      (e.paths.map (forPath e method tokens strategy'))

theorem SamePaths.ownNames_eq {requests requests' : List Request}
    (h : SamePaths requests requests') : ownNames requests = ownNames requests' := by
  cases h
  simp only [ownNames, List.map_map]
  rfl

/-- Requests for parsed paths are lowered to a url function each and one record. -/
theorem items_forPath {paths : List UrlPath}
    (hplain : ∀ path ∈ paths, Segment.PlainLiterals path.segments) (strategy : Strategy) :
    Request.items (paths.map (forPath e method tokens strategy)) =
      .ok ((paths.map (functionFor e method tokens strategy)).map Item.function ++
        (recordsOf (paths.map (forPath e method tokens strategy))).map Item.record) := by
  cases paths with
  | nil => rfl
  | cons path paths =>
    have hfunctions : ((path :: paths).map (forPath e method tokens strategy)).mapM
        urlFunctionDecl = .ok ((path :: paths).map (functionFor e method tokens strategy)) := by
      rw [mapM_eq_ok, List.forall₂_map_left_iff, List.forall₂_map_right_iff, List.forall₂_same]
      exact fun path hpath => urlFunctionDecl_forPath (hplain path hpath) strategy
    rw [List.map_cons] at hfunctions ⊢
    rw [items, hfunctions]
    rfl

/-- The record of an endpoint does not depend on the strategy. -/
theorem recordsOf_forPath (paths : List UrlPath) (strategy strategy' : Strategy) :
    recordsOf (paths.map (forPath e method tokens strategy)) =
      recordsOf (paths.map (forPath e method tokens strategy')) := by
  have hmakers : (paths.map (forPath e method tokens strategy)).map makerDecl =
      (paths.map (forPath e method tokens strategy')).map makerDecl := by
    rw [List.map_map, List.map_map]
    rfl
  cases paths with
  | nil => rfl
  | cons path paths =>
    simp only [recordsOf, List.map_cons, List.head?_cons, Option.toList_some, List.map_nil,
      recordDecl] at hmakers ⊢
    rw [hmakers]
    rfl

end Request

/-- Declarations that differ at most in how a url function puts its url together. -/
inductive Code.Item.SameButBody : Item → Item → Prop
  | function {f f' : Function} (hsame : f.withoutBody = f'.withoutBody) (hurls : f.SameUrls f') :
    SameButBody (.function f) (.function f')
  | record (r : Record) : SameButBody (.record r) (.record r)

/-- The declarations for parsed paths differ in url functions alone. -/
theorem Request.SamePaths.items_alike {requests requests' : List Request}
    (h : SamePaths requests requests') (e : Endpoint) :
    Outcome.Alike Eq (List.Forall₂ Item.SameButBody)
      ((Request.items requests).mapError e.failure)
      ((Request.items requests').mapError e.failure) := by
  cases h with
  | @intro e' method tokens strategy strategy' hparsed hfree =>
    have hplain : ∀ path ∈ e'.paths, Segment.PlainLiterals path.segments := fun path hpath =>
      UrlPath.plainLiterals (hparsed path hpath)
    rw [items_forPath hplain, items_forPath hplain, recordsOf_forPath e'.paths strategy strategy']
    refine .ok (List.rel_append ?_ ?_)
    · rw [List.map_map, List.map_map, List.forall₂_map_left_iff, List.forall₂_map_right_iff,
        List.forall₂_same]
      exact fun path hpath => .function (withoutBody_functionFor strategy strategy')
        (sameUrls_functionFor (hparsed path hpath) (hfree path hpath) strategy strategy')
    · rw [List.forall₂_map_left_iff, List.forall₂_map_right_iff, List.forall₂_same]
      exact fun r _ => .record r

/-- Parsed paths of an endpoint are refused for one reason under two strategies, or else give
requests that differ in nothing but the strategy. -/
theorem Request.ofPaths_samePaths {e : Endpoint}
    (hparsed : ∀ path ∈ e.paths, UrlPath.parse path.template = .ok path)
    (method : HttpMethod) (tokens : List String) (strategy strategy' : Strategy) :
    Outcome.Alike Eq SamePaths (ofPaths e method tokens strategy [] e.paths)
      (ofPaths e method tokens strategy' [] e.paths) := by
  have halike : Outcome.Alike Eq (fun _ _ => True) (ofPaths e method tokens strategy [] e.paths)
      (ofPaths e method tokens strategy' [] e.paths) := ofPaths_alike trivial
  refine halike.imp_of_ok fun requests requests' h h' _ => ?_
  obtain ⟨rfl, hfree, -⟩ := ofPaths_eq_ok h
  obtain ⟨rfl, -⟩ := ofPaths_eq_ok h'
  exact .intro hparsed hfree

/-- An endpoint with parsed paths has the same requests under two policies, strategies apart. -/
theorem Endpoint.alike_of_parsed {e : Endpoint}
    (hparsed : ∀ path ∈ e.paths, UrlPath.parse path.template = .ok path) (policy policy' : Policy) :
    Endpoint.Alike policy policy' Eq Request.SamePaths Item.SameButBody e e where
  name_eq := rfl
  requests := by
    unfold Endpoint.requests
    split
    · next method _ =>
      refine (Alike.refl (fun _ => rfl) _).bind fun tokens _ htokens => ?_
      subst htokens
      refine (Alike.refl (fun _ => rfl) _).bind fun types _ htypes => ?_
      subst htypes
      have hrequests := (Request.ofPaths_samePaths hparsed method tokens
        (policy.strategyFor e.name) (policy'.strategyFor e.name)).mapError
        fun _ _ hfault => congrArg e.failure hfault
      exact hrequests.bind fun _ _ h => .ok ⟨h, rfl⟩
    · exact .error rfl
  items _ _ h := h.items_alike e

/-! ## Whole generations -/

namespace Code

variable {items items' : List Item} {types : SharedTypes}

/-- Declarations that differ in bodies alone are equal without them. -/
theorem Item.SameButBody.withoutBody_eq {i i' : Item} (h : i.SameButBody i') :
    i.withoutBody = i'.withoutBody := by
  cases h with
  | function hsame _ => exact congrArg Item.function hsame
  | record r => rfl

/-- No shared type is declared by a function. -/
theorem urlFunctions_items (types : SharedTypes) :
    types.items.filterMap Item.urlFunction? = [] := by
  rw [List.filterMap_eq_nil_iff]
  intro i hi
  rw [SharedTypes.items, List.mem_append, List.mem_cons, List.mem_map, List.mem_map] at hi
  obtain (rfl | ⟨w, -, rfl⟩) | ⟨n, -, rfl⟩ := hi <;> rfl

/-- Url functions correspond in modules of declarations that do. -/
theorem Module.sameUrls (h : List.Forall₂ Item.SameButBody items items') :
    List.Forall₂ Function.SameUrls (assemble items types).urlFunctions
      (assemble items' types).urlFunctions := by
  rw [urlFunctions, urlFunctions, items_assemble, items_assemble, List.filterMap_append,
    List.filterMap_append, urlFunctions_items, List.append_nil, List.append_nil]
  induction h with
  | nil => exact .nil
  | cons hi _ ih =>
    cases hi with
    | function _ hurls => exact .cons hurls ih
    | record r => exact ih

end Code

/-- Strategies take no part in normalization. -/
theorem normalize_alike_of_parsed {endpoints : List Endpoint}
    (hparsed : ∀ e ∈ endpoints, ∀ path ∈ e.paths, UrlPath.parse path.template = .ok path)
    (policy : Policy) (strategy : Strategy) (overrides : List (String × Strategy)) :
    Outcome.Alike Eq
      (List.Forall₂ fun e e' =>
        e = e' ∧ ∀ path ∈ e.paths, UrlPath.parse path.template = .ok path)
      (normalize endpoints policy) (normalize endpoints { policy with strategy, overrides }) := by
  refine (Alike.refl (fun _ => rfl) (normalize endpoints policy)).imp_of_ok
    fun normalized normalized' h h' _ => ?_
  obtain rfl : normalized = normalized' := Except.ok.inj (h.symm.trans h')
  rw [List.forall₂_same]
  exact fun e he => ⟨rfl, forall_paths_of_normalize h hparsed e he⟩

/-- Two policies that differ in strategies alone fail for the same reason on endpoints with parsed
paths, or both succeed, and then the code they give is equal up to the bodies of url functions,
which assemble the same urls. -/
theorem generate_strategy_bodies {endpoints : List Endpoint}
    (hparsed : ∀ e ∈ endpoints, ∀ path ∈ e.paths, UrlPath.parse path.template = .ok path)
    (policy : Policy) (strategy : Strategy) (overrides : List (String × Strategy)) :
    (∀ failure, generate endpoints policy = .error failure ↔
      generate endpoints { policy with strategy, overrides } = .error failure) ∧
    ∀ g g', generate endpoints policy = .ok g →
      generate endpoints { policy with strategy, overrides } = .ok g' →
      g.endpoints = g'.endpoints ∧ g.types = g'.types ∧
      g.code.mapItems Item.withoutBody = g'.code.mapItems Item.withoutBody ∧
      List.Forall₂ Function.SameUrls g.code.urlFunctions g'.code.urlFunctions := by
  have hendpoint : ∀ e e', (e = e' ∧ ∀ path ∈ e.paths, UrlPath.parse path.template = .ok path) →
      Endpoint.Alike policy { policy with strategy, overrides } Eq Request.SamePaths
        Item.SameButBody e e' := by
    rintro e _ ⟨rfl, hpaths⟩
    exact Endpoint.alike_of_parsed hpaths policy _
  have halike := generate_alike (fun _ => rfl) (fun _ _ h => Request.SamePaths.ownNames_eq h)
    hendpoint (normalize_alike_of_parsed hparsed policy strategy overrides)
  refine ⟨halike.error_eq_iff, fun g g' hg hg' => ?_⟩
  rw [hg, hg'] at halike
  obtain ⟨hendpoints, -, htypes, items, items', hitems, hcode, hcode'⟩ := halike.of_ok
  refine ⟨?_, htypes, ?_, ?_⟩
  · rw [← List.forall₂_eq_eq_eq]
    exact hendpoints.imp fun _ _ h => h.1
  · rw [hcode, hcode']
    exact Module.mapItems_assemble_eq (hitems.imp fun _ _ h => h.withoutBody_eq)
  · rw [hcode, hcode']
    exact Module.sameUrls hitems

/-- A url that one policy pushes together and another formats. -/
theorem generate_strategy_bodies_overridden :
    ∃ (e : Endpoint) (g g' : Generated),
      (∀ path ∈ e.paths, UrlPath.parse path.template = .ok path) ∧
      generate [e] {} = .ok g ∧ generate [e] { overrides := [("get", .format)] } = .ok g' ∧
      g.code.urlFunctions.map (·.body.length) = [6] ∧
      g'.code.urlFunctions.map (·.body.length) = [1] ∧
      g.code.mapItems Item.withoutBody = g'.code.mapItems Item.withoutBody ∧
      List.Forall₂ Function.SameUrls g.code.urlFunctions g'.code.urlFunctions := by
  let e : Endpoint :=
    { name := "get", methods := [.get],
      paths := [⟨"/{index}/_doc", [.literal "/", .param "index", .literal "/_doc"]⟩] }
  have hparsed : ∀ path ∈ e.paths, UrlPath.parse path.template = .ok path := by
    rw [List.forall_mem_singleton]
    decide
  obtain ⟨g, g', hg, hg', hpush, hformat⟩ : ∃ g g', generate [e] {} = .ok g ∧
      generate [e] { overrides := [("get", .format)] } = .ok g' ∧
      g.code.urlFunctions.map (·.body.length) = [6] ∧
      g'.code.urlFunctions.map (·.body.length) = [1] := by
    subst e
    exact ⟨_, _, rfl, rfl, rfl, rfl⟩
  obtain ⟨-, -, hsame, hurls⟩ := (generate_strategy_bodies (by rwa [List.forall_mem_singleton]) {}
    .push [("get", .format)]).2 g g' hg hg'
  exact ⟨e, g, g', hparsed, hg, hg', hpush, hformat, hsame, hurls⟩

end Routewright
