import Routewright.Proofs.Generation

/-!
# Two generations side by side

What two generations have in common whose inputs differ. `Outcome.Alike` relates two computations
that fail alike or succeed with results that are alike, and is kept by each way of putting
computations together. `Endpoint.Alike` is what must be known of two endpoints one by one, and
`generate_alike` gives it for whole generations : the names that endpoints declare are compared
along the way, so it is asked that requests that are alike have the same ones.
-/

namespace Routewright

open Code Outcome

/-! ## Computations -/

namespace Outcome

variable {α α' β β' ε ε' δ δ' : Type} {E : ε → ε' → Prop} {R : α → α' → Prop} {S : β → β' → Prop}

/-- Two computations that fail with faults that are alike, or succeed with results that are. -/
inductive Alike (E : ε → ε' → Prop) (R : α → α' → Prop) : Except ε α → Except ε' α' → Prop
  | error {e : ε} {e' : ε'} (h : E e e') : Alike E R (.error e) (.error e')
  | ok {a : α} {a' : α'} (h : R a a') : Alike E R (.ok a) (.ok a')

namespace Alike

variable {x : Except ε α} {y : Except ε' α'}

theorem refl {E : ε → ε → Prop} (hE : ∀ e, E e e) (x : Except ε α) : Alike E Eq x x := by
  cases x with
  | error e => exact .error (hE e)
  | ok a => exact .ok rfl

theorem bind {f : α → Except ε β} {g : α' → Except ε' β'} (h : Alike E R x y)
    (hfg : ∀ a a', R a a' → Alike E S (f a) (g a')) : Alike E S (x >>= f) (y >>= g) := by
  cases h with
  | error h => exact .error h
  | ok h => exact hfg _ _ h

theorem mapError {D : δ → δ' → Prop} {f : ε → δ} {g : ε' → δ'} (h : Alike E R x y)
    (hfg : ∀ e e', E e e' → D (f e) (g e')) : Alike D R (x.mapError f) (y.mapError g) := by
  cases h with
  | error h => exact .error (hfg _ _ h)
  | ok h => exact .ok h

/-- What is known of the results once both are there. -/
theorem imp_of_ok {S : α → α' → Prop} (h : Alike E R x y)
    (hS : ∀ a a', x = .ok a → y = .ok a' → R a a' → S a a') : Alike E S x y := by
  cases h with
  | error h => exact .error h
  | ok h => exact .ok (hS _ _ rfl rfl h)

/-- Computations are alike if they become equal by maps of their results. -/
theorem of_map_eq {y : Except ε α'} {f : α → β} {g : α' → β} (h : x.map f = y.map g) :
    Alike Eq (fun a a' => f a = g a') x y := by
  cases x with
  | error e =>
    cases y with
    | error e' => exact .error (Except.error.inj h)
    | ok a' => cases h
  | ok a =>
    cases y with
    | error e' => cases h
    | ok a' => exact .ok (Except.ok.inj h)

/-- Lists are mapped alike when their items are, one by one. -/
theorem mapM {f : α → Except ε β} {g : α' → Except ε' β'} :
    ∀ {items : List α} {items' : List α'},
      List.Forall₂ (fun a a' => Alike E S (f a) (g a')) items items' →
      Alike E (List.Forall₂ S) (items.mapM f) (items'.mapM g)
  | [], [], .nil => .ok .nil
  | a :: items, a' :: items', .cons ha hitems => by
    rw [List.mapM_cons, List.mapM_cons]
    refine ha.bind fun b b' hb => (mapM hitems).bind fun bs bs' hbs => ?_
    exact .ok (.cons hb hbs)

/-- Of two computations that are alike, one succeeds when the other does. -/
theorem ok_iff (h : Alike E R x y) : (∃ a, x = .ok a) ↔ ∃ a', y = .ok a' := by
  cases h with
  | error h => exact iff_of_false (fun ⟨_, ha⟩ => nomatch ha) fun ⟨_, ha⟩ => nomatch ha
  | ok h => exact iff_of_true ⟨_, rfl⟩ ⟨_, rfl⟩

/-- Of two computations whose faults are equal if they fail, one fails as the other does. -/
theorem error_eq_iff {y : Except ε α'} (h : Alike Eq R x y) (e : ε) :
    x = .error e ↔ y = .error e := by
  cases h with
  | error h => rw [h, Except.error.injEq, Except.error.injEq]
  | ok h => exact iff_of_false (fun he => nomatch he) fun he => nomatch he

theorem of_error {e : ε} {e' : ε'} (h : Alike E R (.error e) (.error e')) : E e e' := by
  cases h with
  | error h => exact h

theorem of_ok {a : α} {a' : α'} (h : Alike E R (.ok a) (.ok a')) : R a a' := by
  cases h with
  | ok h => exact h

end Alike

end Outcome

/-! ## Tables -/

/-- Tables with the same keys, under which the values are alike. -/
abbrev Table.Alike {β β' : Type} (R : β → β' → Prop) :
    List (String × β) → List (String × β') → Prop :=
  List.Forall₂ fun e e' => e.1 = e'.1 ∧ R e.2 e'.2

/-- Tables stay alike when values that are alike are written under one key. -/
theorem Table.Alike.put {β β' : Type} {R : β → β' → Prop} {key : String} {value : β}
    {value' : β'} (hvalue : R value value') {table : List (String × β)}
    {table' : List (String × β')} (h : Table.Alike R table table') :
    Table.Alike R (Table.put key value table) (Table.put key value' table') := by
  induction h with
  | nil => exact .cons ⟨rfl, hvalue⟩ .nil
  | @cons e e' table table' he htable ih =>
    obtain ⟨k, v⟩ := e
    obtain ⟨k', v'⟩ := e'
    obtain ⟨hkey, hv⟩ := he
    obtain rfl : k = k' := hkey
    unfold Table.put
    split_ifs
    · exact .cons ⟨rfl, hvalue⟩ htable
    · exact .cons ⟨rfl, hv⟩ ih

/-! ## Paths -/

namespace Request

/-- Why a path is refused behind others, which no endpoint and no strategy decides. -/
def pathFault? (made : List (String × String)) (path : UrlPath) : Option GenerationFault :=
  match path.params.find? fun name => name ∈ reservedParams with
  | some name => some (.reservedPart name path.template)
  | none => (Table.find? (makerName path.params) made).map fun first =>
    .constructorClash first path.template (makerName path.params)

/-- Why some of the paths of an endpoint are refused. -/
def pathsFault? (made : List (String × String)) : List UrlPath → Option GenerationFault
  | [] => none
  | path :: rest =>
    (pathFault? made path).or (pathsFault? ((makerName path.params, path.template) :: made) rest)

variable {e : Endpoint} {method : HttpMethod} {tokens : List String} {strategy : Strategy}

theorem ofPath_eq (made : List (String × String)) (path : UrlPath) :
    ofPath e method tokens strategy made path =
      (pathFault? made path).elim (.ok (forPath e method tokens strategy path)) .error := by
  simp only [ofPath, UrlBuilder.build_eq_ofPath, pathFault?]
  cases path.params.find? fun name => name ∈ reservedParams with
  | some name => rfl
  | none => cases Table.find? (makerName path.params) made <;> rfl

/-- Paths that are not refused give their requests. -/
theorem ofPaths_eq :
    ∀ (paths : List UrlPath) (made : List (String × String)),
      ofPaths e method tokens strategy made paths =
        (pathsFault? made paths).elim (.ok (paths.map (forPath e method tokens strategy))) .error
  | [], _ => rfl
  | path :: paths, made => by
    rw [ofPaths, ofPath_eq, pathsFault?]
    cases pathFault? made path with
    | some fault => rfl
    | none =>
      rw [Option.elim_none, ok_bind, ofPaths_eq paths, Option.none_or]
      cases pathsFault? ((makerName path.params, path.template) :: made) paths <;> rfl

/-- Paths are refused for one reason, or give requests that are alike if those for the paths are. -/
theorem ofPaths_alike {e' : Endpoint} {strategy' : Strategy}
    {R : List Request → List Request → Prop} {paths : List UrlPath}
    (hR : R (paths.map (forPath e method tokens strategy))
      (paths.map (forPath e' method tokens strategy'))) :
    Outcome.Alike Eq R (ofPaths e method tokens strategy [] paths)
      (ofPaths e' method tokens strategy' [] paths) := by
  rw [ofPaths_eq, ofPaths_eq]
  cases pathsFault? [] paths with
  | some fault => exact .error rfl
  | none => exact .ok hR

end Request

/-! ## Endpoints -/

section Generations

variable {policy policy' : Policy} {E : GenerationFailure → GenerationFailure → Prop}
  {R : List Request → List Request → Prop} {I : Item → Item → Prop}

/-- Two endpoints of one name that have requests which are alike, with the same types, and that
lower such requests to declarations which are alike. -/
structure Endpoint.Alike (policy policy' : Policy)
    (E : GenerationFailure → GenerationFailure → Prop) (R : List Request → List Request → Prop)
    (I : Item → Item → Prop) (e e' : Endpoint) : Prop where
  name_eq : e.name = e'.name
  requests : Outcome.Alike E (fun a a' => R a.1 a'.1 ∧ a.2 = a'.2) (e.requests policy)
    (e'.requests policy')
  items : ∀ requests requests', R requests requests' → Outcome.Alike E (List.Forall₂ I)
    ((Request.items requests).mapError e.failure) ((Request.items requests').mapError e'.failure)

/-- What endpoints gave in two generations. -/
structure Described.Alike (R : List Request → List Request → Prop) (I : Item → Item → Prop)
    (d d' : Described) : Prop where
  requests : Table.Alike R d.requests d'.requests
  types : d.types = d'.types
  items : List.Forall₂ I d.items d'.items

/-- Endpoints that are alike one by one lead to the same in order. -/
theorem Described.ofEndpoints_alike :
    ∀ {endpoints endpoints' : List Endpoint} {before before' : Described},
      List.Forall₂ (Endpoint.Alike policy policy' E R I) endpoints endpoints' →
      Described.Alike R I before before' →
      Outcome.Alike E (Described.Alike R I) (ofEndpoints policy before endpoints)
        (ofEndpoints policy' before' endpoints')
  | [], [], _, _, .nil, hbefore => .ok hbefore
  | e :: endpoints, e' :: endpoints', before, before', .cons he hendpoints, hbefore => by
    refine he.requests.bind fun (requests, types) (requests', types') ⟨hrequests, htypes⟩ => ?_
    obtain rfl : types = types' := htypes
    refine (he.items requests requests' hrequests).bind fun items items' hitems => ?_
    refine ofEndpoints_alike hendpoints ⟨?_, ?_, ?_⟩
    · rw [he.name_eq]
      exact hbefore.requests.put hrequests
    · rw [he.name_eq, hbefore.types]
    · exact List.rel_append hbefore.items hitems

/-! ## Names -/

/-- Only the names that requests declare are entered. -/
theorem takeAll_eq_of_alike (hnames : ∀ rs rs', R rs rs' → ownNames rs = ownNames rs') :
    ∀ {requests requests' : List (String × List Request)} (owners : List (String × NameOwner)),
      Table.Alike R requests requests' → takeAll owners requests = takeAll owners requests'
  | [], [], _, .nil => rfl
  | (endpoint, rs) :: requests, (endpoint', rs') :: requests', owners, .cons ⟨hkey, hrs⟩ h => by
    obtain rfl : endpoint = endpoint' := hkey
    rw [takeAll, takeAll, hnames rs rs' hrs]
    exact congrArg _ (funext fun taken => takeAll_eq_of_alike hnames taken h)

/-! ## Whole generations -/

/-- A module with its declarations changed one by one. -/
def Code.Module.mapItems (change : Item → Item) (m : Module) : Module :=
  { m with namespaces := m.namespaces.map fun n => { n with items := n.items.map change } }

/-- Modules are equal once their declarations are changed if these are. -/
theorem Code.Module.mapItems_assemble_eq {change : Item → Item} {items items' : List Item}
    {types : SharedTypes} (h : List.Forall₂ (fun i i' => change i = change i') items items') :
    (assemble items types).mapItems change = (assemble items' types).mapItems change := by
  have hitems : items.map change = items'.map change := map_eq_map_iff_forall₂.mpr h
  simp only [assemble, mapItems, List.map_cons, hitems]

/-- What two generations gave. -/
structure Generated.Alike (N : Endpoint → Endpoint → Prop) (R : List Request → List Request → Prop)
    (I : Item → Item → Prop) (g g' : Generated) : Prop where
  endpoints : List.Forall₂ N g.endpoints g'.endpoints
  requests : Table.Alike R g.requests g'.requests
  types : g.types = g'.types
  code : ∃ items items', List.Forall₂ I items items' ∧ g.code = assemble items g.types ∧
    g'.code = assemble items' g.types

/-- Generations are alike if they normalize to endpoints that are. -/
theorem generate_alike {endpoints endpoints' : List Endpoint} {N : Endpoint → Endpoint → Prop}
    (hE : ∀ failure, E failure failure) (hnames : ∀ rs rs', R rs rs' → ownNames rs = ownNames rs')
    (hendpoint : ∀ e e', N e e' → Endpoint.Alike policy policy' E R I e e')
    (h : Outcome.Alike E (List.Forall₂ N) (normalize endpoints policy)
      (normalize endpoints' policy')) :
    Outcome.Alike E (Generated.Alike N R I) (generate endpoints policy)
      (generate endpoints' policy') := by
  refine h.bind fun normalized normalized' hnormalized => ?_
  have hendpoints := hnormalized.imp fun e e' he => hendpoint e e' he
  refine (Described.ofEndpoints_alike hendpoints ⟨.nil, rfl, .nil⟩).bind fun d d' hd => ?_
  have hchecked : checkNames d.requests d.types = checkNames d'.requests d'.types := by
    rw [checkNames, checkNames, takeAll_eq_of_alike hnames sharedOwners hd.requests, hd.types]
  rw [hchecked]
  refine (Outcome.Alike.refl hE _).bind fun _ _ _ => .ok ?_
  exact ⟨hnormalized, hd.requests, congrArg mergeTypes hd.types, d.items, d'.items, hd.items, rfl,
    by rw [hd.types]⟩

end Generations

end Routewright
