import Routewright.Generation
import Routewright.Proofs.Normalization
import Routewright.Proofs.Request
import Routewright.Proofs.Table

/-!
# What a generation does

Each normalized endpoint is lowered by itself (`Lowered`), and since endpoints have distinct names,
what was made for one is never written over by another. The names that endpoints declare are then
entered into one table, in which no name is found before it is entered (`checkNames_eq_ok`).
`generate_eq_ok` puts this together.
-/

namespace Routewright

open Code Outcome

/-- An endpoint with the requests, types and declarations that it leads to. -/
structure Lowered (policy : Policy) where
  endpoint : Endpoint
  requests : List Request
  types : SharedTypes
  items : List Item
  requests_eq : endpoint.requests policy = .ok (requests, types)
  items_eq : Request.items requests = .ok items

variable {policy : Policy}

namespace Lowered

/-- The requests of endpoints under their names. -/
def requestTable (lowered : List (Lowered policy)) : List (String × List Request) :=
  lowered.map fun l => (l.endpoint.name, l.requests)

/-- The types of endpoints under their names. -/
def typeTable (lowered : List (Lowered policy)) : List (String × SharedTypes) :=
  lowered.map fun l => (l.endpoint.name, l.types)

/-- All names that count as declared when a name is checked. -/
def ownedNames (lowered : List (Lowered policy)) : List String :=
  sharedTypeNames ++ lowered.flatMap fun l => ownNames l.requests

end Lowered

/-! ## Endpoints one after the other -/

/-- Endpoints are lowered one by one and entered under their names. Their declarations follow each
other, also where entries are written over. -/
theorem Described.ofEndpoints_eq_foldl :
    ∀ {endpoints : List Endpoint} {before after : Described},
      ofEndpoints policy before endpoints = .ok after →
      ∃ lowered : List (Lowered policy), lowered.map Lowered.endpoint = endpoints ∧
        after.requests = (Lowered.requestTable lowered).foldl
          (fun table e => Table.put e.1 e.2 table) before.requests ∧
        after.types = (Lowered.typeTable lowered).foldl
          (fun table e => Table.put e.1 e.2 table) before.types ∧
        after.items = before.items ++ lowered.flatMap Lowered.items
  | [], _, _, h => by
    cases h
    exact ⟨[], rfl, rfl, rfl, (List.append_nil _).symm⟩
  | e :: endpoints, before, after, h => by
    obtain ⟨⟨requests, types⟩, hrequests, h⟩ := bind_eq_ok.mp h
    obtain ⟨items, hitems, h⟩ := bind_eq_ok.mp h
    obtain ⟨lowered, rfl, hafterRequests, hafterTypes, hafterItems⟩ := ofEndpoints_eq_foldl h
    refine ⟨⟨e, requests, types, items, hrequests, mapError_eq_ok.mp hitems⟩ :: lowered, rfl,
      hafterRequests, hafterTypes, ?_⟩
    rw [hafterItems, List.flatMap_cons, List.append_assoc]

/-- Endpoints whose names are new add what they lead to at the end. -/
theorem Described.ofEndpoints_eq_ok {endpoints : List Endpoint} {before after : Described}
    (h : ofEndpoints policy before endpoints = .ok after)
    (hnodup : (endpoints.map Endpoint.name).Nodup)
    (hnew : ∀ e ∈ endpoints,
      e.name ∉ Table.keys before.requests ∧ e.name ∉ Table.keys before.types) :
    ∃ lowered : List (Lowered policy), lowered.map Lowered.endpoint = endpoints ∧
      after.requests = before.requests ++ Lowered.requestTable lowered ∧
      after.types = before.types ++ Lowered.typeTable lowered ∧
      after.items = before.items ++ lowered.flatMap Lowered.items := by
  obtain ⟨lowered, rfl, hrequests, htypes, hitems⟩ := ofEndpoints_eq_foldl h
  have hkeys : Table.keys (Lowered.requestTable lowered) =
      (lowered.map Lowered.endpoint).map Endpoint.name := by
    simp [Table.keys, Lowered.requestTable, Function.comp_def]
  have htypeKeys : Table.keys (Lowered.typeTable lowered) =
      (lowered.map Lowered.endpoint).map Endpoint.name := by
    simp [Table.keys, Lowered.typeTable, Function.comp_def]
  refine ⟨lowered, rfl, hrequests.trans (Table.foldl_put_of_not_mem (hkeys ▸ hnodup) ?_),
    htypes.trans (Table.foldl_put_of_not_mem (htypeKeys ▸ hnodup) ?_), hitems⟩
  · rw [hkeys, List.forall_mem_map]
    exact fun e he => (hnew e he).1
  · rw [htypeKeys, List.forall_mem_map]
    exact fun e he => (hnew e he).2

/-! ## Names that are taken -/

theorem checkFree_eq_ok {owners : List (String × NameOwner)} {endpoint name : String}
    {fault : String → NameOwner → GenerationFault} :
    checkFree owners endpoint fault name = .ok () ↔ name ∉ Table.keys owners := by
  rw [← Table.find?_eq_none_iff, checkFree]
  cases Table.find? name owners <;> simp

/-- Names are taken only if they are new and distinct. -/
theorem takeNames_eq_ok {endpoint : String} :
    ∀ {names : List String} {owners after : List (String × NameOwner)},
      takeNames endpoint owners names = .ok after → (Table.keys owners).Nodup →
      Table.keys after = Table.keys owners ++ names ∧ (Table.keys after).Nodup
  | [], _, _, h, hnodup => by
    cases h
    exact ⟨(List.append_nil _).symm, hnodup⟩
  | name :: names, owners, after, h, hnodup => by
    obtain ⟨_, hfree, h⟩ := bind_eq_ok.mp h
    have hkeys : Table.keys (owners ++ [(name, .endpoint endpoint)]) =
        Table.keys owners ++ [name] := List.map_append
    obtain ⟨hafter, hnodup⟩ := takeNames_eq_ok h (by
      rw [hkeys]
      exact hnodup.append (List.nodup_singleton name)
        (List.disjoint_singleton.mpr (checkFree_eq_ok.mp hfree)))
    exact ⟨by rw [hafter, hkeys, List.append_assoc, List.singleton_append], hnodup⟩

/-- Over all endpoints, names are taken only if they are new and distinct. -/
theorem takeAll_eq_ok :
    ∀ {requests : List (String × List Request)} {owners after : List (String × NameOwner)},
      takeAll owners requests = .ok after → (Table.keys owners).Nodup →
      Table.keys after = Table.keys owners ++ requests.flatMap (fun r => ownNames r.2) ∧
        (Table.keys after).Nodup
  | [], _, _, h, hnodup => by
    cases h
    exact ⟨(List.append_nil _).symm, hnodup⟩
  | (endpoint, requests) :: rest, owners, after, h, hnodup => by
    obtain ⟨next, hnext, h⟩ := bind_eq_ok.mp h
    obtain ⟨hkeys, hnodup⟩ := takeNames_eq_ok hnext hnodup
    obtain ⟨hafter, hnodup⟩ := takeAll_eq_ok h hnodup
    exact ⟨by rw [hafter, hkeys, List.append_assoc, List.flatMap_cons], hnodup⟩

/-- Checked names are distinct over all endpoints, and no type has the name of a request. -/
theorem checkNames_eq_ok {lowered : List (Lowered policy)}
    (h : checkNames (Lowered.requestTable lowered) (Lowered.typeTable lowered) = .ok ()) :
    (Lowered.ownedNames lowered).Nodup ∧
      ∀ l ∈ lowered, ∀ name ∈ l.types.names, name ∉ Lowered.ownedNames lowered := by
  obtain ⟨owners, howners, h⟩ := bind_eq_ok.mp h
  obtain ⟨hkeys, hnodup⟩ := takeAll_eq_ok howners (by decide)
  replace hkeys : Table.keys owners = Lowered.ownedNames lowered := by
    rw [hkeys, Lowered.requestTable, List.flatMap_map]
    rfl
  refine ⟨hkeys ▸ hnodup, fun l hl name hname => ?_⟩
  have htypes := forM_eq_ok.mp h _ (List.mem_map.mpr ⟨l, hl, rfl⟩)
  rw [← hkeys]
  exact checkFree_eq_ok.mp (forM_eq_ok.mp htypes name hname)

/-! ## The whole generation -/

/-- What a generation gives, put together from its endpoints. -/
structure Generated.IsMadeOf (g : Generated) (lowered : List (Lowered policy)) : Prop where
  endpoints_eq : g.endpoints = lowered.map Lowered.endpoint
  types_eq : g.types = mergeTypes (Lowered.typeTable lowered)
  code_eq : g.code = assemble (lowered.flatMap Lowered.items) g.types
  nodup_ownedNames : (Lowered.ownedNames lowered).Nodup
  types_free : ∀ l ∈ lowered, ∀ name ∈ l.types.names, name ∉ Lowered.ownedNames lowered

/-- A generation normalizes endpoints and declares what each of them leads to, whatever their
names. Types that it merges are those of endpoints, where a later endpoint may have taken the place
of one with its name. -/
theorem items_of_generate {endpoints : List Endpoint} {g : Generated}
    (h : generate endpoints policy = .ok g) :
    normalize endpoints policy = .ok g.endpoints ∧
      ∃ lowered : List (Lowered policy), g.endpoints = lowered.map Lowered.endpoint ∧
        g.code = assemble (lowered.flatMap Lowered.items) g.types ∧
        ∃ types, types ⊆ Lowered.typeTable lowered ∧ g.types = mergeTypes types := by
  obtain ⟨normalized, hnormalized, h⟩ := bind_eq_ok.mp h
  obtain ⟨described, hdescribed, h⟩ := bind_eq_ok.mp h
  obtain ⟨_, -, h⟩ := bind_eq_ok.mp h
  cases h
  obtain ⟨lowered, rfl, -, htypes, hitems⟩ := Described.ofEndpoints_eq_foldl hdescribed
  refine ⟨hnormalized, lowered, rfl, by rw [hitems, List.nil_append], _, fun t ht => ?_, rfl⟩
  rw [htypes] at ht
  exact (Table.mem_foldl_put ht).resolve_right List.not_mem_nil

/-- A generation from endpoints of distinct names normalizes them and is made of the results. -/
theorem generate_eq_ok {endpoints : List Endpoint} {g : Generated}
    (hnodup : (endpoints.map Endpoint.name).Nodup) (h : generate endpoints policy = .ok g) :
    normalize endpoints policy = .ok g.endpoints ∧
      ∃ lowered : List (Lowered policy), g.IsMadeOf lowered := by
  obtain ⟨normalized, hnormalized, h⟩ := bind_eq_ok.mp h
  obtain ⟨described, hdescribed, h⟩ := bind_eq_ok.mp h
  obtain ⟨_, hchecked, h⟩ := bind_eq_ok.mp h
  cases h
  obtain ⟨lowered, rfl, hrequests, htypes, hitems⟩ :=
    Described.ofEndpoints_eq_ok hdescribed (nodup_of_normalize hnormalized hnodup)
      fun _ _ => ⟨List.not_mem_nil, List.not_mem_nil⟩
  rw [List.nil_append] at hrequests htypes hitems
  rw [hrequests, htypes] at hchecked
  obtain ⟨howned, hfree⟩ := checkNames_eq_ok (mapError_eq_ok.mp hchecked)
  exact ⟨hnormalized, lowered, rfl, by rw [htypes], by rw [hitems], howned, hfree⟩

end Routewright
