import Routewright.Generation
import Routewright.Proofs.Sorted
import Routewright.Proofs.Spelling
import Routewright.Proofs.Table

/-!
# The shared types of all endpoints

Wrappers and text types are collected by insertion, for each endpoint and over all of them. No
wrapper and no text type is there twice, and the collection has the names of the endpoints and no
others. Their names are spelled in letters and digits alone, so that they cannot be those of
functions.
-/

namespace Routewright

open Sorted

/-- The name of a shared type has no underscore. -/
theorem underscore_not_mem_sharedTypeName (s : String) : '_' ∉ (sharedTypeName s).toList :=
  fun hmem => absurd (isAlphanum_of_mem_sharedTypeName _ hmem) (by decide)

namespace SharedTypes

/-! ## Order -/

/-- Wrappers and text types are each in increasing order. -/
structure Ordered (types : SharedTypes) : Prop where
  wrappers : Increasing textBefore (Table.keys types.wrappers)
  named : Increasing textBefore types.named

theorem keys_addHosts (name : String) (hosts : List HostType)
    (wrappers : List (String × List HostType)) :
    Table.keys (addHosts name hosts wrappers) = insert textBefore name (Table.keys wrappers) :=
  keys_put isLinear_textBefore _ _ _

/-- Merging wrappers inserts their names. -/
theorem keys_foldl_addHosts :
    ∀ (new wrappers : List (String × List HostType)),
      Table.keys (new.foldl (fun all w => addHosts w.1 w.2 all) wrappers) =
        (Table.keys new).foldl (fun all name => insert textBefore name all) (Table.keys wrappers)
  | [], _ => rfl
  | w :: new, wrappers => by
    rw [List.foldl_cons, keys_foldl_addHosts new, keys_addHosts]
    rfl

theorem Ordered.merge {a : SharedTypes} (ha : a.Ordered) (b : SharedTypes) :
    (a.merge b).Ordered where
  wrappers := by
    rw [SharedTypes.merge, keys_foldl_addHosts]
    exact ha.wrappers.foldl_insert isLinear_textBefore.toIsStrict _
  named := ha.named.foldl_insert isLinear_textBefore.toIsStrict _

/-- The types of all endpoints are in order. -/
theorem ordered_mergeTypes (types : List (String × SharedTypes)) :
    (mergeTypes types).Ordered := by
  rw [mergeTypes]
  exact List.foldlRecOn types _ ⟨List.Pairwise.nil, List.Pairwise.nil⟩ fun _ h t _ => h.merge t.2

/-! ## Names -/

theorem mem_names {types : SharedTypes} {name : String} :
    name ∈ types.names ↔ name ∈ Table.keys types.wrappers ∨ name ∈ types.named := by
  rw [names, mem_texts, List.mem_append, Table.keys]

/-- The names under which types are declared : a text type with the name of a wrapper is not
declared again. -/
def declared (types : SharedTypes) : List String :=
  Table.keys types.wrappers ++
    types.named.filter fun name => (Table.find? name types.wrappers).isNone

/-- Every name is declared. -/
theorem mem_declared {types : SharedTypes} {name : String} :
    name ∈ types.declared ↔ name ∈ types.names := by
  rw [mem_names, declared, List.mem_append, List.mem_filter, Option.isNone_iff_eq_none,
    Table.find?_eq_none_iff]
  tauto

theorem declared_subset (types : SharedTypes) : types.declared ⊆ types.names :=
  fun _ => mem_declared.mp

/-- Types in order are declared once each. -/
theorem Ordered.nodup_declared {types : SharedTypes} (h : types.Ordered) :
    types.declared.Nodup := by
  refine (h.wrappers.nodup isLinear_textBefore.toIsStrict).append
    ((h.named.nodup isLinear_textBefore.toIsStrict).filter _) fun name hwrapper hnamed => ?_
  have hnew := (List.mem_filter.mp hnamed).2
  rw [Option.isNone_iff_eq_none, Table.find?_eq_none_iff] at hnew
  exact hnew hwrapper

/-- A merge has the names of both. -/
theorem mem_names_merge {a b : SharedTypes} {name : String} :
    name ∈ (a.merge b).names ↔ name ∈ a.names ∨ name ∈ b.names := by
  rw [mem_names, merge, keys_foldl_addHosts, mem_foldl_insert isLinear_textBefore,
    mem_foldl_insert isLinear_textBefore, mem_names, mem_names, or_or_or_comm]
  exact or_comm

/-- What a merge has when one of both has it, the types of all endpoints have when those of one
endpoint do. `P` is what merging keeps. -/
theorem mergeTypes_iff {P Q : SharedTypes → Prop} (hempty : P {}) (hnone : ¬Q {})
    (hmerge : ∀ {a b : SharedTypes}, P a → P b → P (a.merge b) ∧ (Q (a.merge b) ↔ Q a ∨ Q b))
    {types : List (String × SharedTypes)} (h : ∀ t ∈ types, P t.2) :
    Q (mergeTypes types) ↔ ∃ t ∈ types, Q t.2 := by
  have hfold : ∀ (types : List (String × SharedTypes)) (all : SharedTypes), P all →
      (∀ t ∈ types, P t.2) →
      (Q (types.foldl (fun all t => all.merge t.2) all) ↔ Q all ∨ ∃ t ∈ types, Q t.2) := by
    intro types
    induction types with
    | nil => simp
    | cons t types ih =>
      intro all hall h
      obtain ⟨ht, h⟩ := List.forall_mem_cons.mp h
      obtain ⟨hkept, hiff⟩ := hmerge hall ht
      rw [List.foldl_cons, ih _ hkept h, hiff, List.exists_mem_cons_iff, or_assoc]
  rw [mergeTypes, hfold types {} hempty h]
  exact or_iff_right hnone

/-- The types of all endpoints have the names of each. -/
theorem mem_names_mergeTypes {types : List (String × SharedTypes)} {name : String} :
    name ∈ (mergeTypes types).names ↔ ∃ t ∈ types, name ∈ t.2.names :=
  mergeTypes_iff (P := fun _ => True) (Q := fun t => name ∈ t.names) trivial List.not_mem_nil
    (fun _ _ => ⟨trivial, mem_names_merge⟩) fun _ _ => trivial

/-- A url part adds the name of its wrapper, and the name of its host type if that has one. -/
theorem mem_names_addPart_iff {types : SharedTypes} {part : String} {host : HostType}
    {name : String} :
    name ∈ (types.addPart part host).names ↔ name = sharedTypeName part ∨
      (host.kind = .named ∧ name = sharedTypeName (host.name.getD "")) ∨ name ∈ types.names := by
  rw [mem_names, mem_names]
  unfold addPart
  split
  · next hkind =>
    rw [keys_addHosts, mem_insert isLinear_textBefore, mem_insert isLinear_textBefore,
      and_iff_right hkind]
    tauto
  · next hkind =>
    have hplain : ¬(host.kind = .named ∧ name = sharedTypeName (host.name.getD "")) :=
      fun h => hkind h.1
    rw [keys_addHosts, mem_insert isLinear_textBefore, or_iff_right hplain, or_assoc]

/-- A url part adds names of shared types. -/
theorem mem_names_addPart {types : SharedTypes} {part : String} {host : HostType} {name : String}
    (h : name ∈ (types.addPart part host).names) :
    (∃ s, name = sharedTypeName s) ∨ name ∈ types.names := by
  rcases mem_names_addPart_iff.mp h with h | ⟨-, h⟩ | h
  · exact .inl ⟨_, h⟩
  · exact .inl ⟨_, h⟩
  · exact .inr h

/-- Parts are added one by one : each has a host type and gives the name of a type. -/
theorem ofParts_cons_eq_ok {e : Endpoint} {part : String} {parts : List String}
    {types after : SharedTypes} (h : ofParts e types (part :: parts) = .ok after) :
    isTypeName (sharedTypeName part) = true ∧
      ∃ host, e.partHost part = .ok host ∧
        ofParts e (types.addPart part host) parts = .ok after := by
  unfold ofParts at h
  split_ifs at h with hname
  refine ⟨by simpa using hname, ?_⟩
  split at h
  · cases h
  · next host hhost => exact ⟨host, hhost, h⟩

theorem mem_names_ofParts {e : Endpoint} {name : String} :
    ∀ {parts : List String} {types after : SharedTypes}, ofParts e types parts = .ok after →
      name ∈ after.names → (∃ s, name = sharedTypeName s) ∨ name ∈ types.names
  | [], _, _, h, hname => by
    cases h
    exact .inr hname
  | part :: parts, types, after, h, hname => by
    obtain ⟨-, host, -, h⟩ := ofParts_cons_eq_ok h
    rcases mem_names_ofParts h hname with hs | hname
    · exact .inl hs
    · exact mem_names_addPart hname

/-- Each url part has a wrapper among the types, and no type is lost. -/
theorem subset_names_ofParts {e : Endpoint} :
    ∀ {parts : List String} {types after : SharedTypes}, ofParts e types parts = .ok after →
      parts.map sharedTypeName ++ types.names ⊆ after.names
  | [], _, _, h => by
    cases h
    exact List.Subset.refl _
  | part :: parts, types, after, h => by
    obtain ⟨-, host, -, h⟩ := ofParts_cons_eq_ok h
    have hrest := List.append_subset.mp (subset_names_ofParts h)
    rw [List.map_cons, List.cons_append, List.cons_subset, List.append_subset]
    exact ⟨hrest.2 (mem_names_addPart_iff.mpr (.inl rfl)), hrest.1,
      fun name hname => hrest.2 (mem_names_addPart_iff.mpr (.inr (.inr hname)))⟩

end SharedTypes

/-! ## Host types -/

/-- A host type that is named has one of some names. -/
def HostType.Declared (names : List String) (host : HostType) : Prop :=
  host.kind = .named → ∃ name ∈ names, host.name = some name

theorem HostType.Declared.mono {names more : List String} {host : HostType}
    (h : host.Declared names) (hsubset : names ⊆ more) : host.Declared more := fun hkind =>
  (h hkind).imp fun _ hname => hname.imp_left fun hmem => hsubset hmem

namespace SharedTypes

/-- The host types that wrappers convert from. -/
def hosts (types : SharedTypes) : List HostType :=
  types.wrappers.flatMap Prod.snd

/-- All host types that have a name are there as types. -/
def Closed (types : SharedTypes) : Prop :=
  ∀ host ∈ types.hosts, host.Declared types.names

/-- Hosts that are added to a wrapper are the only new ones. -/
theorem mem_hosts_addHosts {name : String} {new : List HostType}
    {wrappers : List (String × List HostType)} {host : HostType}
    (h : host ∈ (addHosts name new wrappers).flatMap Prod.snd) :
    host ∈ new ∨ host ∈ wrappers.flatMap Prod.snd := by
  obtain ⟨⟨n, hosts⟩, hentry, hhost⟩ := List.mem_flatMap.mp h
  rcases mem_put hentry with heq | hentry
  · obtain ⟨-, rfl⟩ := Prod.mk.inj heq
    refine (of_mem_foldl_insert _ hhost).imp_right fun hbefore => ?_
    cases hfound : Table.find? name wrappers with
    | none => simp [hfound] at hbefore
    | some hosts =>
      rw [hfound] at hbefore
      exact List.mem_flatMap.mpr ⟨_, Table.mem_of_find? hfound, hbefore⟩
  · exact .inr (List.mem_flatMap.mpr ⟨_, hentry, hhost⟩)

theorem mem_hosts_foldl_addHosts {host : HostType} :
    ∀ (new : List (String × List HostType)) {wrappers : List (String × List HostType)},
      host ∈ (new.foldl (fun all w => addHosts w.1 w.2 all) wrappers).flatMap Prod.snd →
      host ∈ new.flatMap Prod.snd ∨ host ∈ wrappers.flatMap Prod.snd
  | [], _, h => .inr h
  | w :: new, wrappers, h => by
    rw [List.flatMap_cons, List.mem_append, or_assoc]
    rcases mem_hosts_foldl_addHosts new h with h | h
    · exact .inr (.inl h)
    · exact (mem_hosts_addHosts h).imp_right .inr

theorem Closed.addPart {types : SharedTypes} (h : types.Closed) (part : String)
    (host : HostType) : (types.addPart part host).Closed := by
  have hold : ∀ other ∈ types.hosts, other.Declared (types.addPart part host).names :=
    fun other hother => (h other hother).mono fun name hname =>
      mem_names_addPart_iff.mpr (.inr (.inr hname))
  intro other hother hkind
  simp only [hosts, SharedTypes.addPart] at hother
  split at hother
  · next hnamed =>
    rcases mem_hosts_addHosts hother with hnew | hother
    · obtain rfl := List.mem_singleton.mp hnew
      exact ⟨_, mem_names_addPart_iff.mpr (.inr (.inl ⟨hnamed, rfl⟩)), rfl⟩
    · exact hold other hother hkind
  · next hplain =>
    rcases mem_hosts_addHosts hother with hnew | hother
    · obtain rfl := List.mem_singleton.mp hnew
      exact absurd hkind hplain
    · exact hold other hother hkind

theorem Closed.merge {a b : SharedTypes} (ha : a.Closed) (hb : b.Closed) : (a.merge b).Closed := by
  intro host hhost
  rcases mem_hosts_foldl_addHosts _ hhost with hhost | hhost
  · exact (hb host hhost).mono fun name hname => mem_names_merge.mpr (.inr hname)
  · exact (ha host hhost).mono fun name hname => mem_names_merge.mpr (.inl hname)

theorem closed_empty : ({} : SharedTypes).Closed :=
  fun _ hhost => absurd hhost List.not_mem_nil

theorem closed_mergeTypes {types : List (String × SharedTypes)} (h : ∀ t ∈ types, t.2.Closed) :
    (mergeTypes types).Closed := by
  rw [mergeTypes]
  exact List.foldlRecOn types _ closed_empty fun _ hall t ht => hall.merge (h t ht)

theorem Closed.ofParts {e : Endpoint} :
    ∀ {parts : List String} {types after : SharedTypes}, types.Closed →
      ofParts e types parts = .ok after → after.Closed
  | [], _, _, hclosed, h => by
    cases h
    exact hclosed
  | part :: parts, types, after, hclosed, h => by
    obtain ⟨-, host, -, h⟩ := ofParts_cons_eq_ok h
    exact Closed.ofParts (hclosed.addPart part host) h

end SharedTypes

/-! ## The types of an endpoint -/

namespace Endpoint

variable {e : Endpoint} {types : SharedTypes}

/-- The types of an endpoint have names of shared types. -/
theorem mem_names_sharedTypes {name : String} (h : e.sharedTypes = .ok types)
    (hname : name ∈ types.names) : ∃ s, name = sharedTypeName s :=
  (SharedTypes.mem_names_ofParts h hname).resolve_right List.not_mem_nil

theorem closed_sharedTypes (h : e.sharedTypes = .ok types) : types.Closed :=
  SharedTypes.closed_empty.ofParts h

/-- The parameters of paths are parts of the endpoint, declared or not. -/
theorem mem_partNames {path : UrlPath} (hpath : path ∈ e.paths) {name : String}
    (hname : name ∈ path.params) : name ∈ e.partNames := by
  rw [partNames, List.mem_append]
  by_cases hdeclared : name ∈ Table.keys e.parts
  · exact .inl hdeclared
  · refine .inr (List.mem_flatMap.mpr ⟨path, hpath, List.mem_filter.mpr ⟨hname, ?_⟩⟩)
    rw [Table.find?_eq_none_iff.mpr hdeclared]
    rfl

/-- The parameters of paths have wrappers among the types. -/
theorem sharedTypeName_mem_names (h : e.sharedTypes = .ok types) {path : UrlPath}
    (hpath : path ∈ e.paths) {name : String} (hname : name ∈ path.params) :
    sharedTypeName name ∈ types.names :=
  (List.append_subset.mp (SharedTypes.subset_names_ofParts h)).1
    (List.mem_map_of_mem (mem_partNames hpath hname))

end Endpoint

end Routewright
