import Routewright.Proofs.WellFormed

/-!
# Wrappers and the types they are made from

No declared type is lost and none is made up. The wrappers of generated code are those of the url
parts of all endpoints, declared or found in a path, and each converts from the host types of the
parts that it is named after and from no others (`generate_wrappers_exact`).

Host types are collected by insertion under the name of a wrapper, part by part within an endpoint
and then over all endpoints. What insertion compares is the sort key, which tells host types apart
as long as those that stand for a generated type are the ones that have a name
(`HostType.WellNamed`). `SharedTypes.Arranged` is what each step keeps, and `SharedTypes.hostsOf` is
what each step is said to add to.
-/

namespace Routewright

open Code Outcome Sorted

variable {policy : Policy}

/-! ## The order of host types -/

namespace HostType

/-- A host type that has a name just when it stands for a generated type. -/
def WellNamed (host : HostType) : Prop :=
  host.kind = .named ↔ host.name.isSome

theorem before_iff {a b : HostType} :
    before a b ↔ HostKind.all.idxOf a.kind < HostKind.all.idxOf b.kind ∨
      (HostKind.all.idxOf a.kind = HostKind.all.idxOf b.kind ∧
        a.name.getD "" < b.name.getD "") := by
  simp [before]

theorem isStrict_before : IsStrict before where
  irrefl a h := by
    rcases before_iff.mp h with hlt | ⟨-, hlt⟩
    · exact Nat.lt_irrefl _ hlt
    · exact lt_irrefl _ hlt
  trans {a b c} hab hbc := by
    rw [before_iff] at hab hbc ⊢
    rcases hab with hab | ⟨hab, hname⟩ <;> rcases hbc with hbc | ⟨hbc, hname'⟩
    · exact .inl (hab.trans hbc)
    · exact .inl (hbc ▸ hab)
    · exact .inl (hab ▸ hbc)
    · exact .inr ⟨hab.trans hbc, hname.trans hname'⟩

theorem kind_eq_of_idxOf_eq {a b : HostKind}
    (h : HostKind.all.idxOf a = HostKind.all.idxOf b) : a = b :=
  (List.idxOf_inj (by cases a <;> decide)).mp h

/-- The sort key tells well-named host types apart. -/
theorem eq_of_not_before {a b : HostType} (ha : a.WellNamed) (hb : b.WellNamed)
    (hab : ¬ before a b) (hba : ¬ before b a) : a = b := by
  rw [before_iff, not_or, not_and] at hab hba
  have hidx : HostKind.all.idxOf a.kind = HostKind.all.idxOf b.kind :=
    le_antisymm (not_lt.mp hba.1) (not_lt.mp hab.1)
  have hkind : a.kind = b.kind := kind_eq_of_idxOf_eq hidx
  have hname : a.name.getD "" = b.name.getD "" :=
    le_antisymm (not_lt.mp (hba.2 hidx.symm)) (not_lt.mp (hab.2 hidx))
  have hsome : a.name.isSome ↔ b.name.isSome := by
    unfold WellNamed at ha hb
    rw [← ha, ← hb, hkind]
  obtain ⟨akind, aname⟩ := a
  obtain ⟨bkind, bname⟩ := b
  cases aname <;> cases bname <;> simp_all

/-- The host type as which a wrapper knows one : the name of a generated type becomes that of a
shared type. -/
def shared (host : HostType) : HostType :=
  match host.kind with
  | .named => { kind := .named, name := some (sharedTypeName (host.name.getD "")) }
  | _ => host

theorem WellNamed.shared {host : HostType} (h : host.WellNamed) : host.shared.WellNamed := by
  unfold HostType.shared
  split
  · exact iff_of_true rfl rfl
  · exact h

end HostType

theorem SpecKind.host?_ne_named (kind : SpecKind) : kind.host? ≠ some .named := by
  cases kind <;> decide

/-- A declared type is a scalar, or has a name that can stand for a type. -/
theorem SpecType.host_eq_ok {type : SpecType} {host : HostType} (h : type.host = .ok host) :
    (∃ kind, type.kind.host? = some kind ∧ host = { kind }) ∨
      (isTypeName (pascal (type.name.getD "")) = true ∧
        host = { kind := .named, name := some (pascal (type.name.getD "")) }) := by
  have hhost : type.host? = some host := by
    unfold SpecType.host at h
    split at h
    · next found hfound => rw [hfound, Except.ok.inj h]
    · cases h
  unfold SpecType.host? at hhost
  split at hhost
  · next kind hkind =>
    cases hhost
    exact .inl ⟨kind, hkind, rfl⟩
  · dsimp only at hhost
    split_ifs at hhost with hname
    cases hhost
    exact .inr ⟨hname, rfl⟩

/-- The host type of a declared type is well-named. -/
theorem SpecType.wellNamed_host {type : SpecType} {host : HostType}
    (h : type.host = .ok host) : host.WellNamed := by
  rcases type.host_eq_ok h with ⟨kind, hkind, rfl⟩ | ⟨-, rfl⟩
  · exact iff_of_false (fun heq => type.kind.host?_ne_named (heq ▸ hkind)) Bool.false_ne_true
  · exact iff_of_true rfl rfl

/-! ## Wrappers with their hosts -/

namespace SharedTypes

/-- The host types under the name of a wrapper. -/
def hostsOf (name : String) (wrappers : List (String × List HostType)) : List HostType :=
  (Table.find? name wrappers).getD []

/-- Wrappers in the order of their names, each with well-named hosts in the order of conversions. -/
structure Arranged (wrappers : List (String × List HostType)) : Prop where
  keys : Increasing textBefore (Table.keys wrappers)
  hosts : ∀ entry ∈ wrappers, Increasing HostType.before entry.2
  wellNamed : ∀ entry ∈ wrappers, ∀ host ∈ entry.2, host.WellNamed

theorem arranged_nil : Arranged [] where
  keys := .nil
  hosts _ h := absurd h List.not_mem_nil
  wellNamed _ h := absurd h List.not_mem_nil

section Wrappers

variable {wrappers new : List (String × List HostType)} {name other : String}
  {hosts : List HostType} {host : HostType}

/-- What stands under a name is some entry. -/
theorem exists_of_mem_hostsOf (h : host ∈ hostsOf name wrappers) :
    ∃ hosts, (name, hosts) ∈ wrappers ∧ host ∈ hosts := by
  unfold hostsOf at h
  cases hfound : Table.find? name wrappers with
  | none => simp [hfound] at h
  | some hosts =>
    rw [hfound] at h
    exact ⟨hosts, Table.mem_of_find? hfound, h⟩

theorem hostsOf_addHosts_self :
    hostsOf name (addHosts name hosts wrappers) =
      hosts.foldl (fun all h => insert HostType.before h all) (hostsOf name wrappers) := by
  rw [hostsOf, addHosts, find?_put_self isLinear_textBefore]
  rfl

theorem hostsOf_addHosts_of_ne (hne : name ≠ other) :
    hostsOf other (addHosts name hosts wrappers) = hostsOf other wrappers := by
  rw [hostsOf, addHosts, find?_put_of_ne isLinear_textBefore hne]
  rfl

namespace Arranged

/-- Each entry is what stands under its name. -/
theorem hostsOf_eq (h : Arranged wrappers) (hmem : (name, hosts) ∈ wrappers) :
    hostsOf name wrappers = hosts := by
  rw [hostsOf, Table.find?_of_mem (h.keys.nodup isLinear_textBefore.toIsStrict) hmem]
  rfl

theorem increasing_hostsOf (h : Arranged wrappers) (name : String) :
    Increasing HostType.before (hostsOf name wrappers) := by
  rw [hostsOf]
  cases hfound : Table.find? name wrappers with
  | none => exact .nil
  | some hosts => exact h.hosts _ (Table.mem_of_find? hfound)

theorem wellNamed_hostsOf (h : Arranged wrappers) (hhost : host ∈ hostsOf name wrappers) :
    host.WellNamed := by
  obtain ⟨hosts, hentry, hhost⟩ := exists_of_mem_hostsOf hhost
  exact h.wellNamed _ hentry host hhost

/-- Well-named hosts are added in their places. -/
theorem addHosts (h : Arranged wrappers) (hhosts : ∀ host ∈ hosts, host.WellNamed)
    (name : String) : Arranged (addHosts name hosts wrappers) where
  keys := by
    rw [keys_addHosts]
    exact h.keys.insert isLinear_textBefore.toIsStrict name
  hosts entry hentry := by
    rcases mem_put hentry with rfl | hentry
    · exact (h.increasing_hostsOf name).foldl_insert HostType.isStrict_before hosts
    · exact h.hosts entry hentry
  wellNamed entry hentry host hhost := by
    rcases mem_put hentry with rfl | hentry
    · exact (of_mem_foldl_insert hosts hhost).elim (hhosts host) h.wellNamed_hostsOf
    · exact h.wellNamed entry hentry host hhost

/-- What is added stands under the name of its wrapper, and nothing else changes. -/
theorem mem_hostsOf_addHosts (h : Arranged wrappers) (hhosts : ∀ host ∈ hosts, host.WellNamed) :
    host ∈ hostsOf other (SharedTypes.addHosts name hosts wrappers) ↔
      (name = other ∧ host ∈ hosts) ∨ host ∈ hostsOf other wrappers := by
  by_cases hname : name = other
  · subst hname
    rw [hostsOf_addHosts_self, mem_foldl_insert_of HostType.eq_of_not_before hhosts
      fun _ hold => h.wellNamed_hostsOf hold]
    simp
  · rw [hostsOf_addHosts_of_ne hname, or_iff_right fun heq => hname heq.1]

/-- What stands under a name is in an entry of that name. -/
theorem mem_hostsOf_iff (h : Arranged wrappers) :
    host ∈ hostsOf name wrappers ↔ ∃ hosts, (name, hosts) ∈ wrappers ∧ host ∈ hosts := by
  refine ⟨exists_of_mem_hostsOf, ?_⟩
  rintro ⟨hosts, hentry, hhost⟩
  rwa [h.hostsOf_eq hentry]

theorem foldl_addHosts (h : Arranged wrappers) (hnew : Arranged new) :
    Arranged (new.foldl (fun all w => SharedTypes.addHosts w.1 w.2 all) wrappers) :=
  List.foldlRecOn new _ h fun _ hall w hw => hall.addHosts (hnew.wellNamed w hw) w.1

/-- Wrappers that are added one after the other add their hosts. -/
theorem mem_hostsOf_foldl_addHosts :
    ∀ {new wrappers : List (String × List HostType)}, Arranged wrappers →
      (∀ entry ∈ new, ∀ host ∈ entry.2, host.WellNamed) →
      (host ∈ hostsOf name
          (new.foldl (fun all w => SharedTypes.addHosts w.1 w.2 all) wrappers) ↔
        (∃ hosts, (name, hosts) ∈ new ∧ host ∈ hosts) ∨ host ∈ hostsOf name wrappers)
  | [], wrappers, _, _ => by simp
  | (added, hosts) :: new, wrappers, h, hnew => by
    obtain ⟨hhosts, hnew⟩ := List.forall_mem_cons.mp hnew
    rw [List.foldl_cons, mem_hostsOf_foldl_addHosts (h.addHosts hhosts added) hnew,
      h.mem_hostsOf_addHosts hhosts, ← or_assoc]
    refine or_congr_left ?_
    constructor
    · rintro (⟨others, hentry, hhost⟩ | ⟨rfl, hhost⟩)
      · exact ⟨others, List.mem_cons_of_mem _ hentry, hhost⟩
      · exact ⟨hosts, List.mem_cons_self, hhost⟩
    · rintro ⟨others, hentry, hhost⟩
      rcases List.mem_cons.mp hentry with heq | hentry
      · obtain ⟨rfl, rfl⟩ := Prod.mk.inj heq
        exact .inr ⟨rfl, hhost⟩
      · exact .inl ⟨others, hentry, hhost⟩

end Arranged

end Wrappers

end SharedTypes

/-! ## The parts of an endpoint -/

namespace Endpoint

variable {e : Endpoint} {part : String} {host : HostType}

/-- A name is a url part of an endpoint if it is declared as one or a path has such a parameter. -/
def HasPart (e : Endpoint) (part : String) : Prop :=
  part ∈ Table.keys e.parts ∨ ∃ path ∈ e.paths, part ∈ path.params

/-- The host type as which the wrapper of a url part knows the part : that of its declared type, and
plain text for a parameter that is not declared. -/
inductive PartHost (e : Endpoint) (part : String) : HostType → Prop
  | declared {type : SpecType} {host : HostType} : Table.find? part e.parts = some type →
      type.host = .ok host → PartHost e part host.shared
  | undeclared : part ∉ Table.keys e.parts → PartHost e part .plain

theorem mem_partNames_iff : part ∈ e.partNames ↔ e.HasPart part := by
  refine ⟨fun h => ?_, ?_⟩
  · rcases List.mem_append.mp h with h | h
    · exact .inl h
    · obtain ⟨path, hpath, h⟩ := List.mem_flatMap.mp h
      exact .inr ⟨path, hpath, List.mem_of_mem_filter h⟩
  · rintro (h | ⟨path, hpath, h⟩)
    · exact List.mem_append_left _ h
    · exact mem_partNames hpath h

theorem partHost_iff (h : e.partHost part = .ok host) {other : HostType} :
    e.PartHost part other ↔ other = host.shared := by
  unfold partHost at h
  split at h
  · next hnone =>
    cases h
    constructor
    · rintro (⟨hsome, -⟩ | -)
      · rw [hnone] at hsome
        cases hsome
      · rfl
    · rintro rfl
      exact .undeclared (Table.find?_eq_none_iff.mp hnone)
  · next type htype =>
    constructor
    · rintro (⟨hsome, hhost⟩ | hnone)
      · rw [htype] at hsome
        cases hsome
        rw [h] at hhost
        cases hhost
        rfl
      · rw [Table.find?_eq_none_iff.mpr hnone] at htype
        cases htype
    · rintro rfl
      exact .declared htype h

theorem wellNamed_partHost (h : e.partHost part = .ok host) : host.WellNamed := by
  unfold partHost at h
  split at h
  · cases h
    exact iff_of_false (by decide) (by decide)
  · exact SpecType.wellNamed_host h

end Endpoint

namespace SharedTypes

variable {e : Endpoint}

/-- A part adds its host type under the name of its wrapper. -/
theorem wrappers_addPart (types : SharedTypes) (part : String) (host : HostType) :
    (types.addPart part host).wrappers =
      addHosts (sharedTypeName part) [host.shared] types.wrappers := by
  unfold addPart HostType.shared
  cases host.kind <;> rfl

theorem Arranged.addPart {types : SharedTypes} (h : Arranged types.wrappers) (part : String)
    {host : HostType} (hhost : host.WellNamed) : Arranged (types.addPart part host).wrappers := by
  rw [wrappers_addPart]
  exact h.addHosts (List.forall_mem_singleton.mpr hhost.shared) _

theorem Arranged.ofParts :
    ∀ {parts : List String} {types after : SharedTypes}, Arranged types.wrappers →
      ofParts e types parts = .ok after → Arranged after.wrappers
  | [], _, _, hbefore, h => by
    cases h
    exact hbefore
  | part :: parts, types, after, hbefore, h => by
    obtain ⟨-, host, hhost, h⟩ := ofParts_cons_eq_ok h
    exact (hbefore.addPart part (Endpoint.wellNamed_partHost hhost)).ofParts h

/-- Parts add the wrappers that are named after them. -/
theorem mem_keys_ofParts {name : String} :
    ∀ {parts : List String} {types after : SharedTypes}, ofParts e types parts = .ok after →
      (name ∈ Table.keys after.wrappers ↔
        (∃ part ∈ parts, sharedTypeName part = name) ∨ name ∈ Table.keys types.wrappers)
  | [], _, _, h => by
    cases h
    simp
  | part :: parts, types, after, h => by
    obtain ⟨-, host, -, h⟩ := ofParts_cons_eq_ok h
    rw [mem_keys_ofParts h, wrappers_addPart, keys_addHosts, mem_insert isLinear_textBefore,
      List.exists_mem_cons_iff, eq_comm, or_assoc]
    exact or_left_comm

/-- Parts add their host types to the wrappers that are named after them. -/
theorem mem_hostsOf_ofParts {name : String} {host : HostType} :
    ∀ {parts : List String} {types after : SharedTypes}, Arranged types.wrappers →
      ofParts e types parts = .ok after →
      (host ∈ hostsOf name after.wrappers ↔
        (∃ part ∈ parts, sharedTypeName part = name ∧ e.PartHost part host) ∨
          host ∈ hostsOf name types.wrappers)
  | [], _, _, _, h => by
    cases h
    simp
  | part :: parts, types, after, hbefore, h => by
    obtain ⟨-, added, hadded, h⟩ := ofParts_cons_eq_ok h
    have hnamed := Endpoint.wellNamed_partHost hadded
    rw [mem_hostsOf_ofParts (hbefore.addPart part hnamed) h, wrappers_addPart,
      hbefore.mem_hostsOf_addHosts (List.forall_mem_singleton.mpr hnamed.shared),
      List.mem_singleton, ← Endpoint.partHost_iff hadded, List.exists_mem_cons_iff, or_assoc]
    exact or_left_comm

/-! ## All endpoints -/

section Merge

variable {a b : SharedTypes} {types : List (String × SharedTypes)} {name : String}

theorem Arranged.merge (ha : Arranged a.wrappers) (hb : Arranged b.wrappers) :
    Arranged (a.merge b).wrappers :=
  ha.foldl_addHosts hb

theorem mem_keys_merge :
    name ∈ Table.keys (a.merge b).wrappers ↔
      name ∈ Table.keys a.wrappers ∨ name ∈ Table.keys b.wrappers := by
  rw [SharedTypes.merge, keys_foldl_addHosts, mem_foldl_insert isLinear_textBefore]
  exact or_comm

/-- A merge has the hosts of both. -/
theorem mem_hostsOf_merge {host : HostType} (ha : Arranged a.wrappers) (hb : Arranged b.wrappers) :
    host ∈ hostsOf name (a.merge b).wrappers ↔
      host ∈ hostsOf name a.wrappers ∨ host ∈ hostsOf name b.wrappers := by
  rw [SharedTypes.merge, Arranged.mem_hostsOf_foldl_addHosts ha hb.wellNamed, ← hb.mem_hostsOf_iff]
  exact or_comm

theorem arranged_mergeTypes (h : ∀ t ∈ types, Arranged t.2.wrappers) :
    Arranged (mergeTypes types).wrappers := by
  rw [mergeTypes]
  exact List.foldlRecOn (motive := fun all => Arranged (SharedTypes.wrappers all)) types _
    arranged_nil fun _ hall t ht => hall.merge (h t ht)

theorem mem_keys_mergeTypes :
    name ∈ Table.keys (mergeTypes types).wrappers ↔
      ∃ t ∈ types, name ∈ Table.keys t.2.wrappers :=
  mergeTypes_iff (P := fun _ => True) (Q := fun t => name ∈ Table.keys t.wrappers) trivial
    List.not_mem_nil (fun _ _ => ⟨trivial, mem_keys_merge⟩) fun _ _ => trivial

/-- The types of all endpoints have the hosts of each. -/
theorem mem_hostsOf_mergeTypes {host : HostType} (h : ∀ t ∈ types, Arranged t.2.wrappers) :
    host ∈ hostsOf name (mergeTypes types).wrappers ↔
      ∃ t ∈ types, host ∈ hostsOf name t.2.wrappers :=
  mergeTypes_iff (P := fun t => Arranged t.wrappers) (Q := fun t => host ∈ hostsOf name t.wrappers)
    arranged_nil List.not_mem_nil (fun ha hb => ⟨ha.merge hb, mem_hostsOf_merge ha hb⟩) h

end Merge

end SharedTypes

namespace Endpoint

variable {e : Endpoint} {types : SharedTypes} {name : String}

theorem arranged_sharedTypes (h : e.sharedTypes = .ok types) :
    SharedTypes.Arranged types.wrappers :=
  SharedTypes.arranged_nil.ofParts h

/-- The wrappers of an endpoint are those of its parts. -/
theorem mem_keys_sharedTypes (h : e.sharedTypes = .ok types) :
    name ∈ Table.keys types.wrappers ↔ ∃ part, e.HasPart part ∧ sharedTypeName part = name := by
  have hnone : name ∉ Table.keys ({} : SharedTypes).wrappers := List.not_mem_nil
  rw [SharedTypes.mem_keys_ofParts h, or_iff_left hnone]
  simp only [mem_partNames_iff]

/-- The hosts of a wrapper of an endpoint are those of the parts that it is named after. -/
theorem mem_hostsOf_sharedTypes {host : HostType} (h : e.sharedTypes = .ok types) :
    host ∈ SharedTypes.hostsOf name types.wrappers ↔
      ∃ part, e.HasPart part ∧ sharedTypeName part = name ∧ e.PartHost part host := by
  have hnone : host ∉ SharedTypes.hostsOf name ({} : SharedTypes).wrappers := List.not_mem_nil
  rw [SharedTypes.mem_hostsOf_ofParts SharedTypes.arranged_nil h, or_iff_left hnone]
  simp only [mem_partNames_iff]

end Endpoint

namespace Generated.IsMadeOf

variable {g : Generated} {lowered : List (Lowered policy)} {name : String}

/-- The types that are merged are the shared types of the endpoints. -/
theorem exists_typeTable_iff (h : g.IsMadeOf lowered) {Q : SharedTypes → Prop}
    {R : Endpoint → Prop}
    (hQ : ∀ {e : Endpoint} {types : SharedTypes}, e.sharedTypes = .ok types → (Q types ↔ R e)) :
    (∃ t ∈ Lowered.typeTable lowered, Q t.2) ↔ ∃ e ∈ g.endpoints, R e := by
  have hlowered : ∀ l : Lowered policy, Q l.types ↔ R l.endpoint := fun l => by
    obtain ⟨method, tokens, hl⟩ := Endpoint.requests_eq_ok l.requests_eq
    exact hQ hl.sharedTypes_eq
  simp only [h.endpoints_eq, Lowered.typeTable, List.mem_map, exists_exists_and_eq_and, hlowered]

theorem arranged_typeTable (lowered : List (Lowered policy)) :
    ∀ t ∈ Lowered.typeTable lowered, SharedTypes.Arranged t.2.wrappers := by
  intro t ht
  obtain ⟨l, -, rfl⟩ := List.mem_map.mp ht
  obtain ⟨method, tokens, hl⟩ := Endpoint.requests_eq_ok l.requests_eq
  exact Endpoint.arranged_sharedTypes hl.sharedTypes_eq

theorem arranged (h : g.IsMadeOf lowered) : SharedTypes.Arranged g.types.wrappers :=
  h.types_eq ▸ SharedTypes.arranged_mergeTypes (arranged_typeTable lowered)

/-- The wrappers of all endpoints are those of their parts. -/
theorem mem_keys_wrappers (h : g.IsMadeOf lowered) :
    name ∈ Table.keys g.types.wrappers ↔
      ∃ e ∈ g.endpoints, ∃ part, e.HasPart part ∧ sharedTypeName part = name := by
  rw [h.types_eq, SharedTypes.mem_keys_mergeTypes]
  exact h.exists_typeTable_iff fun htypes => Endpoint.mem_keys_sharedTypes htypes

/-- The hosts of a wrapper are those of the parts of all endpoints that it is named after. -/
theorem mem_hostsOf_wrappers (h : g.IsMadeOf lowered) {host : HostType} :
    host ∈ SharedTypes.hostsOf name g.types.wrappers ↔
      ∃ e ∈ g.endpoints, ∃ part, e.HasPart part ∧ sharedTypeName part = name ∧
        e.PartHost part host := by
  rw [h.types_eq, SharedTypes.mem_hostsOf_mergeTypes (arranged_typeTable lowered)]
  exact h.exists_typeTable_iff fun htypes => Endpoint.mem_hostsOf_sharedTypes htypes

end Generated.IsMadeOf

/-! ## What is declared -/

namespace Code

/-- The declarations in the groups of a name. -/
def Module.group (m : Module) (name : String) : List Item :=
  (m.namespaces.filter fun n => n.name = name).flatMap Namespace.items

/-- The wrapper that a declaration is. -/
def Item.wrapper? : Item → Option Wrapper
  | .wrapper w => some w
  | _ => none

/-- The name of the text type that a declaration is : a wrapper, or the type of a declared name. -/
def Item.textType? : Item → Option String
  | .wrapper w => some w.name
  | .namedText t => some t.name
  | _ => none

/-- The wrappers of a module. -/
def Module.wrappers (m : Module) : List Wrapper :=
  (m.group "params").filterMap Item.wrapper?

/-- The names of the text types of a module. -/
def Module.textTypes (m : Module) : List String :=
  (m.group "params").filterMap Item.textType?

theorem Module.group_assemble (items : List Item) (types : SharedTypes) :
    (assemble items types).group "params" = types.items := by
  simp [group, assemble]

theorem Module.wrappers_assemble (items : List Item) (types : SharedTypes) :
    (assemble items types).wrappers =
      types.wrappers.map fun w => SharedTypes.wrapperDecl w.1 w.2 := by
  rw [wrappers, group_assemble, SharedTypes.items, List.cons_append, List.filterMap_cons_none rfl,
    List.filterMap_append, List.filterMap_map, List.filterMap_map]
  simp [Item.wrapper?, Function.comp_def]

theorem Module.textTypes_assemble (items : List Item) (types : SharedTypes) :
    (assemble items types).textTypes = types.declared := by
  rw [textTypes, group_assemble, SharedTypes.items, List.cons_append, List.filterMap_cons_none rfl,
    List.filterMap_append, List.filterMap_map, List.filterMap_map, SharedTypes.declared]
  simp [Item.textType?, Function.comp_def, SharedTypes.wrapperDecl, Table.keys]

end Code

namespace Generated.IsMadeOf

variable {g : Generated} {lowered : List (Lowered policy)} {w : Wrapper}

theorem map_name_wrappers (h : g.IsMadeOf lowered) :
    g.code.wrappers.map Wrapper.name = Table.keys g.types.wrappers := by
  rw [h.code_eq, Module.wrappers_assemble, List.map_map]
  rfl

/-- A wrapper converts from the hosts under its name, itself apart. -/
theorem hosts_of_mem_wrappers (h : g.IsMadeOf lowered) (hw : w ∈ g.code.wrappers) :
    w.hosts = (SharedTypes.hostsOf w.name g.types.wrappers).filter fun host =>
      !(host.kind = .named && host.name = some w.name) := by
  rw [h.code_eq, Module.wrappers_assemble] at hw
  obtain ⟨⟨name, hosts⟩, hentry, rfl⟩ := List.mem_map.mp hw
  rw [SharedTypes.wrapperDecl, h.arranged.hostsOf_eq hentry]

/-- The host types of wrappers that have a name are declared as text types. -/
theorem textType_of_mem_hosts (h : g.IsMadeOf lowered) (hw : w ∈ g.code.wrappers)
    {host : HostType} (hhost : host ∈ w.hosts) : host.Declared g.code.textTypes := by
  intro hkind
  rw [h.hosts_of_mem_wrappers hw] at hhost
  obtain ⟨hosts, hentry, hhost⟩ :=
    SharedTypes.exists_of_mem_hostsOf (List.mem_of_mem_filter hhost)
  obtain ⟨name, hname, heq⟩ := h.closed_types host (List.mem_flatMap.mpr ⟨_, hentry, hhost⟩) hkind
  refine ⟨name, ?_, heq⟩
  rwa [h.code_eq, Module.textTypes_assemble, SharedTypes.mem_declared]

/-- A text type is declared once. -/
theorem count_textType (h : g.IsMadeOf lowered) {name : String} (hname : name ∈ g.code.textTypes) :
    g.code.names.count name = 1 := by
  refine List.count_eq_one_of_mem h.nodup_names ?_
  rw [h.code_eq, Module.textTypes_assemble] at hname
  rw [h.names_eq]
  exact List.mem_append_right _ (List.mem_append_right _ (List.mem_cons_of_mem _ hname))

end Generated.IsMadeOf

/-- In code that is generated from endpoints of distinct names, the wrappers are in the order of
their names, and they are those of the declared parts and of the parameters of paths. Each converts
from the host types of the parts that it is named after, itself apart, in the order of conversions.
A host type that has a name is declared once, and as a text type. -/
theorem generate_wrappers_exact {endpoints : List Endpoint} {g : Generated}
    (hnodup : (endpoints.map Endpoint.name).Nodup) (h : generate endpoints policy = .ok g) :
    Increasing textBefore (g.code.wrappers.map Wrapper.name) ∧
    (∀ name, name ∈ g.code.wrappers.map Wrapper.name ↔
      ∃ e ∈ g.endpoints, ∃ part, e.HasPart part ∧ sharedTypeName part = name) ∧
    ∀ w ∈ g.code.wrappers,
      (∀ host, host ∈ w.hosts ↔
        (∃ e ∈ g.endpoints, ∃ part, e.HasPart part ∧ sharedTypeName part = w.name ∧
          e.PartHost part host) ∧ host ≠ { kind := .named, name := some w.name }) ∧
      w.hosts.Nodup ∧ Increasing HostType.before w.hosts ∧
      ∀ host ∈ w.hosts, host.kind = .named →
        ∃ name ∈ g.code.textTypes, host.name = some name ∧ g.code.names.count name = 1 := by
  obtain ⟨-, lowered, hmade⟩ := generate_eq_ok hnodup h
  rw [hmade.map_name_wrappers]
  refine ⟨hmade.arranged.keys, fun name => hmade.mem_keys_wrappers, fun w hw => ?_⟩
  have hhosts := hmade.hosts_of_mem_wrappers hw
  have hincreasing : Increasing HostType.before w.hosts :=
    hhosts ▸ (hmade.arranged.increasing_hostsOf w.name).sublist List.filter_sublist
  refine ⟨fun host => ?_, hincreasing.nodup HostType.isStrict_before, hincreasing,
    fun host hhost hkind => ?_⟩
  · rw [hhosts, List.mem_filter, hmade.mem_hostsOf_wrappers]
    refine and_congr_right fun _ => ?_
    obtain ⟨kind, name⟩ := host
    simp [imp_iff_not_or]
  · obtain ⟨name, hname, heq⟩ := hmade.textType_of_mem_hosts hw hhost hkind
    exact ⟨name, hname, heq, hmade.count_textType hname⟩

/-- A part that one endpoint declares with a type of its own and another leaves undeclared has a
wrapper that converts from both; a part that has the name of its type has one that does not convert
from itself. -/
theorem generate_wrappers_exact_shared :
    ∃ (get search : Endpoint) (g : Generated),
      ([get, search].map Endpoint.name).Nodup ∧ generate [get, search] {} = .ok g ∧
      g.code.wrappers = [{ name := "Index", hosts := [.plain, ⟨.named, some "IndexName"⟩] },
        { name := "IndexName", hosts := [] }] ∧
      (∀ name, name ∈ ["Index", "IndexName"] ↔
        ∃ e ∈ g.endpoints, ∃ part, e.HasPart part ∧ sharedTypeName part = name) ∧
      (∃ e ∈ g.endpoints, ∃ part, e.HasPart part ∧ sharedTypeName part = "Index" ∧
        e.PartHost part .plain) ∧
      g.code.names.count "IndexName" = 1 := by
  let get : Endpoint :=
    { name := "get", methods := [.get], paths := [⟨"/{index}", [.literal "/", .param "index"]⟩],
      parts := [("index", ⟨.other, some "index_name"⟩)] }
  let search : Endpoint :=
    { name := "search", methods := [.get],
      paths := [⟨"/{index_name}/{index}",
        [.literal "/", .param "index_name", .literal "/", .param "index"]⟩],
      parts := [("index_name", ⟨.other, some "index_name"⟩)] }
  have hnodup : ([get, search].map Endpoint.name).Nodup := by decide
  obtain ⟨g, hg, hwrappers⟩ : ∃ g, generate [get, search] {} = .ok g ∧ g.code.wrappers =
      [{ name := "Index", hosts := [.plain, ⟨.named, some "IndexName"⟩] },
        { name := "IndexName", hosts := [] }] := by
    subst get search
    exact ⟨_, rfl, rfl⟩
  obtain ⟨-, hnames, hexact⟩ := generate_wrappers_exact hnodup hg
  rw [hwrappers] at hnames hexact
  obtain ⟨hhosts, -, -, hdeclared⟩ := hexact _ List.mem_cons_self
  have hplain : HostType.plain ∈ [.plain, ⟨.named, some "IndexName"⟩] := List.mem_cons_self
  obtain ⟨name, -, hname, hcount⟩ :=
    hdeclared ⟨.named, some "IndexName"⟩ (List.mem_cons_of_mem _ List.mem_cons_self) rfl
  cases hname
  exact ⟨get, search, g, hnodup, hg, hwrappers, hnames, ((hhosts .plain).mp hplain).1, hcount⟩

end Routewright
