import Routewright.Proofs.Identifiers

/-!
# The text types of all endpoints

The types of an endpoint are entered under its name, so that of endpoints with one name it is the
last whose types are declared (`Endpoint.IsLast`). Which text types there are, what they are called
and what wrappers are made from is said here for all lists of endpoints, whatever their names.
-/

namespace Routewright

open Code Outcome

variable {policy : Policy}

/-! ## Capitalised names -/

/-- Whether a text is a capital followed by letters and digits. -/
def isCapitalised : List Char → Bool
  | [] => false
  | c :: cs => c.isUpper && cs.all Char.isAlphanum

theorem isCapitalised_iff {cs : List Char} :
    isCapitalised cs = true ↔
      (∃ c ∈ cs.head?, c.isUpper = true) ∧ ∀ c ∈ cs, c.isAlphanum = true := by
  cases cs with
  | nil => simp [isCapitalised]
  | cons d ds =>
    rw [isCapitalised, Bool.and_eq_true, List.all_eq_true, List.forall_mem_cons]
    constructor
    · rintro ⟨hd, hds⟩
      have halpha : d.isAlpha = true := Bool.or_eq_true_iff.mpr (.inl hd)
      have halnum : d.isAlphanum = true := Bool.or_eq_true_iff.mpr (.inl halpha)
      exact ⟨⟨d, rfl, hd⟩, halnum, hds⟩
    · rintro ⟨⟨c, hc, hupper⟩, -, hds⟩
      obtain rfl := Option.some.inj hc
      exact ⟨hupper, hds⟩

theorem isUpper_toUpper {c : Char} (h : c.isAlphanum) (hdigit : c.toUpper.isDigit = false) :
    c.toUpper.isUpper = true :=
  forall_isAlphanum (P := fun c => c.toUpper.isDigit = false → c.toUpper.isUpper = true)
    (by decide +kernel) h hdigit

/-- The name of a shared type that is a word is capitalised. -/
theorem isCapitalised_sharedTypeName {s : String} (h : isWord (sharedTypeName s).toList = true) :
    isCapitalised (sharedTypeName s).toList = true := by
  have hshared : ∀ name ∈ sharedTypeNames, isCapitalised (name ++ "Part").toList = true := by decide
  have htype := isWord_sharedTypeName.mp h
  rw [isTypeName_iff, head?_pascal] at htype
  rw [sharedTypeName]
  split_ifs with hmem
  · exact hshared _ hmem
  · obtain ⟨c, hc, hdigit⟩ := htype
    obtain ⟨d, hd, rfl⟩ := Option.map_eq_some_iff.mp hc
    rw [isCapitalised_iff, head?_pascal]
    exact ⟨⟨_, hc, isUpper_toUpper (List.find?_some hd) hdigit⟩, isAlphanum_of_mem_pascal⟩

/-! ## The types of an endpoint -/

/-- A host type is known by the name of a shared type just when it stands for a generated type. -/
theorem HostType.WellNamed.name_shared_iff {host : HostType} (h : host.WellNamed) {name : String} :
    host.shared.name = some name ↔
      host.kind = .named ∧ name = sharedTypeName (host.name.getD "") := by
  unfold HostType.shared
  split
  · next hkind =>
    rw [and_iff_right hkind, Option.some_inj, eq_comm]
  · next hkind =>
    refine iff_of_false (fun heq => hkind (h.mpr ?_)) fun h => hkind h.1
    rw [heq]
    rfl

namespace Endpoint

/-- An endpoint that none of those after it takes the place of. -/
def IsLast (e : Endpoint) (endpoints : List Endpoint) : Prop :=
  ∃ before after, endpoints = before ++ e :: after ∧ ∀ other ∈ after, other.name ≠ e.name

/-- A url part leads to a text type of a name : its wrapper, or the type that it is declared
with. -/
def GivesType (e : Endpoint) (part name : String) : Prop :=
  sharedTypeName part = name ∨ ∃ host, e.PartHost part host ∧ host.name = some name

end Endpoint

/-- Parts add the text types that they lead to. -/
theorem SharedTypes.mem_names_ofParts_iff {e : Endpoint} {name : String} :
    ∀ {parts : List String} {types after : SharedTypes}, ofParts e types parts = .ok after →
      (name ∈ after.names ↔ (∃ part ∈ parts, e.GivesType part name) ∨ name ∈ types.names)
  | [], _, _, h => by
    cases h
    simp
  | part :: parts, types, after, h => by
    obtain ⟨-, host, hhost, h⟩ := ofParts_cons_eq_ok h
    have hgives : e.GivesType part name ↔ name = sharedTypeName part ∨
        (host.kind = .named ∧ name = sharedTypeName (host.name.getD "")) := by
      rw [Endpoint.GivesType, eq_comm,
        ← (Endpoint.wellNamed_partHost hhost).name_shared_iff]
      simp only [Endpoint.partHost_iff hhost, exists_eq_left]
    rw [mem_names_ofParts_iff h, mem_names_addPart_iff, List.exists_mem_cons_iff, hgives]
    exact (or_congr_right or_assoc.symm).trans (or_left_comm.trans or_assoc.symm)

/-- The text types of an endpoint are those that its parts lead to. -/
theorem Endpoint.mem_names_sharedTypes_iff {e : Endpoint} {types : SharedTypes} {name : String}
    (h : e.sharedTypes = .ok types) :
    name ∈ types.names ↔ ∃ part, e.HasPart part ∧ e.GivesType part name := by
  have hnone : name ∉ ({} : SharedTypes).names := List.not_mem_nil
  rw [SharedTypes.mem_names_ofParts_iff h, or_iff_left hnone]
  simp only [mem_partNames_iff]

/-- The host type that stands for the generated type of a name. -/
def HostType.generated (name : String) : HostType :=
  { kind := .named, name := some name }

/-- The host type of a part is a scalar, or stands for a generated type. -/
theorem Endpoint.PartHost.eq_scalar_or_generated {e : Endpoint} {part : String} {host : HostType}
    (h : e.PartHost part host) :
    (∃ kind, kind ≠ .named ∧ host = { kind }) ∨ ∃ name, host = .generated name := by
  cases h with
  | undeclared => exact .inl ⟨.text, by decide, rfl⟩
  | @declared type host _ hhost =>
    rcases type.host_eq_ok hhost with ⟨kind, hkind, rfl⟩ | ⟨-, rfl⟩
    · have hscalar : kind ≠ .named := fun heq => type.kind.host?_ne_named (heq ▸ hkind)
      refine .inl ⟨kind, hscalar, ?_⟩
      unfold HostType.shared
      split
      · next hnamed => exact absurd hnamed hscalar
      · rfl
    · exact .inr ⟨_, rfl⟩

/-! ## The types of all endpoints -/

/-- Types that are entered under the names of endpoints are those of the last endpoint of each
name. -/
theorem Lowered.exists_ofList_iff {lowered : List (Lowered policy)} {Q : SharedTypes → Prop}
    {R : Endpoint → Prop}
    (hQ : ∀ {e : Endpoint} {types : SharedTypes}, e.sharedTypes = .ok types → (Q types ↔ R e)) :
    (∃ t ∈ Table.ofList (typeTable lowered), Q t.2) ↔
      ∃ e : Endpoint, e.IsLast (lowered.map Lowered.endpoint) ∧ R e := by
  have hlowered : ∀ l : Lowered policy, Q l.types ↔ R l.endpoint := fun l => by
    obtain ⟨method, tokens, hl⟩ := Endpoint.requests_eq_ok l.requests_eq
    exact hQ hl.sharedTypes_eq
  simp only [Table.mem_ofList_iff]
  constructor
  · rintro ⟨t, ⟨before, after, heq, hlast⟩, ht⟩
    obtain ⟨front, back, rfl, -, hback⟩ := List.map_eq_append_iff.mp heq
    obtain ⟨l, rest, rfl, rfl, rfl⟩ := List.map_eq_cons_iff.mp hback
    refine ⟨l.endpoint, ⟨_, _, List.map_append, ?_⟩, (hlowered l).mp ht⟩
    rw [List.forall_mem_map]
    exact fun other hother heq =>
      hlast (List.mem_map.mpr ⟨_, List.mem_map_of_mem hother, heq⟩)
  · rintro ⟨e, ⟨before, after, heq, hlast⟩, he⟩
    obtain ⟨front, back, rfl, -, hback⟩ := List.map_eq_append_iff.mp heq
    obtain ⟨l, rest, rfl, rfl, rfl⟩ := List.map_eq_cons_iff.mp hback
    refine ⟨(l.endpoint.name, l.types), ⟨_, _, List.map_append, fun hmem => ?_⟩,
      (hlowered l).mpr he⟩
    obtain ⟨t, ht, hname⟩ := List.mem_map.mp hmem
    obtain ⟨other, hother, rfl⟩ := List.mem_map.mp ht
    exact hlast other.endpoint (List.mem_map_of_mem hother) hname

theorem Lowered.arranged_ofList (lowered : List (Lowered policy)) :
    ∀ t ∈ Table.ofList (typeTable lowered), SharedTypes.Arranged t.2.wrappers := fun t ht =>
  Generated.IsMadeOf.arranged_typeTable lowered t
    ((Table.mem_foldl_put ht).resolve_right List.not_mem_nil)

/-- The types of a generation are those of its endpoints, of endpoints with one name the last. -/
theorem types_of_generate {endpoints : List Endpoint} {g : Generated}
    (h : generate endpoints policy = .ok g) :
    ∃ lowered : List (Lowered policy), g.endpoints = lowered.map Lowered.endpoint ∧
      g.code = assemble (lowered.flatMap Lowered.items) g.types ∧
      g.types = mergeTypes (Table.ofList (Lowered.typeTable lowered)) := by
  obtain ⟨normalized, -, h⟩ := bind_eq_ok.mp h
  obtain ⟨described, hdescribed, h⟩ := bind_eq_ok.mp h
  obtain ⟨_, -, h⟩ := bind_eq_ok.mp h
  cases h
  obtain ⟨lowered, rfl, -, htypes, hitems⟩ := Described.ofEndpoints_eq_foldl hdescribed
  exact ⟨lowered, rfl, by rw [hitems, List.nil_append], by rw [htypes, Table.ofList]⟩

section Generate

variable {endpoints : List Endpoint} {g : Generated} (h : generate endpoints policy = .ok g)

include h

/-- The text types of a generation are those that the parts of its endpoints lead to. -/
theorem mem_textTypes_of_generate {name : String} :
    name ∈ g.code.textTypes ↔ ∃ e : Endpoint, e.IsLast g.endpoints ∧
      ∃ part, e.HasPart part ∧ e.GivesType part name := by
  obtain ⟨lowered, hendpoints, hcode, htypes⟩ := types_of_generate h
  rw [hcode, Module.textTypes_assemble, SharedTypes.mem_declared, htypes,
    SharedTypes.mem_names_mergeTypes, hendpoints]
  exact Lowered.exists_ofList_iff fun hshared => Endpoint.mem_names_sharedTypes_iff hshared

theorem arranged_of_generate : SharedTypes.Arranged g.types.wrappers := by
  obtain ⟨lowered, -, -, htypes⟩ := types_of_generate h
  exact htypes ▸ SharedTypes.arranged_mergeTypes (Lowered.arranged_ofList lowered)

/-- The hosts under the name of a wrapper are those of the parts that it is named after. -/
theorem mem_hostsOf_of_generate {name : String} {host : HostType} :
    host ∈ SharedTypes.hostsOf name g.types.wrappers ↔ ∃ e : Endpoint, e.IsLast g.endpoints ∧
      ∃ part, e.HasPart part ∧ sharedTypeName part = name ∧ e.PartHost part host := by
  obtain ⟨lowered, hendpoints, -, htypes⟩ := types_of_generate h
  rw [htypes, SharedTypes.mem_hostsOf_mergeTypes (Lowered.arranged_ofList lowered), hendpoints]
  exact Lowered.exists_ofList_iff fun hshared => Endpoint.mem_hostsOf_sharedTypes hshared

/-- A wrapper is made from the hosts under its name, itself apart. -/
theorem mem_wrappers_of_generate {w : Wrapper} :
    w ∈ g.code.wrappers ↔ w.name ∈ Table.keys g.types.wrappers ∧
      w = SharedTypes.wrapperDecl w.name (SharedTypes.hostsOf w.name g.types.wrappers) := by
  have harranged := arranged_of_generate h
  obtain ⟨lowered, -, hcode, -⟩ := types_of_generate h
  rw [hcode, Module.wrappers_assemble, List.mem_map]
  constructor
  · rintro ⟨⟨name, hosts⟩, hentry, rfl⟩
    refine ⟨List.mem_map_of_mem hentry, ?_⟩
    exact congrArg (SharedTypes.wrapperDecl name) (harranged.hostsOf_eq hentry).symm
  · rintro ⟨hname, heq⟩
    obtain ⟨⟨name, hosts⟩, hentry, hname⟩ := List.mem_map.mp hname
    refine ⟨(name, hosts), hentry, ?_⟩
    rw [heq, ← hname, harranged.hostsOf_eq hentry]

/-- Text types have capitalised names. -/
theorem isCapitalised_of_generate {name : String} (hname : name ∈ g.code.textTypes) :
    isCapitalised name.toList = true := by
  obtain ⟨-, lowered, -, hcode, types, hsubset, htypes⟩ := items_of_generate h
  rw [hcode, Module.textTypes_assemble, SharedTypes.mem_declared, htypes] at hname
  have hword := isWord_of_mem_types hsubset hname
  obtain ⟨l, -, hl, hmem⟩ := exists_of_mem_types hsubset hname
  obtain ⟨s, rfl⟩ := Endpoint.mem_names_sharedTypes hl hmem
  exact isCapitalised_sharedTypeName hword

/-- The wrapper of a part is there. -/
theorem exists_wrapper_of_generate {e : Endpoint} (he : e.IsLast g.endpoints) {part : String}
    (hpart : e.HasPart part) : ∃ w ∈ g.code.wrappers, w.name = sharedTypeName part := by
  obtain ⟨lowered, hendpoints, -, htypes⟩ := types_of_generate h
  have hkey : sharedTypeName part ∈ Table.keys g.types.wrappers := by
    rw [htypes, SharedTypes.mem_keys_mergeTypes]
    exact (Lowered.exists_ofList_iff fun hshared => Endpoint.mem_keys_sharedTypes hshared).mpr
      ⟨e, hendpoints ▸ he, part, hpart, rfl⟩
  exact ⟨SharedTypes.wrapperDecl (sharedTypeName part)
    (SharedTypes.hostsOf (sharedTypeName part) g.types.wrappers),
    (mem_wrappers_of_generate h).mpr ⟨hkey, rfl⟩, rfl⟩

/-- Wrappers are text types. -/
theorem textType_of_mem_wrappers {w : Wrapper} (hw : w ∈ g.code.wrappers) :
    w.name ∈ g.code.textTypes := by
  obtain ⟨-, lowered, -, hcode, -⟩ := items_of_generate h
  rw [hcode, Module.textTypes_assemble, SharedTypes.mem_declared, SharedTypes.mem_names]
  exact .inl ((mem_wrappers_of_generate h).mp hw).1

/-- A wrapper is made from the hosts of the parts that it is named after, itself apart. -/
theorem mem_hosts_of_generate {w : Wrapper} (hw : w ∈ g.code.wrappers) {host : HostType} :
    host ∈ w.hosts ↔ (∃ e : Endpoint, e.IsLast g.endpoints ∧ ∃ part, e.HasPart part ∧
      sharedTypeName part = w.name ∧ e.PartHost part host) ∧ host ≠ .generated w.name := by
  obtain ⟨-, heq⟩ := (mem_wrappers_of_generate h).mp hw
  have hhosts : w.hosts = (SharedTypes.hostsOf w.name g.types.wrappers).filter fun host =>
      !(host.kind = .named && host.name = some w.name) := congrArg Wrapper.hosts heq
  rw [hhosts, List.mem_filter, mem_hostsOf_of_generate h]
  refine and_congr_right fun _ => ?_
  obtain ⟨kind, name⟩ := host
  simp [HostType.generated, imp_iff_not_or]

/-- Records are those of endpoints, and called like them. -/
theorem exists_tokens_of_record {r : Record} (hr : .record r ∈ g.code.items) :
    ∃ tokens, r.name = requestTypeName tokens := by
  obtain ⟨-, lowered, -, hcode, -⟩ := items_of_generate h
  rw [hcode, items_assemble] at hr
  rcases List.mem_append.mp hr with hr | hr
  · obtain ⟨l, -, hr⟩ := List.mem_flatMap.mp hr
    obtain ⟨method, tokens, hl⟩ := Endpoint.requests_eq_ok l.requests_eq
    obtain ⟨functions, -, hitems⟩ := Request.items_eq_ok l.items_eq
    have hr : r ∈ Request.recordsOf l.requests := by simpa [hitems] using hr
    obtain ⟨path, -, rfl⟩ := hl.mem_recordsOf hr
    exact ⟨tokens, rfl⟩
  · simp [SharedTypes.items] at hr

/-- Text types are declared as such, and nothing else is. -/
theorem filterMap_textType_of_generate :
    g.code.items.filterMap Item.textType? = g.code.textTypes := by
  obtain ⟨-, lowered, -, hcode, -⟩ := items_of_generate h
  have hnone : (lowered.flatMap Lowered.items).filterMap Item.textType? = [] := by
    refine List.filterMap_eq_nil_iff.mpr fun i hi => ?_
    obtain ⟨l, -, hi⟩ := List.mem_flatMap.mp hi
    obtain ⟨functions, -, hitems⟩ := Request.items_eq_ok l.items_eq
    rw [hitems] at hi
    rcases List.mem_append.mp hi with hi | hi <;> obtain ⟨_, -, rfl⟩ := List.mem_map.mp hi <;> rfl
  rw [hcode, items_assemble, List.filterMap_append, hnone, Module.textTypes,
    Module.group_assemble, List.nil_append]

/-- The types that are declared beside the prelude are records and text types. -/
theorem forall_typeNames_iff {P : String → Prop} :
    (∀ i ∈ g.code.items, i ≠ .prelude → ∀ name ∈ i.typeNames, P name) ↔
      (∀ r, .record r ∈ g.code.items → P r.name) ∧ ∀ name ∈ g.code.textTypes, P name := by
  rw [← filterMap_textType_of_generate h]
  constructor
  · refine fun hall => ⟨fun r hr => hall _ hr nofun _ List.mem_cons_self, fun name hname => ?_⟩
    obtain ⟨i, hi, htype⟩ := List.mem_filterMap.mp hname
    cases i with
    | function | record | prelude => cases htype
    | wrapper | namedText =>
      cases htype
      exact hall _ hi nofun _ List.mem_cons_self
  · rintro ⟨hrecords, htexts⟩ i hi hprelude name hname
    cases i with
    | function => exact absurd hname List.not_mem_nil
    | prelude => exact absurd rfl hprelude
    | record r => exact List.mem_singleton.mp hname ▸ hrecords r hi
    | wrapper | namedText =>
      obtain rfl := List.mem_singleton.mp hname
      exact htexts _ (List.mem_filterMap.mpr ⟨_, hi, rfl⟩)

end Generate

end Routewright
