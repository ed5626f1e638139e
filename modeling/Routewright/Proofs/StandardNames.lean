import Routewright.Proofs.Conversions

/-!
# Names of the standard library

What every file holds, and what is written around names, looks names of the standard library up
(`Target.standardNames`). A type of the file that is written as one of them takes its place.

Names of records end in a word of their own. Names of text types are capitalised spellings of url
parts and of declared types, which are kept apart from the types of the prelude only, so that
`generate_standardNames_iff` says which parts lead to a name of the standard library. In Rust a
wrapper has one conversion for each type that it is made from (`Rust.wrapper_eq`), and these, with
the conversion from itself that every type has, are for different types unless a text type is called
like the text of the standard library.
-/

namespace Routewright

open Code Outcome

variable {policy : Policy}

/-! ## Names that are looked up -/

namespace Target

/-- The names of the standard library that generated files look up under no other name. -/
def standardNames : Target → List String
  | .python => ["Optional", "Union", "ValueError", "bool", "bytes", "classmethod", "dataclass",
      "dict", "enum", "field", "float", "int", "isinstance", "len", "list", "str", "super"]
  | .rust => ["BTreeMap", "Deref", "From", "None", "Option", "Some", "String", "Vec"]

end Target

/-- A capitalised name that is reserved is written as no standard name, any other as itself. -/
theorem Target.ident_mem_standardNames_iff (target : Target) {name : String}
    (h : isCapitalised name.toList = true) :
    target.ident name ∈ target.standardNames ↔ name ∈ target.standardNames := by
  have hreserved : ∀ w ∈ target.reserved, isCapitalised w.toList = true →
      target.escape w ∉ target.standardNames ∧ w ∉ target.standardNames := by
    cases target <;> decide
  rw [ident_eq]
  by_cases hname : name ∈ target.reserved
  · obtain ⟨hescaped, hself⟩ := hreserved name hname h
    rw [escapeReserved_of_mem hname]
    exact iff_of_false hescaped hself
  · rw [escapeReserved_of_not_mem hname]

/-- The name of a record is written as no standard name. -/
theorem Target.ident_requestTypeName_not_mem (target : Target) (tokens : List String) :
    target.ident (requestTypeName tokens) ∉ target.standardNames := by
  have hsuffix : "Request".toList <:+ (requestTypeName tokens).toList := by
    rw [requestTypeName, String.toList_append]
    exact List.suffix_append _ _
  have hreserved : ∀ w ∈ target.reserved, ¬"Request".toList <:+ w.toList := by
    cases target <;> decide
  have hstandard : ∀ w ∈ target.standardNames, ¬"Request".toList <:+ w.toList := by
    cases target <;> decide
  rw [ident_eq, escapeReserved_of_not_mem fun hmem => hreserved _ hmem hsuffix]
  exact fun hmem => hstandard _ hmem hsuffix

/-! ## Names that are taken -/

/-- In what is generated, no record is written as a standard name, and no type at all is, just when
no url part leads to a text type that is called so. A Rust wrapper is a struct, one conversion after
the other from text and from the types of its hosts, and how its text is reached. With the
conversion from itself that every type has, its conversions are from different types, for all
wrappers, just when no url part leads to a text type called `String`. Of endpoints with one name the
last is meant. -/
theorem generate_standardNames_iff {endpoints : List Endpoint} {g : Generated}
    (h : generate endpoints policy = .ok g) :
    (∀ target : Target,
      (∀ r, .record r ∈ g.code.items → target.ident r.name ∉ target.standardNames) ∧
      ((∀ i ∈ g.code.items, i ≠ .prelude → ∀ name ∈ i.typeNames,
          target.ident name ∉ target.standardNames) ↔
        ∀ e : Endpoint, e.IsLast g.endpoints → ∀ part, e.HasPart part → ∀ name,
          e.GivesType part name → name ∉ target.standardNames)) ∧
    (∀ w ∈ g.code.wrappers,
      (∀ host ∈ w.hosts, Rust.host host ∈ (Rust.conversions w).map Rust.Conversion.source) ∧
      ∃ before after, '<' ∉ before.toList ∧ '<' ∉ after.toList ∧
        Rust.item (.wrapper w) = before ++
          String.join ((Rust.conversions w).map (Rust.Conversion.item (Rust.ident w.name))) ++
          after) ∧
    ((∀ w ∈ g.code.wrappers,
        (Rust.ident w.name :: (Rust.conversions w).map Rust.Conversion.source).Nodup) ↔
      ∀ e : Endpoint, e.IsLast g.endpoints → ∀ part, e.HasPart part →
        ¬e.GivesType part "String") := by
  have hrecords : ∀ target : Target, ∀ r, .record r ∈ g.code.items →
      target.ident r.name ∉ target.standardNames := fun target r hr => by
    obtain ⟨tokens, hname⟩ := exists_tokens_of_record h hr
    exact hname ▸ target.ident_requestTypeName_not_mem tokens
  refine ⟨fun target => ⟨hrecords target, ?_⟩, fun w hw => ⟨fun host hhost => ?_, ?_⟩,
    forall_nodup_sources_iff h⟩
  · have hwritten : ∀ name ∈ g.code.textTypes,
        (target.ident name ∉ target.standardNames ↔ name ∉ target.standardNames) :=
      fun name hname => not_congr
        (target.ident_mem_standardNames_iff (isCapitalised_of_generate h hname))
    rw [forall_typeNames_iff h, and_iff_right (hrecords target), forall₂_congr hwritten]
    constructor
    · exact fun hall e he part hpart name hgives =>
        hall name ((mem_textTypes_of_generate h).mpr ⟨e, he, part, hpart, hgives⟩)
    · intro hall name hname
      obtain ⟨e, he, part, hpart, hgives⟩ := (mem_textTypes_of_generate h).mp hname
      exact hall e he part hpart name hgives
  · exact Rust.host_mem_sources hhost
  · have hdoc : w.doc = "" := congrArg Wrapper.doc ((mem_wrappers_of_generate h).mp hw).2
    have hcapital := isCapitalised_of_generate h (textType_of_mem_wrappers h hw)
    have hname := Rust.not_mem_ident hcapital
    exact ⟨_, _, Rust.not_mem_structText hname, Rust.not_mem_accessText hname,
      Rust.wrapper_eq hdoc⟩

/-- Types that are no standard names, although they start like some. -/
theorem generate_standardNames_free :
    ∃ (get : Endpoint) (g : Generated), generate [get] {} = .ok g ∧
      g.code.textTypes = ["Index", "Optional2", "StringName"] ∧
      (∀ target : Target, ∀ i ∈ g.code.items, i ≠ .prelude → ∀ name ∈ i.typeNames,
        target.ident name ∉ target.standardNames) ∧
      ∀ w ∈ g.code.wrappers,
        (Rust.ident w.name :: (Rust.conversions w).map Rust.Conversion.source).Nodup := by
  let get : Endpoint :=
    { name := "get", methods := [.get],
      paths := [⟨"/{index}/{optional_2}",
        [.literal "/", .param "index", .literal "/", .param "optional_2"]⟩],
      parts := [("index", ⟨.other, some "string_name"⟩)] }
  obtain ⟨g, hg, htypes⟩ : ∃ g, generate [get] {} = .ok g ∧
      g.code.textTypes = ["Index", "Optional2", "StringName"] := by
    subst get
    exact ⟨_, rfl, rfl⟩
  have hgiven : ∀ e : Endpoint, e.IsLast g.endpoints → ∀ part, e.HasPart part → ∀ name,
      e.GivesType part name → name ∈ ["Index", "Optional2", "StringName"] :=
    fun e he part hpart name hgives =>
      htypes ▸ (mem_textTypes_of_generate hg).mpr ⟨e, he, part, hpart, hgives⟩
  have hfree : ∀ target : Target, ∀ name ∈ ["Index", "Optional2", "StringName"],
      name ∉ target.standardNames := by
    intro target
    cases target <;> decide
  obtain ⟨hnames, -, hsources⟩ := generate_standardNames_iff hg
  refine ⟨get, g, hg, htypes, fun target => ?_, ?_⟩
  · exact (hnames target).2.mpr fun e he part hpart name hgives =>
      hfree target name (hgiven e he part hpart name hgives)
  · exact hsources.mpr fun e he part hpart hgives =>
      hfree .rust "String" (hgiven e he part hpart _ hgives) (by decide)

/-- Parts whose names are spelled like standard names lead to types that are called so : the error
that the prelude raises in Python, and in Rust the text that a wrapper converts from. -/
theorem standardNames_taken :
    ∃ (get : Endpoint) (g : Generated),
      (∀ path ∈ get.paths, UrlPath.parse path.template = .ok path) ∧
      generate [get] {} = .ok g ∧
      Item.wrapper { name := "String", hosts := [.plain] } ∈ g.code.items ∧
      Item.wrapper { name := "ValueError", hosts := [.plain] } ∈ g.code.items ∧
      Rust.ident "String" ∈ Target.rust.standardNames ∧
      Python.ident "ValueError" ∈ Target.python.standardNames ∧
      Rust.ident "String" ∈ (Rust.conversions { name := "String", hosts := [.plain] }).map
        Rust.Conversion.source := by
  let get : Endpoint :=
    { name := "get", methods := [.get],
      paths := [⟨"/{string}/{value_error}",
        [.literal "/", .param "string", .literal "/", .param "value_error"]⟩] }
  obtain ⟨g, hg, hitems⟩ : ∃ g, generate [get] {} = .ok g ∧ g.code.items.filterMap Item.wrapper? =
      [{ name := "String", hosts := [.plain] }, { name := "ValueError", hosts := [.plain] }] := by
    subst get
    exact ⟨_, rfl, rfl⟩
  have hwrapper : ∀ w ∈ g.code.items.filterMap Item.wrapper?, .wrapper w ∈ g.code.items := by
    intro w hw
    obtain ⟨i, hi, hwrapper⟩ := List.mem_filterMap.mp hw
    cases i with
    | wrapper => exact Option.some.inj hwrapper ▸ hi
    | function | record | namedText | prelude => cases hwrapper
  rw [hitems] at hwrapper
  exact ⟨get, g, by decide, hg, hwrapper _ List.mem_cons_self,
    hwrapper _ (List.mem_cons_of_mem _ List.mem_cons_self), by decide, by decide, by decide⟩

end Routewright
