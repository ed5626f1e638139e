import Routewright.Proofs.TypeNames

/-!
# Spellings of one type

A type is named by the words of its spelling, and what stands between words is lost. So texts that
are joined by separators give what they give one by one (`pascal_join`), and a spelling that was
turned into a name already gives the same name again. A url part is turned into a type name at once,
and a declared type first into a name of its own and then into that of a shared type, which is why
both are one type (`SpecType.shared_host_other`, `exists_wrappers_of_same_spelling`).
-/

namespace Routewright

open Code Outcome

variable {policy : Policy}

/-! ## Words between separators -/

/-- A separator ends the word before it, and a new one starts behind it. -/
theorem pascalFrom_append_cons {c : Char} (hc : c.isAlphanum = false) (rest : List Char) :
    ∀ (chars : List Char) (fresh : Bool),
      pascalFrom fresh (chars ++ c :: rest) = pascalFrom fresh chars ++ pascalFrom true rest
  | [], fresh => by
    have hfresh : pascalFrom fresh (c :: rest) = pascalFrom true rest := by
      rw [pascalFrom.eq_2, if_neg (Bool.eq_false_iff.mp hc)]
    exact hfresh
  | d :: chars, fresh => by
    rw [List.cons_append, pascalFrom, pascalFrom]
    by_cases hd : d.isAlphanum
    · rw [if_pos hd, if_pos hd, pascalFrom_append_cons hc rest chars, List.cons_append]
    · rw [if_neg hd, if_neg hd, pascalFrom_append_cons hc rest chars]

theorem pascalFrom_separators {rest : List Char} :
    ∀ {separators : List Char}, (∀ c ∈ separators, c.isAlphanum = false) →
      pascalFrom true (separators ++ rest) = pascalFrom true rest
  | [], _ => rfl
  | c :: separators, h => by
    obtain ⟨hc, hseparators⟩ := List.forall_mem_cons.mp h
    rw [List.cons_append, pascalFrom, if_neg (Bool.eq_false_iff.mp hc),
      pascalFrom_separators hseparators]

/-- Whether a text separates words : it is not empty and has no letters and digits. -/
def SeparatesWords (s : String) : Prop :=
  s ≠ "" ∧ ∀ c ∈ s.toList, c.isAlphanum = false

instance (s : String) : Decidable (SeparatesWords s) :=
  decidable_of_iff (s ≠ "" ∧ s.toList.all (!·.isAlphanum) = true) (by simp [SeparatesWords])

/-- Texts on both sides of a separator are capitalised on their own. -/
theorem pascal_append {separator : String} (h : SeparatesWords separator) (s t : String) :
    pascal (s ++ (separator ++ t)) = pascal s ++ pascal t := by
  obtain ⟨hne, hchars⟩ := h
  cases hseparator : separator.toList with
  | nil => exact absurd (String.toList_eq_nil_iff.mp hseparator) hne
  | cons c separators =>
    rw [hseparator] at hchars
    obtain ⟨hc, hseparators⟩ := List.forall_mem_cons.mp hchars
    rw [pascal, String.toList_append, String.toList_append, hseparator, List.cons_append,
      pascalFrom_append_cons hc, pascalFrom_separators hseparators, String.ofList_append]
    rfl

/-- Texts with a separator in front of each but the first are capitalised one by one. -/
theorem pascal_join :
    ∀ {rest : List (String × String)}, (∀ p ∈ rest, SeparatesWords p.1) → ∀ first : String,
      pascal (first ++ String.join (rest.map fun p => p.1 ++ p.2)) =
        pascal first ++ String.join (rest.map fun p => pascal p.2)
  | [], _, first => by
    rw [List.map_nil, List.map_nil, String.join_nil, String.append_empty, String.append_empty]
  | (separator, next) :: rest, h, first => by
    obtain ⟨hseparator, hrest⟩ := List.forall_mem_cons.mp h
    rw [List.map_cons, List.map_cons, String.join_cons, String.join_cons, String.append_assoc,
      pascal_append hseparator, pascal_join hrest]

/-! ## Names of types -/

theorem isLower_toUpper {c : Char} (h : c.isAlphanum) : c.toUpper.isLower = false :=
  forall_isAlphanum (P := fun c => c.toUpper.isLower = false) (by decide +kernel) h

/-- A capitalised name does not start in lower case. -/
theorem isLower_head?_pascal {s : String} : ∀ c ∈ (pascal s).toList.head?, c.isLower = false := by
  intro c hc
  rw [head?_pascal] at hc
  obtain ⟨d, hd, rfl⟩ := Option.map_eq_some_iff.mp hc
  exact isLower_toUpper (List.find?_some hd)

theorem sharedTypeName_pascal (s : String) : sharedTypeName (pascal s) = sharedTypeName s := by
  rw [sharedTypeName, sharedTypeName, pascal_pascal]

/-- No shared type has the name of a type that is always there. -/
theorem sharedTypeName_not_mem (s : String) : sharedTypeName s ∉ sharedTypeNames := by
  have hpart : ∀ name ∈ sharedTypeNames, name ++ "Part" ∉ sharedTypeNames := by decide
  rw [sharedTypeName]
  split_ifs with hmem
  · exact hpart _ hmem
  · exact hmem

/-- A declared type outside the scalars is known by the name that a url part of its spelling has,
and it is refused just when such a part is. -/
theorem SpecType.shared_host_other (s : String) :
    (SpecType.host { kind := .other, name := some s }).map HostType.shared =
      if isTypeName (sharedTypeName s) then .ok (.generated (sharedTypeName s))
      else .error (.unmappedType (some s)) := by
  have hnone : SpecKind.other.host? = none := rfl
  have hhost : SpecType.host { kind := .other, name := some s } =
      if isTypeName (pascal s) then .ok (.generated (pascal s))
      else .error (.unmappedType (some s)) := by
    simp only [SpecType.host, SpecType.host?, hnone, Option.getD_some]
    split_ifs <;> rfl
  have hshared : (HostType.generated (pascal s)).shared = .generated (sharedTypeName s) :=
    congrArg HostType.generated (sharedTypeName_pascal s)
  rw [hhost, ← hshared]
  simp only [isTypeName_sharedTypeName]
  split_ifs <;> rfl

/-! ## One type for one spelling -/

theorem isTypeName_of_isCapitalised {s : String} (h : isCapitalised s.toList = true) :
    isTypeName s = true := by
  obtain ⟨⟨c, hc, hupper⟩, hchars⟩ := isCapitalised_iff.mp h
  have hdigit : c.isUpper = true → c.isDigit = false :=
    forall_isAlphanum (P := fun c => c.isUpper = true → c.isDigit = false) (by decide +kernel)
      (hchars c (List.mem_of_mem_head? hc))
  exact isTypeName_iff.mpr ⟨c, hc, hdigit hupper⟩

section Generate

variable {endpoints : List Endpoint} {g : Generated} (h : generate endpoints policy = .ok g)

include h

/-- A part that is declared with a type outside the scalars is made from the wrapper of the part
whose spelling the type has, if it is not that wrapper itself. -/
theorem exists_wrappers_of_same_spelling {d e : Endpoint} (hd : d.IsLast g.endpoints)
    (he : e.IsLast g.endpoints) {part typed : String} (hpart : d.HasPart part)
    (htyped : Table.find? typed e.parts = some { kind := .other, name := some part }) :
    ∃ w ∈ g.code.wrappers, w.name = sharedTypeName part ∧
      ∃ v ∈ g.code.wrappers, v.name = sharedTypeName typed ∧
        (v = w ∨ HostType.generated w.name ∈ v.hosts) := by
  obtain ⟨w, hw, hwname⟩ := exists_wrapper_of_generate h hd hpart
  have htypedPart : e.HasPart typed := .inl (List.mem_map_of_mem (Table.mem_of_find? htyped))
  obtain ⟨v, hv, hvname⟩ := exists_wrapper_of_generate h he htypedPart
  refine ⟨w, hw, hwname, v, hv, hvname, ?_⟩
  by_cases hsame : v.name = w.name
  · obtain ⟨-, hvdecl⟩ := (mem_wrappers_of_generate h).mp hv
    obtain ⟨-, hwdecl⟩ := (mem_wrappers_of_generate h).mp hw
    rw [hsame] at hvdecl
    exact .inl (hvdecl.trans hwdecl.symm)
  · have htype : isTypeName (sharedTypeName part) = true :=
      isTypeName_of_isCapitalised
        (isCapitalised_of_generate h (hwname ▸ textType_of_mem_wrappers h hw))
    have hshared := SpecType.shared_host_other part
    rw [if_pos htype, ← hwname] at hshared
    obtain ⟨host, hhost, heq⟩ := map_eq_ok.mp hshared
    have hpartHost : e.PartHost typed host.shared := .declared htyped hhost
    refine .inr ((mem_hosts_of_generate h hv).mpr
      ⟨⟨e, he, typed, htypedPart, hvname.symm, heq ▸ hpartHost⟩, fun hname => hsame ?_⟩)
    exact (Option.some.inj (congrArg HostType.name hname)).symm

end Generate

/-- For all texts, capitalising changes nothing the second time, leaves letters and digits that do
not start in lower case, and takes texts that are joined by separators one by one. The name of a
shared type is its own name and that of its capitalised spelling, and no name of a type that is
always there. So a declared type outside the scalars is known by the name of the part that is
spelled like it, and in whatever is generated the wrapper of that part is what stands for it. -/
theorem type_spellings_agree :
    (∀ s, pascal (pascal s) = pascal s ∧ (∀ c ∈ (pascal s).toList, c.isAlphanum) ∧
      ∀ c ∈ (pascal s).toList.head?, c.isLower = false) ∧
    (∀ (first : String) (rest : List (String × String)), (∀ p ∈ rest, SeparatesWords p.1) →
      pascal (first ++ String.join (rest.map fun p => p.1 ++ p.2)) =
        pascal first ++ String.join (rest.map fun p => pascal p.2)) ∧
    (∀ s, sharedTypeName (sharedTypeName s) = sharedTypeName s ∧
      sharedTypeName (pascal s) = sharedTypeName s ∧ sharedTypeName s ∉ sharedTypeNames) ∧
    (∀ s, (SpecType.host { kind := .other, name := some s }).map HostType.shared =
      if isTypeName (sharedTypeName s) then .ok (.generated (sharedTypeName s))
      else .error (.unmappedType (some s))) ∧
    ∀ (policy : Policy) (endpoints : List Endpoint) (g : Generated),
      generate endpoints policy = .ok g →
      ∀ d e : Endpoint, d.IsLast g.endpoints → e.IsLast g.endpoints →
      ∀ part typed : String, d.HasPart part →
        Table.find? typed e.parts = some { kind := .other, name := some part } →
        ∃ w ∈ g.code.wrappers, w.name = sharedTypeName part ∧
          ∃ v ∈ g.code.wrappers, v.name = sharedTypeName typed ∧
            (v = w ∨ HostType.generated w.name ∈ v.hosts) := by
  refine ⟨fun s => ⟨pascal_pascal s, isAlphanum_of_mem_pascal, isLower_head?_pascal⟩,
    fun first rest hrest => pascal_join hrest first,
    fun s => ⟨sharedTypeName_sharedTypeName s, sharedTypeName_pascal s, sharedTypeName_not_mem s⟩,
    SpecType.shared_host_other, ?_⟩
  intro policy endpoints g hg d e hd he part typed hpart htyped
  exact exists_wrappers_of_same_spelling hg hd he hpart htyped

/-- The words of a spelling between separators of several characters, and a part that is called like
a type that is always there beside one that is declared with a type of that spelling. -/
theorem type_spellings_agree_url :
    pascal "date--time.s3" = "DateTimeS3" ∧
    ∃ (get search : Endpoint) (g : Generated),
      generate [get, search] {} = .ok g ∧ get.IsLast g.endpoints ∧ search.IsLast g.endpoints ∧
      get.HasPart "url" ∧
      Table.find? "target" search.parts = some { kind := .other, name := some "url" } ∧
      ∃ w ∈ g.code.wrappers, w.name = "UrlPart" ∧ ∃ v ∈ g.code.wrappers, v.name = "Target" ∧
        HostType.generated "UrlPart" ∈ v.hosts := by
  obtain ⟨-, hwords, -, -, hrun⟩ := type_spellings_agree
  refine ⟨hwords "date" [("--", "time"), (".", "s3")] (by decide), ?_⟩
  let get : Endpoint :=
    { name := "get", methods := [.get], paths := [⟨"/{url}", [.literal "/", .param "url"]⟩] }
  let search : Endpoint :=
    { name := "search", methods := [.get],
      paths := [⟨"/_go/{target}", [.literal "/_go/", .param "target"]⟩],
      parts := [("target", ⟨.other, some "url"⟩)] }
  obtain ⟨g, hg, hendpoints⟩ : ∃ g, generate [get, search] {} = .ok g ∧
      g.endpoints = [get, search] := by
    subst get search
    exact ⟨_, rfl, rfl⟩
  have hget : get.IsLast g.endpoints := ⟨[], [search], hendpoints, by decide⟩
  have hsearch : search.IsLast g.endpoints := ⟨[get], [], hendpoints, by decide⟩
  have hpart : get.HasPart "url" := .inr ⟨_, List.mem_singleton.mpr rfl, by decide⟩
  have htyped : Table.find? "target" search.parts =
      some { kind := .other, name := some "url" } := by decide
  obtain ⟨w, hw, hwname, v, hv, hvname, hsame⟩ :=
    hrun {} [get, search] g hg get search hget hsearch "url" "target" hpart htyped
  have hurl : sharedTypeName "url" = "UrlPart" := by decide
  have htarget : sharedTypeName "target" = "Target" := by decide
  rw [hurl] at hwname
  rw [htarget] at hvname
  refine ⟨get, search, g, hg, hget, hsearch, hpart, htyped, w, hw, hwname, v, hv, hvname, ?_⟩
  have hdistinct : v ≠ w := by
    rintro rfl
    exact absurd (hwname.symm.trans hvname) (by decide)
  exact hwname ▸ hsame.resolve_left hdistinct

end Routewright
