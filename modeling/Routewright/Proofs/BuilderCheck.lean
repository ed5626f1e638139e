import Routewright.Proofs.Fields
import Routewright.Proofs.Nodes

/-!
# What the check of a builder lets through

A builder is checked by counting : as many parameters as holes. That is sound for the builders of
paths, but the counts say neither that the holes of a builder that pushes are called as its
parameters, nor that a template has no braces beside its `{}`. `accepted_sound_iff` says for which
builders among those that are accepted a url is always rendered and every name of the url function
is known. What fields other than `{}` need is that of any template (`Formatting.Fillable`).
-/

namespace Routewright

open Code

/-! ## Values of holes -/

/-- A name has a value if there is one for each name. -/
theorem exists_boundValue_zip {name : String} :
    ∀ {names values : List String}, values.length = names.length → name ∈ names →
      ∃ value, boundValue name (names.zip values) = some value
  | [], _, _, h => absurd h List.not_mem_nil
  | _ :: _, [], hlen, _ => absurd hlen.symm (Nat.succ_ne_zero _)
  | n :: names, v :: values, hlen, h => by
    rw [List.zip_cons_cons, boundValue]
    cases hrest : boundValue name (names.zip values) with
    | some value => exact ⟨value, rfl⟩
    | none =>
      rcases List.mem_cons.mp h with rfl | h
      · exact ⟨v, if_pos rfl⟩
      · obtain ⟨value, hvalue⟩ := exists_boundValue_zip (Nat.succ.inj hlen) h
        rw [hrest] at hvalue
        cases hvalue

namespace UrlBuilder

theorem exists_fill {bound : List (String × String)} :
    ∀ {segments : List Segment},
      (∀ name ∈ Segment.params segments, ∃ value, boundValue name bound = some value) →
      ∃ text, fill bound segments = .ok text
  | [], _ => ⟨"", rfl⟩
  | .literal text :: rest, h => by
    obtain ⟨filled, hfilled⟩ : ∃ filled, fill bound rest = .ok filled := exists_fill h
    exact ⟨text ++ filled, by rw [fill, hfilled]; rfl⟩
  | .param name :: rest, h => by
    obtain ⟨⟨value, hvalue⟩, h⟩ := List.forall_mem_cons.mp h
    obtain ⟨filled, hfilled⟩ := exists_fill h
    exact ⟨value ++ filled, by simp only [fill, hvalue, hfilled]; rfl⟩

end UrlBuilder

/-! ## Counted and read fields -/

namespace Formatting

theorem countHoles_of_ne {c : Char} (hc : c ≠ '{') (cs : List Char) :
    countHoles (c :: cs) = countHoles cs :=
  countHoles.eq_2 c cs fun _ hopen _ => hc hopen

theorem countHoles_le_cons (c : Char) : ∀ cs : List Char, countHoles cs ≤ countHoles (c :: cs)
  | [] => Nat.zero_le _
  | d :: cs => by
    by_cases h : c = '{' ∧ d = '}'
    · obtain ⟨rfl, rfl⟩ := h
      rw [countHoles_of_ne (by decide), countHoles]
      exact Nat.le_succ _
    · rw [countHoles.eq_2 c (d :: cs)]
      rintro cs' rfl heq
      cases heq
      exact h ⟨rfl, rfl⟩

/-- What of a hole has been read already. -/
def Mode.pending : Mode → List Char
  | .opened _ => ['{']
  | _ => []

/-- The mode does not lead to a field without a name and a conversion but with a colon. -/
def Mode.Named : Mode → Prop
  | .name chars | .item chars => chars ≠ []
  | .layout _ _ _ _ => False
  | _ => True

theorem named_inName {c : Char} (hc : c ≠ ':') (chars : List Char) :
    (Mode.inName chars c).Named := by
  rw [Mode.inName]
  split_ifs <;> simp [Mode.Named]

theorem pending_inName (chars : List Char) (c : Char) : (Mode.inName chars c).pending = [] := by
  rw [Mode.inName]
  split_ifs <;> rfl

/-- Without colons, an empty field is one of the occurrences of `{}`. Others may stand inside of
doubled braces or of fields. -/
theorem count_emptyField_le :
    ∀ (cs : List Char) (mode : Mode), mode.Named → ':' ∉ cs →
      (piecesFrom mode cs).count (.field emptyField) ≤ countHoles (mode.pending ++ cs)
  | [], mode, _, _ => by
    cases mode with
    | text chars =>
      rw [piecesFrom]
      split_ifs <;> simp
    | _ => simp [piecesFrom]
  | c :: cs, mode, hmode, hcolon => by
    obtain ⟨hc, hcs⟩ := not_or.mp (mt List.mem_cons.mpr hcolon)
    have hnext : ∀ next : Mode, next.Named → next.pending = [] →
        (piecesFrom next cs).count (.field emptyField) ≤ countHoles (c :: cs) := by
      intro next hnamed hpending
      have ih := count_emptyField_le cs next hnamed hcs
      rw [hpending] at ih
      exact ih.trans (countHoles_le_cons c cs)
    cases mode with
    | text chars =>
      rw [piecesFrom]
      split_ifs with hopen
      · subst hopen
        exact count_emptyField_le cs (.opened chars) trivial hcs
      · exact hnext (.closed chars) trivial rfl
      · exact hnext (.text (c :: chars)) trivial rfl
    | opened chars =>
      have hpending := countHoles_le_cons '{' (c :: cs)
      have htext : (Piece.text chars.reverse) ≠ .field emptyField := by simp
      rw [piecesFrom]
      split_ifs with hopen hclose
      · exact (hnext (.text ('{' :: chars)) trivial rfl).trans hpending
      · subst hclose
        have ih := count_emptyField_le cs (.text []) trivial hcs
        rw [List.count_cons_of_ne htext, ← emptyField, List.count_cons_self]
        exact Nat.succ_le_succ ih
      · rw [List.count_cons_of_ne htext]
        exact (hnext _ (named_inName (Ne.symm hc) []) (pending_inName [] c)).trans hpending
    | closed chars =>
      rw [piecesFrom]
      split_ifs
      · exact hnext (.text ('}' :: chars)) trivial rfl
      · simp
    | name chars =>
      have hchars : chars ≠ [] := hmode
      rw [piecesFrom]
      split_ifs
      · simp
      · rw [List.count_cons_of_ne (by simpa [emptyField] using hchars)]
        exact hnext (.text []) trivial rfl
      · exact hnext _ (named_inName (Ne.symm hc) chars) (pending_inName chars c)
    | item chars =>
      rw [piecesFrom]
      split_ifs
      · exact hnext (.name (c :: chars)) (List.cons_ne_nil _ _) rfl
      · exact hnext (.item (c :: chars)) (List.cons_ne_nil _ _) rfl
    | conversion name => exact hnext (.converted name c) trivial rfl
    | converted name conversion =>
      rw [piecesFrom, if_neg (Ne.symm hc)]
      split_ifs
      · rw [List.count_cons_of_ne (by simp [emptyField])]
        exact hnext (.text []) trivial rfl
      · simp
    | layout name conversion chars depth => exact absurd hmode id

end Formatting

/-! ## Names of functions -/

namespace Code

/-- Names that may be referred to are those in scope from the start and those that get bound. -/
theorem Stmt.scope_subset {node : List String × Expr} {allowed : List String} :
    ∀ (body : List Stmt) {scope : List String}, scope ⊆ allowed →
      (∀ name value fixed, .bind name value fixed ∈ body → name ∈ allowed) →
      node ∈ Stmt.nodes scope body → node.1 ⊆ allowed
  | [], _, _, _, h => absurd h List.not_mem_nil
  | .bind name value fixed :: rest, scope, hscope, hbinds, h => by
    have hname := hbinds name value fixed List.mem_cons_self
    have hrest := fun n v f hmem => hbinds n v f (List.mem_cons_of_mem _ hmem)
    rcases List.mem_append.mp h with h | h
    · obtain ⟨e, -, rfl⟩ := List.mem_map.mp h
      exact hscope
    · exact Stmt.scope_subset rest (List.cons_subset.mpr ⟨hname, hscope⟩) hrest h
  | .push buffer value :: rest, scope, hscope, hbinds, h => by
    have hrest := fun n v f hmem => hbinds n v f (List.mem_cons_of_mem _ hmem)
    rcases List.mem_append.mp h with h | h
    · rcases List.mem_cons.mp h with rfl | h
      · exact hscope
      obtain ⟨e, -, rfl⟩ := List.mem_map.mp h
      exact hscope
    · exact Stmt.scope_subset rest hscope hrest h
  | .result value :: rest, scope, hscope, hbinds, h => by
    have hrest := fun n v f hmem => hbinds n v f (List.mem_cons_of_mem _ hmem)
    rcases List.mem_append.mp h with h | h
    · obtain ⟨e, -, rfl⟩ := List.mem_map.mp h
      exact hscope
    · exact Stmt.scope_subset rest hscope hrest h

/-- A function refers to its parameters and to its buffer only. -/
def Function.NamesKnown (f : Function) : Prop :=
  ∀ node ∈ f.nodes, ∀ name, node.2 = .variable name →
    name ∈ bufferName :: f.params.map Param.name

end Code

namespace UrlBuilder

/-- A builder gives a url for every base address and one value for each parameter. -/
def Renders (builder : UrlBuilder) : Prop :=
  ∀ (base : String) (values : List String), values.length = builder.params.length →
    ∃ url, builder.render base values = .ok url

theorem toFunction_of_validate {builder : UrlBuilder} (h : builder.validate = .ok ())
    (name : String) (typeOf : String → String) (doc : String) :
    builder.toFunction name typeOf doc = .ok (builder.functionOf name typeOf doc) := by
  rw [toFunction, h]
  rfl

section Push

variable {segments : List Segment} {params : List String}

/-- A builder that pushes renders if its holes are called as its parameters, and only then. -/
theorem renders_push_iff : Renders (.push segments params) ↔ Segment.params segments ⊆ params := by
  constructor
  · intro h name hname
    by_contra hunbound
    have hnone : boundValue name (params.zip params) = none :=
      boundValue_eq_none (not_mem_keys_zip hunbound)
    obtain ⟨fault, hfault⟩ := fill_fails hnone segments hname
    obtain ⟨url, hurl⟩ := h "" params rfl
    rw [render, hfault] at hurl
    cases hurl
  · intro h base values hlen
    have hbound : ∀ name ∈ Segment.params segments,
        ∃ value, boundValue name (params.zip values) = some value :=
      fun name hname => exists_boundValue_zip hlen (h hname)
    obtain ⟨text, htext⟩ := exists_fill hbound
    exact ⟨base ++ text, by rw [render, htext]; rfl⟩

theorem not_bind_mem_segmentPushes {name : String} {value : Expr} {fixed : Bool}
    (segments : List Segment) : .bind name value fixed ∉ segmentPushes segments := by
  simp [mem_segmentPushes_iff]

/-- If the holes of a builder that pushes are called as its parameters, its function knows every
name. -/
theorem namesKnown_push (h : Segment.params segments ⊆ params) (name : String)
    (typeOf : String → String) (doc : String) :
    (functionOf (.push segments params) name typeOf doc).NamesKnown := by
  intro node hnode n hn
  rw [Function.nodes, map_name_functionOf] at hnode
  have hbinds : ∀ n value fixed, .bind n value fixed ∈ bodyOf (.push segments params) →
      n ∈ bufferName :: baseParam :: params := by
    intro n value fixed hmem
    simp only [bodyOf, List.cons_append, List.mem_cons, List.mem_append, reduceCtorEq,
      not_bind_mem_segmentPushes, Stmt.bind.injEq, List.not_mem_nil, or_false] at hmem
    exact hmem.1 ▸ List.mem_cons_self
  have hscope := Stmt.scope_subset _ (List.subset_cons_self _ _) hbinds hnode
  have hurl := urlNode_of_mem_pushBody params List.mem_cons_self
    (fun m hm => List.mem_cons_of_mem _ (h hm)) hnode
  rw [hn] at hurl
  rw [map_name_functionOf]
  cases hurl with
  | bound hmem => exact hscope hmem

end Push

section Format

variable {template : String} {params : List String}

/-- A builder that formats renders only if the arguments are enough for the fields of its
template. -/
theorem fillable_of_render_eq_ok {base url : String} {values : List String}
    (h : render (.format template params) base values = .ok url) :
    Formatting.Fillable (values.length + 1) (Formatting.pieces template.toList) :=
  Formatting.fillable_of_format_eq_ok (Outcome.mapError_eq_ok.mp h)

/-- If all its fields are plain, a template renders if the arguments are enough, and only then. -/
theorem renders_format_iff
    (h : ∀ f ∈ Formatting.fieldsOf (Formatting.pieces template.toList), f.IsPlain) :
    Renders (.format template params) ↔
      Formatting.Fillable (params.length + 1) (Formatting.pieces template.toList) := by
  constructor
  · intro hrenders
    obtain ⟨url, hurl⟩ := hrenders "" params rfl
    exact fillable_of_render_eq_ok hurl
  · intro hfillable base values hlen
    have hsize : params.length + 1 = (base :: values).length := congrArg Nat.succ hlen.symm
    obtain ⟨url, hurl⟩ := (Formatting.exists_format_iff h).mpr (hsize ▸ hfillable)
    exact ⟨url, Outcome.mapError_eq_ok.mpr hurl⟩

/-- Without any field but `{}`, a template renders if it can be read as a whole and has no more
fields than there are arguments, and only then. -/
theorem renders_format_iff_count_le
    (h : ∀ f, .field f ∈ Formatting.pieces template.toList → f = Formatting.emptyField) :
    Renders (.format template params) ↔
      .broken ∉ Formatting.pieces template.toList ∧
      (Formatting.pieces template.toList).count (.field Formatting.emptyField) ≤
        params.length + 1 := by
  rw [← Formatting.fillable_iff_count_le h]
  refine renders_format_iff fun f hf => ?_
  rw [h f (Formatting.mem_fieldsOf.mp hf)]
  exact Formatting.isPlain_emptyField

/-- The function of a builder that formats knows every name. -/
theorem namesKnown_format (name : String) (typeOf : String → String) (doc : String) :
    (functionOf (.format template params) name typeOf doc).NamesKnown := by
  intro node hnode n hn
  rw [Function.nodes, map_name_functionOf, functionOf, bodyOf, ← List.map_cons, Stmt.nodes,
    Stmt.nodes, Expr.nodes, Expr.nodes, Expr.nodesOfAll_variables, List.append_nil] at hnode
  obtain ⟨e, he, rfl⟩ := List.mem_map.mp hnode
  rw [map_name_functionOf]
  rcases List.mem_cons.mp he with rfl | he
  · cases hn
  rcases List.mem_cons.mp he with rfl | he
  · cases hn
  obtain ⟨m, hm, rfl⟩ := List.mem_map.mp he
  cases hn
  exact List.mem_cons_of_mem _ hm

end Format

/-- The check counts the holes of a template. -/
theorem countHoles_of_validate {template : String} {params : List String}
    (h : validate (.format template params) = .ok ()) :
    countHoles template.toList = params.length + 1 := by
  rw [validate] at h
  by_cases hholes : (countHoles template.toList : Int) - 1 = params.length
  · omega
  · rw [if_pos hholes] at h
    cases h

/-- For a builder that the check accepts, what it takes to be sound. A builder that pushes renders
whatever it is given, with a function that knows every name, if its holes are called as its
parameters, and only then. A builder that formats has a function that knows every name. Without any
field but `{}` it renders if its template can be read as a whole and has no more fields than there
are arguments, and only then. That it has no more is what the check sees to, unless there are
colons. A template with fields of any kind is never rendered if one of them asks for its argument by
a name, if only some are numbered, or if there are too few arguments, and it is always rendered if
this is not so and its fields are plain. -/
theorem accepted_sound_iff {builder : UrlBuilder} (h : builder.validate = .ok ()) (name : String)
    (typeOf : String → String) (doc : String) :
    ∃ f, builder.toFunction name typeOf doc = .ok f ∧
      match builder with
      | .push segments params =>
        builder.Renders ∧ f.NamesKnown ↔ Segment.params segments ⊆ params
      | .format template params =>
        f.NamesKnown ∧
        ((∀ g, .field g ∈ Formatting.pieces template.toList → g = Formatting.emptyField) →
          (builder.Renders ↔
            .broken ∉ Formatting.pieces template.toList ∧
            (Formatting.pieces template.toList).count (.field Formatting.emptyField) ≤
              params.length + 1)) ∧
        (':' ∉ template.toList →
          (Formatting.pieces template.toList).count (.field Formatting.emptyField) ≤
            params.length + 1) ∧
        (∀ base values url, builder.render base values = .ok url →
          Formatting.Fillable (values.length + 1) (Formatting.pieces template.toList)) ∧
        ((∀ g ∈ Formatting.fieldsOf (Formatting.pieces template.toList), g.IsPlain) →
          (builder.Renders ↔
            Formatting.Fillable (params.length + 1) (Formatting.pieces template.toList))) := by
  refine ⟨_, toFunction_of_validate h name typeOf doc, ?_⟩
  cases builder with
  | push segments params =>
    exact ⟨fun hsound => renders_push_iff.mp hsound.1,
      fun hholes => ⟨renders_push_iff.mpr hholes, namesKnown_push hholes name typeOf doc⟩⟩
  | format template params =>
    refine ⟨namesKnown_format name typeOf doc, renders_format_iff_count_le, fun hcolon => ?_,
      fun base values url hurl => fillable_of_render_eq_ok hurl, renders_format_iff⟩
    rw [← countHoles_of_validate h]
    exact Formatting.count_emptyField_le template.toList (.text []) trivial hcolon

/-- Holes that are called as the parameter, and doubled braces. -/
theorem accepted_sound_same_names :
    validate (.push [.literal "/", .param "a", .param "a"] ["a", "a"]) = .ok () ∧
    Renders (.push [.literal "/", .param "a", .param "a"] ["a", "a"]) ∧
    validate (.format "\x7b\x7b\x7d\x7d\x7b\x7d" ["a"]) = .ok () ∧
    Renders (.format "\x7b\x7b\x7d\x7d\x7b\x7d" ["a"]) := by
  have hpush : validate (.push [.literal "/", .param "a", .param "a"] ["a", "a"]) = .ok () := rfl
  have hformat : validate (.format "\x7b\x7b\x7d\x7d\x7b\x7d" ["a"]) = .ok () := rfl
  have hpieces : Formatting.pieces "\x7b\x7b\x7d\x7d\x7b\x7d".toList =
      [.text ['{', '}'], .field Formatting.emptyField] := rfl
  obtain ⟨f, -, hpushed⟩ := accepted_sound_iff hpush "f" (fun _ => "A") ""
  obtain ⟨g, -, -, hformatted, -⟩ := accepted_sound_iff hformat "f" (fun _ => "A") ""
  rw [hpieces] at hformatted
  exact ⟨hpush, (hpushed.mpr (by decide)).1, hformat,
    (hformatted (by simp)).mpr ⟨by simp, by decide⟩⟩

/-- A hole that is not called as the parameter is accepted, and so is a template with a field for an
argument that has a name. -/
theorem accepted_unbound :
    validate (.push [.param "a"] ["b"]) = .ok () ∧
    render (.push [.param "a"] ["b"]) "h" ["x"] = .error (.unbound "a") ∧
    (∃ f, toFunction (.push [.param "a"] ["b"]) "f" (fun _ => "B") "" = .ok f ∧ ¬ f.NamesKnown) ∧
    validate (.format "\x7b\x7d\x7ba\x7d" []) = .ok () ∧
    render (.format "\x7b\x7d\x7ba\x7d" []) "h" [] =
      .error (.formatting (.unnamed "a")) := by
  refine ⟨rfl, rfl, ⟨_, rfl, fun h => ?_⟩, rfl, by decide⟩
  have hname := h ([bufferName, baseParam, "b"], .variable "a")
    (by simp [Function.nodes, baseParamDecl, params, bodyOf, segmentPushes, Stmt.nodes, Expr.nodes])
    "a" rfl
  exact absurd hname (by decide)

end UrlBuilder

end Routewright
