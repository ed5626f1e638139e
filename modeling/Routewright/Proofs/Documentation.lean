import Routewright.Proofs.Lines
import Routewright.Proofs.TwoRuns
import Routewright.Proofs.Wrappers
import Routewright.Target

/-!
# What documentation decides

The documentation of an endpoint becomes that of its record and is read by nothing else, and what is
said about a body and where an endpoint comes from is not read at all, unless to name an endpoint
that fails (`generate_documentation_erased`). In Rust source, the documentation of a record is
written on lines of comments, whatever characters it has (`Rust.codeLines_module`).
-/

namespace Routewright

open Code Outcome

/-! ## Endpoints without documentation -/

/-- An endpoint without its documentation, its document, and what is said about its body. -/
def Endpoint.bare (e : Endpoint) : Endpoint :=
  { e with
    documentation := ""
    origin := none
    body := e.body.map fun b => { b with description := "" } }

/-- A request without documentation. -/
def Request.bare (r : Request) : Request :=
  { r with documentation := "" }

/-- A failure without the endpoint it names. -/
def GenerationFailure.withoutEndpoint : GenerationFailure → GenerationFailure
  | .generation error => .generation { error with endpoint := none }
  | failure => failure

namespace Code

/-- A declaration without documentation if it is a record. -/
def Item.withoutDoc : Item → Item
  | .record r => .record { r with doc := "" }
  | i => i

end Code

/-! ## Normalization -/

namespace DerivedRule

/-- Rules derive the same with or without documentation. -/
theorem applyAll_map_bare (rules : List DerivedRule) (endpoints : List Endpoint) :
    applyAll (endpoints.map Endpoint.bare) rules =
      (applyAll endpoints rules).map (List.map Endpoint.bare) := by
  have hname : ∀ e : Endpoint, e.bare.name = e.name := fun _ => rfl
  have hclone : ∀ (rule : DerivedRule) (e : Endpoint), rule.clone e.bare = (rule.clone e).bare := by
    intro rule e
    unfold clone
    cases rule.clearBody <;> rfl
  exact applyAll_map hname hclone rules endpoints

end DerivedRule

/-- Failures of one kind for one reason. -/
abbrev GenerationFailure.SameFault (failure failure' : GenerationFailure) : Prop :=
  failure.withoutEndpoint = failure'.withoutEndpoint

/-- Endpoints that differ in documentation alone. -/
abbrev Endpoint.SameButDoc (e e' : Endpoint) : Prop :=
  e.bare = e'.bare

variable {policy : Policy}

/-- An endpoint gets the same method with or without documentation. -/
theorem Endpoint.SameButDoc.normalized {e e' : Endpoint} (h : e.SameButDoc e')
    (order : Option (List HttpMethod)) :
    Outcome.Alike GenerationFailure.SameFault Endpoint.SameButDoc
      (((e.selectMethod order).map Endpoint.collapsePaths).mapError GenerationFailure.generation)
      (((e'.selectMethod order).map Endpoint.collapsePaths).mapError
        GenerationFailure.generation) := by
  have hmethods : e.bare.methods = e'.bare.methods := congrArg Endpoint.methods h
  unfold selectMethod
  rw [show e'.methods = e.methods from hmethods.symm]
  cases HttpMethod.choose e.methods order with
  | none => exact .error rfl
  | some m =>
    refine .ok ?_
    exact congrArg (fun bare : Endpoint => collapsePaths { bare with methods := [m] }) h

/-- Endpoints that differ in documentation alone do so once normalized. -/
theorem normalize_sameButDoc {endpoints endpoints' : List Endpoint}
    (h : endpoints.map Endpoint.bare = endpoints'.map Endpoint.bare) :
    Outcome.Alike GenerationFailure.SameFault (List.Forall₂ Endpoint.SameButDoc)
      (normalize endpoints policy) (normalize endpoints' policy) := by
  have hmap : (DerivedRule.applyAll endpoints policy.derived).map (List.map Endpoint.bare) =
      (DerivedRule.applyAll endpoints' policy.derived).map (List.map Endpoint.bare) := by
    rw [← DerivedRule.applyAll_map_bare, h, DerivedRule.applyAll_map_bare]
  have hall : Outcome.Alike Eq (List.Forall₂ Endpoint.SameButDoc)
      (DerivedRule.applyAll endpoints policy.derived)
      (DerivedRule.applyAll endpoints' policy.derived) := by
    exact (Alike.of_map_eq hmap).imp_of_ok fun _ _ _ _ hbare => map_eq_map_iff_forall₂.mp hbare
  refine (hall.mapError fun _ _ h => ?_).bind fun all all' hsame =>
    Alike.mapM (hsame.imp fun e e' he => he.normalized policy.verbOrder)
  rw [h]

/-! ## Requests -/

namespace Endpoint.SameButDoc

variable {e e' : Endpoint}

/-- Url parts are declared and not documented. -/
theorem sharedTypes_eq (h : e.SameButDoc e') : e.sharedTypes = e'.sharedTypes := by
  have hhost : ∀ part, e.partHost part = e'.partHost part := fun part => by
    change e.bare.partHost part = e'.bare.partHost part
    rw [h]
  have hfrom : ∀ (parts : List String) (types : SharedTypes),
      SharedTypes.ofParts e types parts = SharedTypes.ofParts e' types parts := by
    intro parts
    induction parts with
    | nil => exact fun _ => rfl
    | cons part parts ih =>
      intro types
      unfold SharedTypes.ofParts
      rw [hhost part]
      split_ifs
      · rfl
      · cases e'.partHost part with
        | error fault => rfl
        | ok host => exact ih _
  have hnames : e.bare.partNames = e'.bare.partNames := congrArg Endpoint.partNames h
  exact (hfrom _ _).trans (congrArg (SharedTypes.ofParts e' {}) hnames)

end Endpoint.SameButDoc

namespace Request

/-- Requests that differ in documentation alone. -/
abbrev SameButDoc (requests requests' : List Request) : Prop :=
  requests.map bare = requests'.map bare

theorem bare_forPath (e : Endpoint) (method : HttpMethod) (tokens : List String)
    (strategy : Strategy) (path : UrlPath) :
    (forPath e method tokens strategy path).bare = forPath e.bare method tokens strategy path := by
  unfold forPath bare Endpoint.bare
  cases e.body <;> rfl

/-- Requests for paths differ in documentation alone if the endpoints do. -/
theorem sameButDoc_forPath {e e' : Endpoint} (h : e.SameButDoc e') (method : HttpMethod)
    (tokens : List String) (strategy : Strategy) (paths : List UrlPath) :
    SameButDoc (paths.map (forPath e method tokens strategy))
      (paths.map (forPath e' method tokens strategy)) := by
  rw [SameButDoc, List.map_map, List.map_map]
  refine List.map_congr_left fun path _ => ?_
  rw [Function.comp_apply, Function.comp_apply, bare_forPath, bare_forPath, h]

/-- Requests declare the same names with or without documentation. -/
theorem ownNames_map_bare (requests : List Request) :
    ownNames (requests.map bare) = ownNames requests := by
  rw [ownNames, ownNames, List.map_map, List.map_map]
  rfl

/-- Of the documentation of requests, that of the first becomes the documentation of a record, and
the rest nothing. -/
theorem items_map_bare (requests : List Request) :
    (Request.items (requests.map bare)).map (List.map Item.withoutDoc) =
      (Request.items requests).map (List.map Item.withoutDoc) := by
  cases requests with
  | nil => rfl
  | cons first rest =>
    have hfunctions : ((first :: rest).map bare).mapM urlFunctionDecl =
        (first :: rest).mapM urlFunctionDecl := by
      rw [List.mapM_map]
      rfl
    have hmakers : ((first :: rest).map bare).map makerDecl = (first :: rest).map makerDecl := by
      rw [List.map_map]
      rfl
    rw [List.map_cons] at hfunctions hmakers ⊢
    rw [items, items, hfunctions]
    cases (first :: rest).mapM urlFunctionDecl with
    | error fault => rfl
    | ok functions =>
      refine congrArg Except.ok ?_
      simp only [List.map_append, List.map_cons, List.map_nil, Item.withoutDoc, recordDecl, hmakers]
      rfl

/-- Requests that differ in documentation alone are lowered to declarations that differ in the
documentation of records. -/
theorem items_alike {requests requests' : List Request} (h : SameButDoc requests requests') :
    Outcome.Alike Eq (List.Forall₂ fun i i' => i.withoutDoc = i'.withoutDoc)
      (Request.items requests) (Request.items requests') := by
  have hmap : (Request.items requests).map (List.map Item.withoutDoc) =
      (Request.items requests').map (List.map Item.withoutDoc) := by
    rw [← items_map_bare requests, h, items_map_bare requests']
  exact (Alike.of_map_eq hmap).imp_of_ok fun _ _ _ _ hitems => map_eq_map_iff_forall₂.mp hitems

end Request

/-- Endpoints that differ in documentation alone have requests that do, or fail alike. -/
theorem Endpoint.SameButDoc.alike {e e' : Endpoint} (h : e.SameButDoc e') (policy : Policy) :
    Endpoint.Alike policy policy GenerationFailure.SameFault Request.SameButDoc
      (fun i i' => i.withoutDoc = i'.withoutDoc) e e' where
  name_eq := by
    change e.bare.name = e'.bare.name
    rw [h]
  requests := by
    have hname : e.bare.name = e'.bare.name := congrArg Endpoint.name h
    have hmethods : e.bare.methods = e'.bare.methods := congrArg Endpoint.methods h
    have hpaths : e.bare.paths = e'.bare.paths := congrArg Endpoint.paths h
    change e.name = e'.name at hname
    change e.methods = e'.methods at hmethods
    change e.paths = e'.paths at hpaths
    unfold Endpoint.requests
    rw [← hmethods, ← hname, ← hpaths, ← h.sharedTypes_eq]
    have hfailure : ∀ fault, (e.failure fault).SameFault (e'.failure fault) := fun _ => rfl
    split
    · next method _ =>
      have hself : ∀ failure : GenerationFailure, failure.SameFault failure := fun _ => rfl
      refine (Alike.refl hself _).bind fun tokens _ htokens => ?_
      subst htokens
      have hfaults : ∀ fault fault', fault = fault' →
          (e.failure fault).SameFault (e'.failure fault') := fun _ _ heq => heq ▸ hfailure _
      refine ((Alike.refl (fun _ => rfl) e.sharedTypes).mapError hfaults).bind
        fun types _ htypes => ?_
      subst htypes
      have hrequests := (Request.ofPaths_alike (Request.sameButDoc_forPath h method tokens
        (policy.strategyFor e.name) e.paths)).mapError hfaults
      exact hrequests.bind fun _ _ h => .ok ⟨h, rfl⟩
    · exact .error (hfailure _)
  items _ _ hrequests := (Request.items_alike hrequests).mapError fun fault _ hfault => by
    rw [← hfault]
    rfl

/-! ## Documentation in Rust source -/

namespace Code.Rust

/-- A line that is a documentation comment. -/
def isDocLine (line : List Char) : Bool :=
  "///".toList.isPrefixOf (Text.trim line)

/-- The lines of a source text that are no documentation. -/
def codeLines (source : String) : List (List Char) :=
  (Text.pieces '\n' source.toList).filter fun line => !isDocLine line

/-! ### Lines that are put together -/

theorem codeLines_append_newline (s t : String) :
    codeLines (s ++ "\n" ++ t) = codeLines s ++ codeLines t := by
  have hfeed : (s ++ "\n" ++ t).toList = s.toList ++ '\n' :: t.toList := by
    rw [String.toList_append, String.toList_append, List.append_assoc]
    rfl
  rw [codeLines, hfeed, Text.pieces_append_cons, List.filter_append, codeLines, codeLines]

theorem codeLines_join :
    ∀ {items : List String}, items ≠ [] →
      codeLines (Text.join "\n" items) = items.flatMap codeLines
  | [], h => absurd rfl h
  | [item], _ => by rw [List.flatMap_singleton, Text.join]
  | item :: next :: rest, _ => by
    rw [Text.join, codeLines_append_newline, codeLines_join (List.cons_ne_nil next rest)]
    rfl

/-- Texts with blank lines between them have the same code if each of them has. -/
theorem codeLines_join_blank {items items' : List String}
    (h : List.Forall₂ (fun s s' => codeLines s = codeLines s') items items') :
    codeLines (Text.join "\n\n" items) = codeLines (Text.join "\n\n" items') := by
  have hblank : ∀ s t : String, codeLines (s ++ "\n\n" ++ t) =
      codeLines s ++ (codeLines "" ++ codeLines t) := by
    intro s t
    have hfeeds : s ++ "\n\n" ++ t = s ++ "\n" ++ ("" ++ "\n" ++ t) := by
      simp only [String.append_assoc, String.empty_append]
      rfl
    rw [hfeeds, codeLines_append_newline, codeLines_append_newline]
  induction h with
  | nil => rfl
  | cons hitem hrest ih =>
    cases hrest with
    | nil => exact hitem
    | cons hnext hrest => rw [Text.join, Text.join, hblank, hblank, hitem, ih]

/-- Indentation makes no documentation of code and no code of documentation. -/
theorem codeLines_indent (s : String) (levels : Nat) :
    codeLines (Text.indent s levels) = (codeLines s).map (Text.indentLine levels) := by
  have hline : ∀ line, isDocLine (Text.indentLine levels line) = isDocLine line := by
    intro line
    unfold Text.indentLine
    split_ifs with hempty
    · rw [List.isEmpty_iff.mp hempty]
    · rw [isDocLine, isDocLine, Text.trim_margin_append]
  rw [codeLines, codeLines, Text.pieces_indent, List.filter_map]
  refine congrArg _ (List.filter_congr fun line _ => ?_)
  rw [Function.comp_apply, hline]

theorem trimEnd_slashes (cs : List Char) :
    Text.trimEnd ('/' :: '/' :: '/' :: cs) = '/' :: '/' :: '/' :: Text.trimEnd cs := by
  simp only [Text.trimEnd_cons_of_not_blank (show Text.isBlank '/' = false by decide)]

/-- Documentation is written behind slashes, and no line of it has another line inside. -/
theorem toList_of_mem_docLines {doc line : String} (h : line ∈ docLines doc) :
    ∃ text, line.toList = '/' :: '/' :: '/' :: text ∧ ∀ c ∈ text, Text.isLineEnd c = false := by
  obtain ⟨text, htext, rfl⟩ := List.mem_map.mp h
  refine ⟨Text.trimEnd (' ' :: text), ?_, fun c hc => ?_⟩
  · rw [String.toList_ofList]
    exact trimEnd_slashes (' ' :: text)
  · rcases List.mem_cons.mp (Text.trimEnd_subset _ hc) with rfl | hc
    · decide
    · exact Text.not_isLineEnd_of_mem_lines htext hc

/-- Documentation is written on lines of comments, whatever it says. -/
theorem codeLines_of_mem_docLines {doc line : String} (h : line ∈ docLines doc) :
    codeLines line = [] := by
  obtain ⟨text, hline, htext⟩ := toList_of_mem_docLines h
  have hone : '\n' ∉ line.toList := fun hmem => by
    rw [hline] at hmem
    simp only [List.mem_cons, show ('\n' = '/') = False by decide, false_or] at hmem
    exact absurd (htext _ hmem) (by decide)
  have hdoc : isDocLine line.toList = true := by
    have hkept : ('/' :: '/' :: '/' :: text).dropWhile Text.isBlank = '/' :: '/' :: '/' :: text :=
      List.dropWhile_cons_of_neg (by decide)
    rw [hline, isDocLine, Text.trim, hkept, trimEnd_slashes]
    rfl
  rw [codeLines, Text.pieces_of_not_mem hone, List.filter_singleton, hdoc]
  rfl

/-! ### Records, groups and files -/

/-- Behind its documentation a record is written on the same lines, the last of which ends with a
brace. -/
theorem record_eq (r : Record) :
    ∃ before last, ∀ doc, record { r with doc } =
      Text.join "\n" (docLines doc ++ derives :: (before ++ [last ++ "\x7d"])) := by
  let struct := ("pub struct " ++ ident r.name ++ " \x7b") :: r.fields.map fun f =>
    Text.indentUnit ++ "pub " ++ ident f.name ++ ": " ++ typeRef f.type ++ ","
  by_cases hnone : r.functions.isEmpty
  · refine ⟨struct, "", fun doc => ?_⟩
    rw [record, if_pos hnone, List.append_assoc]
    rfl
  · refine ⟨struct ++ ["\x7d", ""], "impl " ++ ident r.name ++ " \x7b\n" ++
      Text.indent (Text.join "\n\n" (r.functions.map function)) 1 ++ "\n", fun doc => ?_⟩
    have hbrace : "\n\x7d" = "\n" ++ "\x7d" := by decide
    rw [record, if_neg hnone, List.append_assoc, hbrace]
    simp only [struct, List.append_assoc, List.cons_append, List.nil_append, String.append_assoc]

/-- What ends with a brace and does not start with a line feed has none to be trimmed. -/
theorem trimNewlines_eq_self {s before : String} (hfirst : s.toList.head? ≠ some '\n')
    (h : s = before ++ "\x7d") : Text.trimNewlines s = s := by
  refine Text.trimNewlines_eq_self hfirst ?_
  have hlast : s.toList.getLast? = some '\x7d' := by
    rw [h, String.toList_append]
    exact List.getLast?_concat
  rw [hlast]
  decide

theorem trimNewlines_record (r : Record) : Text.trimNewlines (record r) = record r := by
  obtain ⟨before, last, h⟩ := record_eq r
  have hrecord : record r =
      Text.join "\n" (docLines r.doc ++ derives :: (before ++ [last ++ "\x7d"])) := h r.doc
  have hend : record r =
      Text.join "\n" (docLines r.doc ++ derives :: before) ++ "\n" ++ last ++ "\x7d" := by
    rw [hrecord, ← List.cons_append, ← List.append_assoc, Text.join_append "\n"
      (List.append_ne_nil_of_right_ne_nil _ (List.cons_ne_nil _ _)) (List.cons_ne_nil _ _),
      Text.join, ← String.append_assoc]
  refine trimNewlines_eq_self ?_ hend
  rw [hrecord]
  cases hdoc : docLines r.doc with
  | nil =>
    rw [List.nil_append, Text.head?_join _ _ (by decide)]
    decide
  | cons line lines =>
    obtain ⟨text, hline, -⟩ := toList_of_mem_docLines (hdoc ▸ List.mem_cons_self)
    rw [List.cons_append, Text.head?_join _ _ (hline ▸ List.cons_ne_nil _ _), hline]
    exact fun h => absurd (Option.some.inj h) (by decide)

/-- A record has the same code with or without documentation. -/
theorem codeLines_record (r : Record) (doc : String) :
    codeLines (record { r with doc }) = codeLines (record r) := by
  obtain ⟨before, last, h⟩ := record_eq r
  have hlines : ∀ doc, codeLines (record { r with doc }) =
      (derives :: (before ++ [last ++ "\x7d"])).flatMap codeLines := by
    intro doc
    rw [h doc, codeLines_join (List.append_ne_nil_of_right_ne_nil _ (List.cons_ne_nil _ _)),
      List.flatMap_append,
      List.flatMap_eq_nil_iff.mpr fun line hline => codeLines_of_mem_docLines hline,
      List.nil_append]
  exact (hlines doc).trans (hlines r.doc).symm

/-- A declaration has the same code with or without the documentation of records. -/
theorem codeLines_item (i : Item) :
    codeLines (Text.trimNewlines (item i.withoutDoc)) = codeLines (Text.trimNewlines (item i)) := by
  cases i with
  | record r =>
    rw [Item.withoutDoc, item, item, trimNewlines_record, trimNewlines_record, codeLines_record]
  | _ => rfl

/-- A group is written behind a heading, indented, up to a brace. -/
theorem namespaceText_eq (n : Namespace) :
    ∃ imports, ∀ declarations, namespaceText { n with items := declarations } =
      "pub mod " ++ ident n.name ++ " \x7b" ++ "\n" ++
        (Text.indent (Text.join "\n\n" (imports ++ items declarations)) 1 ++ "\n" ++ "\x7d") := by
  have hopen : " \x7b\n" = " \x7b" ++ "\n" := by decide
  have hclose : "\n\x7d" = "\n" ++ "\x7d" := by decide
  refine ⟨if n.uses.isEmpty then []
    else [Text.join "\n" (n.uses.map fun u => "use super::" ++ ident u ++ "::*;")],
    fun declarations => ?_⟩
  rw [namespaceText, hopen, hclose]
  simp only [String.append_assoc]

theorem trimNewlines_namespaceText (n : Namespace) :
    Text.trimNewlines (namespaceText n) = namespaceText n := by
  obtain ⟨imports, h⟩ := namespaceText_eq n
  have hgroup := h n.items
  simp only [← String.append_assoc] at hgroup
  refine trimNewlines_eq_self ?_ hgroup
  have hstart : (namespaceText n).toList = 'p' :: (namespaceText n).toList.tail := by
    rw [hgroup]
    simp only [String.toList_append]
    rfl
  rw [hstart]
  exact fun h => absurd (Option.some.inj h) (by decide)

/-- A group has the same code with or without the documentation of records. -/
theorem codeLines_namespaceText (n : Namespace) :
    codeLines (namespaceText { n with items := n.items.map Item.withoutDoc }) =
      codeLines (namespaceText n) := by
  obtain ⟨imports, h⟩ := namespaceText_eq n
  have hitems : codeLines (Text.join "\n\n" (imports ++ items (n.items.map Item.withoutDoc))) =
      codeLines (Text.join "\n\n" (imports ++ items n.items)) := by
    refine codeLines_join_blank (List.rel_append ?_ ?_)
    · rw [List.forall₂_same]
      exact fun _ _ => rfl
    · rw [items, items, List.map_map, List.forall₂_map_left_iff, List.forall₂_map_right_iff,
        List.forall₂_same]
      exact fun i _ => codeLines_item i
  have hcode : ∀ declarations, codeLines (namespaceText { n with items := declarations }) =
      codeLines ("pub mod " ++ ident n.name ++ " \x7b") ++
        ((codeLines (Text.join "\n\n" (imports ++ items declarations))).map (Text.indentLine 1) ++
          codeLines "\x7d") := by
    intro declarations
    rw [h declarations, codeLines_append_newline, codeLines_append_newline, codeLines_indent]
  exact (hcode _).trans ((congrArg _ (by rw [hitems])).trans (hcode n.items).symm)

/-- A source file has the same code with or without the documentation of records. -/
theorem codeLines_module (m : Module) (marked : Bool) :
    codeLines (module (m.mapItems Item.withoutDoc) marked) = codeLines (module m marked) := by
  have hfile : ∀ chunks, codeLines (file "\n\n" chunks) =
      codeLines (Text.join "\n\n" (chunks.map Text.trimNewlines)) ++ codeLines "" := by
    intro chunks
    rw [← codeLines_append_newline, String.append_empty]
    rfl
  rw [module, module, hfile, hfile]
  refine congrArg (· ++ _) (codeLines_join_blank ?_)
  rw [List.map_append, List.map_append]
  refine List.rel_append ?_ ?_
  · exact List.forall₂_same.mpr fun _ _ => rfl
  · rw [Module.mapItems, List.map_map, List.map_map, List.map_map, List.forall₂_map_left_iff,
      List.forall₂_map_right_iff, List.forall₂_same]
    intro n _
    simp only [Function.comp_apply, trimNewlines_namespaceText]
    exact codeLines_namespaceText n

end Code.Rust

/-! ## Whole generations -/

/-- Of endpoints that differ in documentation alone, in where they come from and in what is said
about bodies, both lists fail with the same fault or both lead to code. Their code is equal without
the documentation of records, and in Rust source up to the lines of documentation comments. -/
theorem generate_documentation_erased {endpoints endpoints' : List Endpoint}
    (h : endpoints.map Endpoint.bare = endpoints'.map Endpoint.bare) (policy : Policy) :
    ((∃ g, generate endpoints policy = .ok g) ↔ ∃ g', generate endpoints' policy = .ok g') ∧
    (∀ failure failure', generate endpoints policy = .error failure →
      generate endpoints' policy = .error failure' →
      failure.withoutEndpoint = failure'.withoutEndpoint) ∧
    ∀ g g', generate endpoints policy = .ok g → generate endpoints' policy = .ok g' →
      g.code.mapItems Item.withoutDoc = g'.code.mapItems Item.withoutDoc ∧
      ∀ marked, Rust.codeLines (Target.rust.source g.code marked) =
        Rust.codeLines (Target.rust.source g'.code marked) := by
  have hnames : ∀ requests requests', Request.SameButDoc requests requests' →
      ownNames requests = ownNames requests' := fun requests requests' hsame => by
    rw [← Request.ownNames_map_bare, hsame, Request.ownNames_map_bare]
  have hself : ∀ failure : GenerationFailure, failure.SameFault failure := fun _ => rfl
  have halike := generate_alike hself hnames
    (fun e e' (he : e.SameButDoc e') => he.alike policy) (normalize_sameButDoc h)
  refine ⟨halike.ok_iff, fun failure failure' hf hf' => ?_, fun g g' hg hg' => ?_⟩
  · rw [hf, hf'] at halike
    exact halike.of_error
  · rw [hg, hg'] at halike
    obtain ⟨-, -, -, items, items', hitems, hcode, hcode'⟩ := halike.of_ok
    have herased : g.code.mapItems Item.withoutDoc = g'.code.mapItems Item.withoutDoc := by
      rw [hcode, hcode']
      exact Module.mapItems_assemble_eq hitems
    refine ⟨herased, fun marked => ?_⟩
    rw [Target.source, Target.source, ← Rust.codeLines_module, herased, Rust.codeLines_module]

/-- Documentation with a line that is no comment by itself, and none. -/
theorem generate_documentation_erased_lines :
    ∃ (get plain : Endpoint) (g g' : Generated),
      [get].map Endpoint.bare = [plain].map Endpoint.bare ∧
      generate [get] {} = .ok g ∧ generate [plain] {} = .ok g' ∧
      g.requests.flatMap (fun r => r.2.map Request.documentation) = ["Reads.\n\x7d */ \"\r#"] ∧
      g'.requests.flatMap (fun r => r.2.map Request.documentation) = [""] ∧
      g.code.mapItems Item.withoutDoc = g'.code.mapItems Item.withoutDoc ∧
      Rust.codeLines (Target.rust.source g.code true) =
        Rust.codeLines (Target.rust.source g'.code true) := by
  let get : Endpoint :=
    { name := "get", documentation := "Reads.\n\x7d */ \"\r#", methods := [.get],
      paths := [⟨"/{index}", [.literal "/", .param "index"]⟩],
      body := some { description := "None." }, origin := some "get.json" }
  let plain : Endpoint :=
    { name := "get", methods := [.get],
      paths := [⟨"/{index}", [.literal "/", .param "index"]⟩], body := some {} }
  have hbare : [get].map Endpoint.bare = [plain].map Endpoint.bare := by decide
  obtain ⟨g, g', hg, hg', hdoc, hdoc'⟩ : ∃ g g', generate [get] {} = .ok g ∧
      generate [plain] {} = .ok g' ∧
      g.requests.flatMap (fun r => r.2.map Request.documentation) = ["Reads.\n\x7d */ \"\r#"] ∧
      g'.requests.flatMap (fun r => r.2.map Request.documentation) = [""] := by
    subst get plain
    exact ⟨_, _, rfl, rfl, rfl, rfl⟩
  obtain ⟨hcode, hlines⟩ := (generate_documentation_erased hbare {}).2.2 g g' hg hg'
  exact ⟨get, plain, g, g', hbare, hg, hg', hdoc, hdoc', hcode, hlines true⟩

end Routewright
