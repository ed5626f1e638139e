import Routewright.Proofs.TameSource

/-!
# Source text of tame files

Beside the functions and records of endpoints, a file has text types, the declarations that every
file holds and, if it is marked, an opening comment. Text types are written with words
(`Wrapper.Tame`, `NamedText.Tame`). What every file holds is read once by evaluation
(`Rust.lines_preludeText`, `Python.reads_preludeText`) : in Python it has the only literal that goes
on over several lines, `Python.bufferDoc`. Files of tame groups are read from start to end by
`Rust.reads_module` and `Python.reads_module`.
-/

namespace Routewright

open Code Target

/-! ## Text types -/

/-- A text of letters, digits and underscores. -/
def NameText (s : String) : Prop :=
  ∀ c ∈ s.toList, isNameChar c = true

instance (s : String) : Decidable (NameText s) :=
  decidable_of_iff (s.toList.all isNameChar = true) List.all_eq_true

/-- What holds of letters, digits and underscores holds of the characters of names. -/
theorem forall_isNameChar {P : Char → Prop} (hunderscore : P '_')
    (h : ∀ c : Char, c.isAlphanum → P c) {c : Char} (hc : isNameChar c = true) : P c := by
  rcases Bool.or_eq_true_iff.mp hc with hc | hc
  · exact h c hc
  · rwa [of_decide_eq_true hc]

theorem isInert_of_isNameChar {c : Char} (hc : isNameChar c = true) : isInert c = true :=
  forall_isNameChar (P := fun c => isInert c = true) rfl (fun _ => isInert_of_isAlphanum) hc

theorem isVerbatim_of_isNameChar {c : Char} (hc : isNameChar c = true) : isVerbatim c = true :=
  forall_isNameChar (P := fun c => isVerbatim c = true) rfl (fun _ => isVerbatim_of_isAlphanum) hc

theorem NameText.inert {s : String} (h : NameText s) : Inert s := fun c hc =>
  isInert_of_isNameChar (h c hc)

namespace Code

/-- A wrapper whose names are words, without documentation. -/
structure Wrapper.Tame (w : Wrapper) : Prop where
  name : NameText w.name
  hosts : ∀ h ∈ w.hosts, h.kind = .named → NameText (h.name.getD "")
  doc : w.doc = ""

/-- A text type whose name is a word, without documentation. -/
structure NamedText.Tame (t : NamedText) : Prop where
  name : NameText t.name
  doc : t.doc = ""

variable {due : List Char}

/-- The type of what a text type is made from. -/
def Python.union : List String → String
  | [one] => one
  | several => "Union[" ++ commas several ++ "]"

theorem Python.lexes_union {accepted : List String} (h : ∀ type ∈ accepted, Inert type)
    (due : List Char) : Target.python.Lexes (Python.union accepted) due due := by
  unfold Python.union
  split
  · exact lexes_of_inert (h _ List.mem_cons_self) due
  · have hopen : Target.python.Lexes "Union[" due (']' :: due) := lexes_ofList rfl
    have hclose : Target.python.Lexes "]" (']' :: due) due := lexes_ofList rfl
    have hcommas : Target.python.Lexes (commas accepted) (']' :: due) (']' :: due) :=
      lexes_commas fun type htype => lexes_of_inert (h type htype) _
    exact (hopen.append hcommas).append hclose

/-- The documentation of a text type stands between three quotes. -/
theorem Python.textType_eq (name doc : String) (accepted : List String) :
    Python.textType name doc accepted = "class " ++ name ++ "(str):\n    " ++
      ("\"\"\"" ++ doc ++ "\"\"\"") ++ "\n\n    def __new__(cls, value: " ++
      Python.union accepted ++ ") -> " ++ name ++
      ":\n        return super().__new__(cls, _url_text(value))" := by
  have hstart : "(str):\n    \"\"\"" = "(str):\n    " ++ "\"\"\"" := by decide
  have hend : "\"\"\"\n\n    def __new__(cls, value: " =
      "\"\"\"" ++ "\n\n    def __new__(cls, value: " := by decide
  have htext : Python.textType name doc accepted =
      "class " ++ name ++ "(str):\n    \"\"\"" ++ doc ++
      "\"\"\"\n\n    def __new__(cls, value: " ++ Python.union accepted ++ ") -> " ++ name ++
      ":\n        return super().__new__(cls, _url_text(value))" := rfl
  rw [htext, hstart, hend]
  simp only [String.append_assoc]

theorem Python.lexes_textType {name doc : String} {accepted : List String} (hname : Inert name)
    (hdoc : Enclosed doc.toList) (haccepted : ∀ type ∈ accepted, Inert type) (due : List Char) :
    Target.python.Lexes (Python.textType name doc accepted) due due := by
  have hclass : Target.python.Lexes "class " due due := lexes_ofList rfl
  have hstr : Target.python.Lexes "(str):\n    " due due := lexes_ofList rfl
  have hnew : Target.python.Lexes "\n\n    def __new__(cls, value: " due (')' :: due) :=
    lexes_ofList rfl
  have harrow : Target.python.Lexes ") -> " (')' :: due) due := lexes_ofList rfl
  have hreturn : Target.python.Lexes ":\n        return super().__new__(cls, _url_text(value))"
      due due := lexes_ofList rfl
  rw [Python.textType_eq]
  exact (((((((hclass.append (lexes_of_inert hname due)).append hstr).append
    (lexes_of_enclosed_long hdoc)).append hnew).append (Python.lexes_union haccepted _)).append
    harrow).append (lexes_of_inert hname due)).append hreturn

theorem Rust.lexes_conversionText {name : String} (hname : Inert name) {type : HostType}
    (htype : type.Tame) (due : List Char) :
    Target.rust.Lexes (Rust.conversionText name type) due due := by
  have hname : ∀ due, Target.rust.Lexes name due due := lexes_of_inert hname
  have hhost : ∀ due, Target.rust.Lexes (Rust.host type) due due :=
    lexes_of_inert (Rust.inert_host htype)
  have hvalue : ∀ due, Target.rust.Lexes (Rust.conversion type) due due := by
    unfold Rust.conversion
    cases type.kind <;> exact fun due => lexes_ofList rfl
  unfold Rust.conversionText
  repeat' first
    | with_reducible apply Lexes.append
    | with_reducible exact hname _
    | with_reducible exact hhost _
    | with_reducible exact hvalue _
    | exact lexes_ofList rfl

theorem Rust.lexes_textType {name : String} {hosts : List HostType} (hname : Inert name)
    (hhosts : ∀ type ∈ hosts, type.Tame) (due : List Char) :
    Target.rust.Lexes (Rust.textType name "" hosts) due due := by
  have hname' : ∀ due, Target.rust.Lexes name due due := lexes_of_inert hname
  have hconversions : ∀ due,
      Target.rust.Lexes (String.join (hosts.map (Rust.conversionText name))) due due := by
    intro due
    induction hosts with
    | nil => exact lexes_empty due
    | cons type hosts ih =>
      obtain ⟨htype, hhosts⟩ := List.forall_mem_cons.mp hhosts
      rw [List.map_cons, String.join_cons]
      exact (Rust.lexes_conversionText hname htype due).append (ih hhosts)
  unfold Rust.textType
  repeat' first
    | with_reducible apply Lexes.append
    | with_reducible exact hname' _
    | with_reducible exact hconversions _
    | exact lexes_ofList rfl

/-! ### Declarations -/

/-- A host type that is written as a word. -/
theorem Python.nameText_host {type : HostType}
    (h : type.kind = .named → NameText (type.name.getD "")) : NameText (Python.host type) := by
  unfold Python.host
  cases hkind : type.kind with
  | named => exact @forall_mem_ident .python _ (by decide) _ (h hkind)
  | _ =>
    dsimp only
    decide

/-- What a wrapper is made from is text, or one of its hosts. -/
theorem Python.mem_accepted {type : String} {hosts : List HostType}
    (h : type ∈ Python.accepted hosts) : type = "str" ∨ ∃ h ∈ hosts, type = Python.host h := by
  have hfold : ∀ (hosts : List HostType) (seen : List String),
      type ∈ hosts.foldl (fun seen h =>
        if Python.host h ∈ seen then seen else seen ++ [Python.host h]) seen →
      type ∈ seen ∨ ∃ h ∈ hosts, type = Python.host h := by
    intro hosts
    induction hosts with
    | nil => exact fun _ h => .inl h
    | cons host hosts ih =>
      intro seen h
      rcases ih _ h with h | ⟨other, hother, htype⟩
      · dsimp only at h
        split_ifs at h
        · exact .inl h
        · rcases List.mem_append.mp h with h | h
          · exact .inl h
          · exact .inr ⟨host, List.mem_cons_self, List.mem_singleton.mp h⟩
      · exact .inr ⟨other, List.mem_cons_of_mem _ hother, htype⟩
  exact (hfold hosts ["str"] h).imp_left List.mem_singleton.mp

/-- Documentation that is made of words and fixed text is enclosed. -/
theorem enclosed_between {start middle stop : String}
    (hstart : start.toList.all isVerbatim = true) (hstop : stop.toList.all isVerbatim = true)
    (hmiddle : ∀ c ∈ middle.toList, isVerbatim c = true) :
    Enclosed (start ++ middle ++ stop).toList := by
  rw [List.all_eq_true] at hstart hstop
  rw [String.toList_append, String.toList_append]
  exact ((Enclosed.of_verbatim hstart).append (.of_verbatim hmiddle)).append (.of_verbatim hstop)

theorem Wrapper.Tame.lexes {w : Wrapper} (h : w.Tame) (target : Target) (due : List Char) :
    target.Lexes (target.item (.wrapper w)) due due := by
  have hname : Inert (target.ident w.name) := inert_ident h.name.inert
  cases target with
  | python =>
    have haccepted : ∀ type ∈ Python.accepted w.hosts, NameText type := by
      intro type htype
      rcases Python.mem_accepted htype with rfl | ⟨host, hhost, rfl⟩
      · decide
      · exact Python.nameText_host (h.hosts host hhost)
    have hdoc : Enclosed ("Url part value, built from " ++ commas (Python.accepted w.hosts) ++
        ".").toList := by
      refine enclosed_between rfl rfl ?_
      exact (Text.forall_mem_join (List.all_eq_true.mp rfl)).mpr fun type htype c hc =>
        isVerbatim_of_isNameChar (haccepted type htype c hc)
    have htext : Target.python.item (.wrapper w) = Python.textType (Python.ident w.name)
        (if w.doc.isEmpty then "Url part value, built from " ++ commas (Python.accepted w.hosts) ++
          "." else w.doc) (Python.accepted w.hosts) := rfl
    rw [htext, h.doc]
    exact Python.lexes_textType hname hdoc (fun type htype => (haccepted type htype).inert) due
  | rust =>
    have htext : Target.rust.item (.wrapper w) = Rust.textType (Rust.ident w.name) w.doc
        (w.hosts.filter fun h => h.kind ≠ .text) := rfl
    rw [htext, h.doc]
    refine Rust.lexes_textType hname (fun type htype hkind => ?_) due
    exact (h.hosts type (List.mem_of_mem_filter htype) hkind).inert

theorem NamedText.Tame.lexes {t : NamedText} (h : t.Tame) (target : Target) (due : List Char) :
    target.Lexes (target.item (.namedText t)) due due := by
  have hname : Inert (target.ident t.name) := inert_ident h.name.inert
  cases target with
  | python =>
    have hdoc : Enclosed ("Text form of a ``" ++ t.name ++ "`` value.").toList :=
      enclosed_between rfl rfl fun c hc => isVerbatim_of_isNameChar (h.name c hc)
    have htext : Target.python.item (.namedText t) = Python.textType (Python.ident t.name)
        (if t.doc.isEmpty then "Text form of a ``" ++ t.name ++ "`` value." else t.doc)
        ["str"] := rfl
    rw [htext, h.doc]
    exact Python.lexes_textType hname hdoc (by decide) due
  | rust =>
    have htext : Target.rust.item (.namedText t) = Rust.textType (Rust.ident t.name) t.doc [] := rfl
    rw [htext, h.doc]
    exact Rust.lexes_textType hname (fun _ htype => absurd htype List.not_mem_nil) due

/-- A declaration of tame parts. -/
def Item.Tame : Item → Prop
  | .function f => f.Tame
  | .record r => r.Tame
  | .wrapper w => w.Tame
  | .namedText t => t.Tame
  | .prelude => True

end Code

/-! ## What every file holds -/

/-- The characters of lines under each other, the last of them ended. Where the lines are given as
literals, these are found by unification, which does not decode them. -/
inductive Spelled : List String → List Char → Prop
  | nil : Spelled [] []
  | cons {cs more : List Char} {rest : List String} (h : Spelled rest more) :
      Spelled (String.ofList cs :: rest) (cs ++ '\n' :: more)
  /-- A line that is written in two parts. -/
  | parts {cs cs' more : List Char} {rest : List String} (h : Spelled rest more) :
      Spelled ((String.ofList cs ++ String.ofList cs') :: rest) (cs ++ cs' ++ '\n' :: more)

theorem Spelled.toList_join {lines : List String} {cs : List Char} (h : Spelled lines cs)
    (hne : lines ≠ []) : (Text.join "\n" lines ++ "\n").toList = cs := by
  have hcons : ∀ (line : String) (rest : List String) (more : List Char),
      (rest ≠ [] → (Text.join "\n" rest ++ "\n").toList = more) → Spelled rest more →
      (Text.join "\n" (line :: rest) ++ "\n").toList = line.toList ++ '\n' :: more := by
    intro line rest more ih hrest
    cases rest with
    | nil =>
      cases hrest
      exact String.toList_append
    | cons next rest =>
      rw [Text.join, String.append_assoc, String.append_assoc, String.toList_append,
        String.toList_append, ih (List.cons_ne_nil _ _)]
      rfl
  induction h with
  | nil => exact absurd rfl hne
  | cons h ih => rw [hcons _ _ _ ih h, String.toList_ofList]
  | parts h ih =>
    rw [hcons _ _ _ ih h, String.toList_append, String.toList_ofList, String.toList_ofList]

theorem Spelled.lines {target : Target} {lines : List String} {cs due due' : List Char}
    (literals : List String) (h : Spelled lines cs) (hne : lines ≠ [])
    (hread : cs.foldlM target.readTame { due } = some { due := due', literals }) :
    target.Lines (Text.join "\n" lines) due due' :=
  ⟨literals, by rw [h.toList_join hne, hread]⟩

/-- Nothing is trimmed from lines of which neither the first nor the last is blank. -/
theorem Spelled.trimNewlines {lines : List String} {cs : List Char} (h : Spelled lines cs)
    (hne : lines ≠ []) (hends : cs.head? ≠ some '\n' ∧ cs.dropLast.getLast? ≠ some '\n') :
    Text.trimNewlines (Text.join "\n" lines) = Text.join "\n" lines := by
  have hchars : cs = (Text.join "\n" lines).toList ++ ['\n'] := by
    rw [← h.toList_join hne, String.toList_append]
    rfl
  obtain ⟨hfirst, hlast⟩ := hends
  rw [hchars, List.dropLast_concat] at hlast
  refine Text.trimNewlines_eq_self (fun hhead => hfirst ?_) hlast
  rw [hchars, List.head?_append, hhead]
  rfl

theorem Spelled.reads {target : Target} {lines : List String} {cs : List Char}
    {spanning : List String} (h : Spelled lines cs) (hne : lines ≠ [])
    (hends : cs.head? ≠ some '\n' ∧ cs.dropLast.getLast? ≠ some '\n')
    (hread : (cs.foldlM target.read {}).any (fun r =>
      (r.place, r.due, r.current) = (.code, [], []) && r.literals.filter spansLines = spanning)) :
    target.Reads (Text.trimNewlines (Text.join "\n" lines) ++ "\n") spanning := by
  obtain ⟨r, hr, hcode⟩ := (Option.any_eq_true _ _).mp hread
  obtain ⟨hend, hspanning⟩ := Bool.and_eq_true_iff.mp hcode
  obtain ⟨place, due, current, literals⟩ := r
  obtain ⟨rfl, rfl, rfl⟩ : place = .code ∧ due = [] ∧ current = [] := by simpa using hend
  refine ⟨literals, ?_, of_decide_eq_true hspanning⟩
  rw [h.trimNewlines hne hends, h.toList_join hne, hr]

namespace Code

/-- The declarations that every Rust file holds, inside the braces of their group. -/
theorem Rust.lines_preludeText : Target.rust.Lines Rust.preludeText ['\x7d'] ['\x7d'] := by
  dsimp only [Rust.preludeText]
  apply Spelled.lines ["Content-Type", "application/json"]
  · repeat first
      | exact .nil
      | apply Spelled.cons
  · exact List.cons_ne_nil _ _
  · decide +kernel

theorem Python.lines_header : Target.python.Lines Python.header [] [] := by
  dsimp only [Python.header]
  apply Spelled.lines []
  · repeat first
      | exact .nil
      | apply Spelled.cons
  · exact List.cons_ne_nil _ _
  · decide +kernel

/-- The one literal over several lines, the documentation of the buffer that urls are put into. -/
def Python.bufferDoc : String :=
  "Text buffer filled up to an exact, precomputed capacity.\n\n"
    ++ "    Pushing past the capacity or finishing before the buffer is full raises\n"
    ++ "    :class:`ValueError`.\n    "

/-- The declarations that every Python file holds have one literal over several lines. -/
theorem Python.reads_preludeText :
    Target.python.Reads (Text.trimNewlines Python.preludeText ++ "\n") [Python.bufferDoc] := by
  dsimp only [Python.preludeText]
  apply Spelled.reads
  · repeat first
      | exact .nil
      | apply Spelled.cons
      | apply Spelled.parts
  · exact List.cons_ne_nil _ _
  · decide +kernel
  · decide +kernel

/-! ## Groups of declarations -/

/-- A declaration is lines by itself. What every Rust file holds is written between the braces of
its group. -/
theorem Item.Tame.lines_rust {i : Item} (h : i.Tame) :
    Target.rust.Lines (Rust.item i) ['\x7d'] ['\x7d'] := by
  cases i with
  | function f => exact Function.Tame.lines_rust h _
  | record r => exact Record.Tame.lines_rust h _
  | wrapper w => exact (Wrapper.Tame.lexes h .rust _).lines
  | namedText t => exact (NamedText.Tame.lexes h .rust _).lines
  | prelude => exact Rust.lines_preludeText

theorem Item.Tame.lines_python {i : Item} (h : i.Tame) (hi : i ≠ .prelude) :
    Target.python.Lines (Python.item i) [] [] := by
  have hnone : Inert "" := by decide
  cases i with
  | function f => exact Function.Tame.lines_python h hnone _
  | record r => exact Record.Tame.lines_python h _
  | wrapper w => exact (Wrapper.Tame.lexes h .python _).lines
  | namedText t => exact (NamedText.Tame.lexes h .python _).lines
  | prelude => exact absurd rfl hi

/-- A group of tame declarations. -/
structure Namespace.Tame (n : Namespace) : Prop where
  name : Inert n.name
  uses : ∀ use ∈ n.uses, Inert use
  items : ∀ i ∈ n.items, i.Tame

/-- A group is written between braces, its declarations moved right. -/
theorem Namespace.Tame.lexes_rust {n : Namespace} (h : n.Tame) :
    Target.rust.Lexes (Rust.namespaceText n) [] [] := by
  have hmod : Target.rust.Lexes "pub mod " [] [] := lexes_ofList rfl
  have hbrace : Target.rust.Lexes " \x7b\n" [] ['\x7d'] := lexes_ofList rfl
  have huse : ∀ use ∈ n.uses.map (fun use => "use super::" ++ Rust.ident use ++ "::*;"),
      Target.rust.Lines use ['\x7d'] ['\x7d'] := by
    have hsuper : Target.rust.Lexes "use super::" ['\x7d'] ['\x7d'] := lexes_ofList rfl
    have hall : Target.rust.Lexes "::*;" ['\x7d'] ['\x7d'] := lexes_ofList rfl
    exact List.forall_mem_map.mpr fun use huse =>
      ((hsuper.append (Target.rust.lexes_ident (h.uses use huse) _)).append hall).lines
  have hparts : ∀ part ∈ (if n.uses.isEmpty then []
      else [Text.join "\n" (n.uses.map fun use => "use super::" ++ Rust.ident use ++ "::*;")]) ++
      Rust.items n.items, Target.rust.Lines part ['\x7d'] ['\x7d'] := by
    refine List.forall_mem_append.mpr ⟨fun part hpart => ?_, ?_⟩
    · split_ifs at hpart
      · exact absurd hpart List.not_mem_nil
      · rw [List.mem_singleton.mp hpart]
        exact Lines.join_newline huse
    · exact List.forall_mem_map.mpr fun i hi => (h.items i hi).lines_rust.trimNewlines
  exact (((hmod.append (Target.rust.lexes_ident h.name [])).append hbrace).append_lines
    ((Lines.join_blank hparts).indent 1)).brace

/-! ## Files -/

/-- Without its opening comment, a file of tame groups leads from code to code. -/
theorem Rust.lines_groups {groups : List Namespace} (h : ∀ n ∈ groups, n.Tame) :
    Target.rust.Lines (Text.join "\n\n" ((groups.map Rust.namespaceText).map Text.trimNewlines))
      [] [] := by
  refine Lines.join_blank (List.forall_mem_map.mpr ?_)
  exact List.forall_mem_map.mpr fun n hn => (h n hn).lexes_rust.lines.trimNewlines

/-- The opening comment goes from its start to its end. -/
theorem Rust.reads_banner :
    Target.rust.Reads (Text.trimNewlines (Rust.banner bannerLines) ++ "\n") [] := by
  refine ⟨[], ?_, rfl⟩
  decide +kernel

/-- In a file of tame groups, no literal spans lines. -/
theorem Rust.reads_module {groups : List Namespace} (hne : groups ≠ [])
    (h : ∀ n ∈ groups, n.Tame) (marked : Bool) :
    Target.rust.Reads (Rust.module { namespaces := groups, banner := bannerLines } marked) [] := by
  have hgroups := Rust.lines_groups h
  cases marked with
  | false => exact Lexes.reads hgroups
  | true =>
    have hblank : "\n\n" = "\n" ++ "\n" := by decide
    have htext : Rust.module { namespaces := groups, banner := bannerLines } true =
        (Text.trimNewlines (Rust.banner bannerLines) ++ "\n") ++ ("\n" ++
          (Text.join "\n\n" ((groups.map Rust.namespaceText).map Text.trimNewlines) ++ "\n")) := by
      have hfile : Rust.module { namespaces := groups, banner := bannerLines } true =
          Text.join "\n\n" ([Text.trimNewlines (Rust.banner bannerLines)] ++
            (groups.map Rust.namespaceText).map Text.trimNewlines) ++ "\n" := rfl
      rw [hfile, Text.join_append _ (List.cons_ne_nil _ _) (by simpa using hne), Text.join]
      simp only [hblank, String.append_assoc]
    rw [htext]
    exact Rust.reads_banner.append ((lexes_newline []).append hgroups).reads

/-! ### Python files -/

namespace Python

theorem lines_join_separator {items : List String}
    (h : ∀ item ∈ items, Target.python.Lines item [] []) :
    Target.python.Lines (Text.join Python.separator items) [] [] := by
  have hfeeds : Python.separator = "\n" ++ "\n\n" := by decide
  rw [hfeeds]
  exact Lines.join ((lexes_newline []).append (lexes_newline [])) h

theorem lines_heading {name : String} (h : spansLines name = false) :
    Target.python.Lines ("# --- " ++ name ++ " ---") [] [] := by
  have hstart : spansLines " --- " = false := rfl
  have hend : spansLines " ---" = false := rfl
  rw [spansLines_eq_false_iff] at h hstart hend
  have hchars : ("# --- " ++ name ++ " ---" ++ "\n").toList =
      ['#'] ++ ((" --- ".toList ++ name.toList ++ " ---".toList) ++ ['\n']) := by
    simp only [String.toList_append, List.append_assoc]
    rfl
  have hcomment : ['#'].foldlM Target.python.readTame {} = some { place := .comment } := rfl
  refine ⟨[], ?_⟩
  rw [hchars, List.foldlM_append, hcomment, Option.bind_eq_bind, Option.bind_some,
    List.foldlM_append, foldlM_comment _ rfl]
  · rfl
  · exact List.forall_mem_append.mpr ⟨List.forall_mem_append.mpr ⟨hstart, h⟩, hend⟩

theorem lines_banner : Target.python.Lines (Python.banner bannerLines) [] [] := by
  refine ⟨[], ?_⟩
  decide +kernel

/-- A group without what every file holds is lines by itself. -/
theorem lines_namespaceText {n : Namespace} (hname : spansLines n.name = false)
    (h : ∀ i ∈ n.items, i.Tame ∧ i ≠ .prelude) :
    Target.python.Lines (Python.namespaceText n) [] [] := by
  refine lines_join_separator (List.forall_mem_cons.mpr ⟨lines_heading hname, ?_⟩)
  exact List.forall_mem_map.mpr fun i hi => ((h i hi).1.lines_python (h i hi).2).trimNewlines

variable {rest : List Item}

/-- What every file holds, with text types behind it. -/
theorem reads_types (h : ∀ i ∈ rest, i.Tame ∧ i ≠ .prelude) :
    Target.python.Reads
      (Text.join Python.separator (Python.items (.prelude :: rest)) ++ "\n") [bufferDoc] := by
  have hlines : Target.python.Lines (Text.join Python.separator (Python.items rest)) [] [] :=
    lines_join_separator
      (List.forall_mem_map.mpr fun i hi => ((h i hi).1.lines_python (h i hi).2).trimNewlines)
  have hcons : Python.items (.prelude :: rest) =
      [Text.trimNewlines Python.preludeText] ++ Python.items rest := rfl
  rw [hcons]
  by_cases hrest : Python.items rest = []
  · rw [hrest]
    exact Python.reads_preludeText
  · have hfeeds : Python.separator = "\n" ++ ("\n" ++ "\n") := by decide
    have htext : Text.join Python.separator ([Text.trimNewlines Python.preludeText] ++
          Python.items rest) ++ "\n" =
        Text.trimNewlines Python.preludeText ++ "\n" ++ ("\n" ++ ("\n" ++
          (Text.join Python.separator (Python.items rest) ++ "\n"))) := by
      rw [Text.join_append _ (List.cons_ne_nil _ _) hrest, hfeeds, Text.join]
      simp only [String.append_assoc]
    rw [htext]
    exact Python.reads_preludeText.append
      ((lexes_newline []).append ((lexes_newline []).append hlines)).reads

/-- The text of a type says that it is one. -/
theorem mem_textType {i : Item} (h : i.textType?.isSome) : 'c' ∈ (Python.item i).toList := by
  have hmem : ∀ {name text : String}, Text.Occurs ("class " ++ name ++ "(str):") text →
      'c' ∈ text.toList := by
    rintro name _ ⟨before, after, rfl⟩
    simp
  cases i with
  | wrapper w => exact hmem (Python.occurs_wrapper w)
  | namedText t => exact hmem (Python.occurs_namedText t)
  | _ => cases h

/-- Nothing is trimmed from a group of what every file holds and text types. -/
theorem trimNewlines_types (h : ∀ i ∈ rest, i.textType?.isSome) :
    Text.trimNewlines (Python.namespaceText { name := "params", items := .prelude :: rest }) =
      Python.namespaceText { name := "params", items := .prelude :: rest } := by
  let heading := "# --- " ++ "params" ++ " ---"
  have hheading : heading.toList ≠ [] ∧ heading.toList.head? = some '#' ∧
      heading.toList.getLast? = some '-' := by decide
  obtain ⟨hne, hfirst, hlast⟩ := hheading
  have hprelude : 'c' ∈ Python.preludeText.toList := by
    have hhead : Python.preludeText.toList.head? = some 'c' := by
      rw [Python.preludeText, Text.head?_join _ _ (by decide)]
      decide
    exact List.mem_of_mem_head? hhead
  have hseen : ∀ i ∈ Item.prelude :: rest, 'c' ∈ (Python.item i).toList :=
    List.forall_mem_cons.mpr ⟨hprelude, fun i hi => mem_textType (h i hi)⟩
  refine Text.trimNewlines_eq_self ?_ (Text.getLast?_join ?_)
  · rw [Python.namespaceText, Text.head?_join _ _ hne, hfirst]
    decide
  · refine List.forall_mem_cons.mpr ⟨⟨hne, by rw [hlast]; decide⟩, List.forall_mem_map.mpr ?_⟩
    exact fun i hi => ⟨List.ne_nil_of_mem (Text.mem_trimNewlines (by decide) (hseen i hi)),
      Text.getLast?_trimNewlines _⟩

/-- The chunks of a file in front of what every file holds. -/
def front (requests : Namespace) (marked : Bool) : List String :=
  (if marked then [Python.banner bannerLines] else []) ++
    [Python.header, Python.namespaceText requests]

theorem lines_front {requests : Namespace} (h : ∀ i ∈ requests.items, i.Tame ∧ i ≠ .prelude)
    (hname : spansLines requests.name = false) (marked : Bool) :
    Target.python.Lines
      (Text.join Python.separator ((front requests marked).map Text.trimNewlines)) [] [] := by
  refine lines_join_separator (List.forall_mem_map.mpr
    (List.forall_mem_append.mpr ⟨fun chunk hchunk => ?_, ?_⟩))
  · split_ifs at hchunk
    · rw [List.mem_singleton.mp hchunk]
      exact lines_banner.trimNewlines
    · exact absurd hchunk List.not_mem_nil
  · exact List.forall_mem_cons.mpr ⟨lines_header.trimNewlines,
      List.forall_mem_singleton.mpr (lines_namespaceText hname h).trimNewlines⟩

/-- A file is one text up to the declarations that every file holds. -/
theorem module_eq (requests : Namespace) (marked : Bool) (h : ∀ i ∈ rest, i.textType?.isSome) :
    Python.module { namespaces := [requests, { name := "params", items := .prelude :: rest }]
                    banner := bannerLines } marked =
      (Text.join Python.separator ((front requests marked).map Text.trimNewlines) ++ "\n") ++
        ("\n\n" ++ (("# --- " ++ "params" ++ " ---" ++ "\n") ++ "\n\n")) ++
        (Text.join Python.separator (Python.items (.prelude :: rest)) ++ "\n") := by
  let types : Namespace := { name := "params", items := .prelude :: rest }
  have hfile : Python.module { namespaces := [requests, types], banner := bannerLines } marked =
      file Python.separator (front requests marked ++ [Python.namespaceText types]) :=
    congrArg (file Python.separator) (by cases marked <;> rfl)
  have hgroup : Python.namespaceText types = "# --- " ++ "params" ++ " ---" ++
      Python.separator ++ Text.join Python.separator (Python.items (.prelude :: rest)) := rfl
  have hfeeds : Python.separator = "\n" ++ "\n\n" := by decide
  have hne : (front requests marked).map Text.trimNewlines ≠ [] := by
    cases marked <;> exact List.cons_ne_nil _ _
  rw [hfile, file, stack, List.map_append, List.map_singleton, trimNewlines_types h,
    Text.join_append _ hne (List.cons_ne_nil _ _), Text.join.eq_2, hgroup, hfeeds]
  simp only [String.append_assoc]

/-- In a file of tame groups, the one literal over several lines is in what every file holds. -/
theorem reads_module {requests : Namespace} (h : ∀ i ∈ requests.items, i.Tame ∧ i ≠ .prelude)
    (hname : spansLines requests.name = false)
    (hrest : ∀ i ∈ rest, i.Tame ∧ i.textType?.isSome) (marked : Bool) :
    Target.python.Reads
      (Python.module { namespaces := [requests, { name := "params", items := .prelude :: rest }]
                       banner := bannerLines } marked) [bufferDoc] := by
  have hblank : Target.python.Lexes "\n\n" [] [] := lexes_ofList rfl
  have hheading : Target.python.Lines ("# --- " ++ "params" ++ " ---") [] [] :=
    lines_heading rfl
  have htypes := reads_types fun i hi => ⟨(hrest i hi).1, by rintro rfl; cases (hrest _ hi).2⟩
  rw [module_eq requests marked fun i hi => (hrest i hi).2]
  exact (Lexes.append (lines_front h hname marked)
    (hblank.append (Lexes.append hheading hblank))).reads.append htypes

end Python

end Code

end Routewright
