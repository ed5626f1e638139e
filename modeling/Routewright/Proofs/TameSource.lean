import Routewright.Proofs.Escaping
import Routewright.Proofs.Identifiers

/-!
# Source text of tame trees

A tree of code is tame if its names are inert: no quotes, brackets or marks of comments are in them
(`Expr.Tame`, `Function.Tame`, `Record.Tame`). Documentation may be anything, and the text of a
literal anything but empty. What is printed for a tame tree in either target leads from code to
code, with every bracket closed that is opened. For expressions this is an induction on the tree
along its printing, with one lemma for each kind of node (`Expr.Tame.lexes`).
-/

namespace Routewright

open Code Target

/-! ## Tame trees -/

/-- A host type whose name, if it is written, is inert. -/
def HostType.Tame (type : HostType) : Prop :=
  type.kind = .named → Inert (type.name.getD "")

namespace Code

/-- A type whose name is inert. -/
def TypeRef.Tame : TypeRef → Prop
  | .host type _ => type.Tame
  | .named name _ _ => Inert name
  | .enclosing => True

/-- A literal other than the empty text. -/
def Literal.Tame : Literal → Prop
  | .text s => s ≠ ""
  | .int _ => True
  | .absent => True

mutual

/-- An expression whose names are inert and whose literals are not empty. -/
def Expr.Tame : Expr → Prop
  | .literal value => value.Tame
  | .variable name => Inert name
  | .receiver => True
  | .member value name => value.Tame ∧ Inert name
  | .length value => value.Tame
  | .sum left right => left.Tame ∧ right.Tame
  | .call function arguments => Inert function ∧ Expr.AllTame arguments
  | .format template arguments => template ≠ "" ∧ Expr.AllTame arguments
  | .convert typeName value => Inert typeName ∧ value.Tame
  | .construct type fields => type.Tame ∧ Expr.FieldsTame fields
  | .enumMember enumeration name => Inert enumeration ∧ Inert name ∧
      Inert (String.ofList (Text.capitalize name.toList))
  | .present value => value.Tame
  | .newBuffer capacity => capacity.Tame
  | .finishBuffer buffer => buffer.Tame

/-- Expressions that are all tame. -/
def Expr.AllTame : List Expr → Prop
  | [] => True
  | e :: rest => e.Tame ∧ Expr.AllTame rest

/-- Named expressions that are all tame. -/
def Expr.FieldsTame : List (String × Expr) → Prop
  | [] => True
  | (name, e) :: rest => Inert name ∧ e.Tame ∧ Expr.FieldsTame rest

end

/-- A statement of tame parts. -/
def Stmt.Tame : Stmt → Prop
  | .bind name value _ => Inert name ∧ value.Tame
  | .push buffer value => Inert buffer ∧ value.Tame
  | .result value => value.Tame

/-- A parameter of tame parts. -/
structure Param.Tame (p : Param) : Prop where
  name : Inert p.name
  type : p.type.Tame

/-- A function of tame parts, whatever its documentation is. -/
structure Function.Tame (f : Function) : Prop where
  name : Inert f.name
  params : ∀ p ∈ f.params, p.Tame
  returns : f.returns.Tame
  body : ∀ s ∈ f.body, s.Tame

/-- A field of tame parts. -/
structure Field.Tame (f : Field) : Prop where
  name : Inert f.name
  type : f.type.Tame

/-- A record of tame parts, whatever its documentation is. -/
structure Record.Tame (r : Record) : Prop where
  name : Inert r.name
  fields : ∀ f ∈ r.fields, f.Tame
  functions : ∀ f ∈ r.functions, f.Tame

end Code

/-! ## Names and types -/

namespace Target

variable {target : Target} {due : List Char}

/-- An identifier has the characters of its name, and maybe an underscore. -/
theorem forall_mem_ident {P : Char → Prop} (hunderscore : P '_') {name : String}
    (h : ∀ c ∈ name.toList, P c) : ∀ c ∈ (target.ident name).toList, P c := by
  have hmark : ∀ c ∈ "_".toList, P c := List.forall_mem_singleton.mpr hunderscore
  rw [ident_eq, escapeReserved]
  split_ifs
  · cases target
    · exact String.toList_append ▸ List.forall_mem_append.mpr ⟨h, hmark⟩
    · exact String.toList_append ▸ List.forall_mem_append.mpr ⟨hmark, h⟩
  · exact h

theorem inert_ident {name : String} (h : Inert name) : Inert (target.ident name) :=
  forall_mem_ident (by decide) h

variable (target) in
theorem lexes_ident {name : String} (h : Inert name) (due : List Char) :
    target.Lexes (target.ident name) due due :=
  lexes_of_inert (inert_ident h) due

theorem lexes_open (due : List Char) : target.Lexes "(" due (')' :: due) := by
  cases target <;> exact lexes_ofList rfl

theorem lexes_close (due : List Char) : target.Lexes ")" (')' :: due) due := by
  cases target <;> exact lexes_ofList rfl

/-- Brackets that are opened in front of a text are closed behind it. -/
theorem lexes_parenthesized {start text : String} (hstart : target.Lexes start due (')' :: due))
    (h : target.Lexes text (')' :: due) (')' :: due)) :
    target.Lexes (start ++ text ++ ")") due due :=
  (hstart.append h).append (lexes_close due)

/-- Each of some expressions in a target. -/
def exprs : Target → List Expr → List String
  | .python => Python.exprs
  | .rust => Rust.exprs

/-- Each of some named expressions in a target. -/
def fieldExprs : Target → List (String × Expr) → List String
  | .python => Python.namedExprs
  | .rust => Rust.fieldExprs

theorem lexes_commas {items : List String} {due : List Char}
    (h : ∀ item ∈ items, target.Lexes item due due) : target.Lexes (commas items) due due :=
  Lexes.join (lexes_of_inert (by decide) due) h

end Target

namespace Code

variable {due : List Char}

theorem Python.inert_host {type : HostType} (h : type.Tame) : Inert (Python.host type) := by
  unfold Python.host
  cases hkind : type.kind with
  | named => exact @inert_ident .python _ (h hkind)
  | _ =>
    dsimp only
    decide

theorem Rust.inert_host {type : HostType} (h : type.Tame) : Inert (Rust.host type) := by
  unfold Rust.host
  cases hkind : type.kind with
  | named => exact @inert_ident .rust _ (h hkind)
  | _ =>
    dsimp only
    decide

theorem TypeRef.Tame.lexes_python {type : TypeRef} (h : type.Tame) {record : String}
    (hrecord : Inert record) (due : List Char) :
    Target.python.Lexes (Python.typeRef record type) due due := by
  cases type with
  | host type borrowed => exact lexes_of_inert (Python.inert_host h) due
  | named name borrowed isOptional =>
    have hname : ∀ due, Target.python.Lexes (Python.ident name) due due :=
      Target.python.lexes_ident h
    rw [Python.typeRef]
    split_ifs
    · have hopen : Target.python.Lexes "Optional[" due (']' :: due) := lexes_ofList rfl
      exact (hopen.append (hname _)).append (lexes_ofList rfl)
    · exact hname due
  | enclosing => exact lexes_of_inert hrecord due

theorem Rust.lexes_borrowedHost {type : HostType} (h : type.Tame) (due : List Char) :
    Target.rust.Lexes (Rust.borrowedHost type) due due := by
  have hhost : Target.rust.Lexes (Rust.host type) due due := lexes_of_inert (Rust.inert_host h) due
  unfold Rust.borrowedHost
  cases type.kind with
  | text => exact lexes_ofList rfl
  | bytes => exact lexes_ofList rfl
  | named => exact .append (lexes_ofList rfl) hhost
  | _ => exact hhost

theorem TypeRef.Tame.lexes_rust {type : TypeRef} (h : type.Tame) (due : List Char) :
    Target.rust.Lexes (Rust.typeRef type) due due := by
  cases type with
  | host type borrowed =>
    rw [Rust.typeRef]
    split_ifs
    · exact Rust.lexes_borrowedHost h due
    · exact lexes_of_inert (Rust.inert_host h) due
  | named name borrowed isOptional =>
    have hname : Target.rust.Lexes (Rust.ident name) due due := Target.rust.lexes_ident h due
    rw [Rust.typeRef]
    split_ifs
    · exact (Lexes.append (lexes_ofList rfl) hname).append (lexes_ofList rfl)
    · exact .append (lexes_ofList rfl) hname
    · exact hname
  | enclosing => exact lexes_ofList rfl

/-! ## Expressions -/

/-- A number is written in digits, behind a sign if it is negative. -/
theorem inert_toString_nat (n : Nat) : Inert (toString n) := by
  rw [Inert, toList_toString]
  intro c hc
  exact isInert_of_isAlphanum (isAlphanum_of_mem_toDigits (by decide) (by decide) n c hc)

theorem inert_toString_int (n : Int) : Inert (toString n) := by
  cases n with
  | ofNat n => exact inert_toString_nat n
  | negSucc n =>
    have hsign : Inert "-" := by decide
    have htext : toString (Int.negSucc n) = "-" ++ toString (n + 1) := rfl
    rw [htext, Inert, String.toList_append, List.forall_mem_append]
    exact ⟨hsign, inert_toString_nat (n + 1)⟩

/-- A field is written with its name and its value, or with one of them for both. -/
theorem Rust.lexes_fieldValue {name value : String} (hname : Target.rust.Lexes name due due)
    (hvalue : Target.rust.Lexes value due due) :
    Target.rust.Lexes (Rust.fieldValue name value) due due := by
  have hcomma : Target.rust.Lexes "," due due := lexes_ofList rfl
  unfold Rust.fieldValue
  split_ifs
  · exact hname.append hcomma
  · exact ((hname.append (lexes_ofList rfl)).append hvalue).append hcomma

theorem TypeRef.Tame.lexes_constructed {type : TypeRef} (h : type.Tame) (due : List Char) :
    Target.python.Lexes (Python.constructed type) due due := by
  have hempty : Inert "" := by decide
  cases type with
  | enclosing => exact lexes_ofList rfl
  | _ => exact h.lexes_python hempty due

end Code

/-! ### One node -/

section Nodes

variable {target : Target} {e left right : Expr} {name other : String} {due : List Char}

theorem lexes_literal {value : Literal} (h : value.Tame) :
    target.Lexes (target.expr (.literal value)) due due := by
  cases value with
  | text s =>
    have hliteral := target.lexes_stringLiteral h due
    cases target <;> exact hliteral
  | int n => cases target <;> exact lexes_of_inert (inert_toString_int n) due
  | absent => cases target <;> exact lexes_ofList rfl

theorem lexes_member (h : target.Lexes (target.expr e) due due) (hname : Inert name) :
    target.Lexes (target.expr (.member e name)) due due := by
  have hdot : Inert "." := by decide
  have hmember := (h.append (lexes_of_inert hdot due)).append (target.lexes_ident hname due)
  cases target <;> exact hmember

/-- A length that is not that of a known text is a call. -/
theorem expr_length (h : ∀ s, e ≠ .literal (.text s)) :
    Python.expr (.length e) = "len(" ++ Python.expr e ++ ")" ∧
      Rust.expr (.length e) = Rust.expr e ++ ".len()" := by
  cases e with
  | literal value =>
    cases value with
    | text s => exact absurd rfl (h s)
    | _ => exact ⟨rfl, rfl⟩
  | _ => exact ⟨rfl, rfl⟩

theorem lexes_length (h : ∀ due, target.Lexes (target.expr e) due due) :
    target.Lexes (target.expr (.length e)) due due := by
  by_cases hknown : ∃ s, e = .literal (.text s)
  · obtain ⟨s, rfl⟩ := hknown
    cases target <;> exact lexes_of_inert (inert_toString_nat _) due
  · obtain ⟨hpython, hrust⟩ := expr_length (not_exists.mp hknown)
    cases target with
    | python =>
      have hlen : Target.python.Lexes "len(" due (')' :: due) := lexes_ofList rfl
      rw [expr, hpython]
      exact lexes_parenthesized hlen (h _)
    | rust =>
      have hlen : Target.rust.Lexes ".len()" due due := lexes_ofList rfl
      rw [expr, hrust]
      exact (h due).append hlen

theorem lexes_sum (hleft : target.Lexes (target.expr left) due due)
    (hright : target.Lexes (target.expr right) due due) :
    target.Lexes (target.expr (.sum left right)) due due := by
  have hplus : Inert " + " := by decide
  have hsum := (hleft.append (lexes_of_inert hplus due)).append hright
  cases target <;> exact hsum

section Arguments

variable {arguments : List Expr}
  (h : ∀ text ∈ target.exprs arguments, ∀ due, target.Lexes text due due)

include h

theorem lexes_call (hname : Inert name) :
    target.Lexes (target.expr (.call name arguments)) due due := by
  have hcall := lexes_parenthesized ((target.lexes_ident hname due).append (lexes_open due))
    (lexes_commas fun text htext => h text htext _)
  cases target <;> exact hcall

theorem lexes_format {template : String} (htemplate : template ≠ "") :
    target.Lexes (target.expr (.format template arguments)) due due := by
  have htext := target.lexes_stringLiteral htemplate
  have hcommas := lexes_commas fun text htext => h text htext (')' :: due)
  cases target with
  | python =>
    have hformat : Target.python.Lexes ".format(" due (')' :: due) := lexes_ofList rfl
    exact lexes_parenthesized ((htext due).append hformat) hcommas
  | rust =>
    have hformat : Target.rust.Lexes "format!(" due (')' :: due) := lexes_ofList rfl
    have hcomma : Target.rust.Lexes ", " (')' :: due) (')' :: due) := lexes_ofList rfl
    exact lexes_parenthesized ((hformat.append (htext _)).append hcomma) hcommas

end Arguments

theorem lexes_convert (hname : Inert name) (h : ∀ due, target.Lexes (target.expr e) due due) :
    target.Lexes (target.expr (.convert name e)) due due := by
  have hident := target.lexes_ident hname due
  cases target with
  | python => exact lexes_parenthesized (hident.append (lexes_open due)) (h _)
  | rust =>
    have hfrom : Target.rust.Lexes "::from(" due (')' :: due) := lexes_ofList rfl
    exact lexes_parenthesized (hident.append hfrom) (h _)

/-- A record is made in one call in Python, and with each field on a line in Rust. -/
theorem lexes_construct {type : TypeRef} {fields : List (String × Expr)} (htype : type.Tame)
    (h : ∀ text ∈ target.fieldExprs fields, ∀ due, target.Lexes text due due) :
    target.Lexes (target.expr (.construct type fields)) due due := by
  cases target with
  | python =>
    have hcommas := lexes_commas fun text htext => h text htext (')' :: due)
    exact lexes_parenthesized ((htype.lexes_constructed due).append (lexes_open due)) hcommas
  | rust =>
    have hbrace : Target.rust.Lexes " \x7b\n" due ('\x7d' :: due) := lexes_ofList rfl
    have hlines := Lines.join_newline fun text htext => (h text htext ('\x7d' :: due)).lines
    exact (((htype.lexes_rust due).append hbrace).append_lines (hlines.indent 1)).brace

theorem lexes_enumMember (hname : Inert name) (hother : Inert other)
    (hcapital : Inert (String.ofList (Text.capitalize other.toList))) :
    target.Lexes (target.expr (.enumMember name other)) due due := by
  have hident := target.lexes_ident hname due
  cases target with
  | python =>
    have hdot : Target.python.Lexes "." due due := lexes_ofList rfl
    exact (hident.append hdot).append (lexes_of_inert hother due)
  | rust =>
    have hcolons : Target.rust.Lexes "::" due due := lexes_ofList rfl
    exact (hident.append hcolons).append (lexes_of_inert hcapital due)

variable (h : ∀ due, target.Lexes (target.expr e) due due)

include h

theorem lexes_present : target.Lexes (target.expr (.present e)) due due := by
  cases target with
  | python => exact h due
  | rust =>
    have hsome : Target.rust.Lexes "Some(" due (')' :: due) := lexes_ofList rfl
    exact lexes_parenthesized hsome (h _)

theorem lexes_newBuffer : target.Lexes (target.expr (.newBuffer e)) due due := by
  cases target with
  | python =>
    have hnew : Target.python.Lexes "UrlBuffer(" due (')' :: due) := lexes_ofList rfl
    exact lexes_parenthesized hnew (h _)
  | rust =>
    have hnew : Target.rust.Lexes "String::with_capacity(" due (')' :: due) := lexes_ofList rfl
    exact lexes_parenthesized hnew (h _)

theorem lexes_finishBuffer : target.Lexes (target.expr (.finishBuffer e)) due due := by
  cases target with
  | python =>
    have hfinish : Target.python.Lexes ".finish()" due due := lexes_ofList rfl
    exact (h due).append hfinish
  | rust => exact h due

end Nodes

/-! ### Whole expressions -/

namespace Code

variable (target : Target)

mutual

/-- What is printed for a tame expression leads from code to code. -/
theorem Expr.Tame.lexes : ∀ {e : Expr}, e.Tame → ∀ due, target.Lexes (target.expr e) due due
  | .literal _, h, _ => lexes_literal h
  | .variable name, h, due => target.expr_variable name ▸ target.lexes_ident h due
  | .receiver, _, _ => by cases target <;> exact lexes_ofList rfl
  | .member _ _, ⟨h, hname⟩, due => lexes_member (h.lexes due) hname
  | .length e, h, _ => lexes_length (Expr.Tame.lexes (e := e) h)
  | .sum _ _, ⟨hleft, hright⟩, due => lexes_sum (hleft.lexes due) (hright.lexes due)
  | .call _ _, ⟨hname, h⟩, _ => lexes_call h.lexes hname
  | .format _ _, ⟨htemplate, h⟩, _ => lexes_format h.lexes htemplate
  | .convert _ _, ⟨hname, h⟩, _ => lexes_convert hname h.lexes
  | .construct _ _, ⟨htype, h⟩, _ => lexes_construct htype h.lexes
  | .enumMember _ _, ⟨hname, hother, hcapital⟩, _ => lexes_enumMember hname hother hcapital
  | .present e, h, _ => lexes_present (Expr.Tame.lexes (e := e) h)
  | .newBuffer e, h, _ => lexes_newBuffer (Expr.Tame.lexes (e := e) h)
  | .finishBuffer e, h, _ => lexes_finishBuffer (Expr.Tame.lexes (e := e) h)

/-- What is printed for each of some tame expressions leads from code to code. -/
theorem Expr.AllTame.lexes :
    ∀ {arguments : List Expr}, Expr.AllTame arguments → ∀ text ∈ target.exprs arguments,
      ∀ due, target.Lexes text due due
  | [], _, _, htext, _ => by cases target <;> exact absurd htext List.not_mem_nil
  | e :: rest, ⟨he, hrest⟩, text, htext, due => by
    have hcons : target.exprs (e :: rest) = target.expr e :: target.exprs rest := by
      cases target <;> rfl
    rcases List.mem_cons.mp (hcons ▸ htext) with rfl | htext
    · exact he.lexes due
    · exact hrest.lexes text htext due

/-- What is printed for each of some tame fields leads from code to code. -/
theorem Expr.FieldsTame.lexes :
    ∀ {fields : List (String × Expr)}, Expr.FieldsTame fields →
      ∀ text ∈ target.fieldExprs fields, ∀ due, target.Lexes text due due
  | [], _, _, htext, _ => by cases target <;> exact absurd htext List.not_mem_nil
  | (name, e) :: rest, ⟨hname, he, hrest⟩, text, htext, due => by
    have hident := target.lexes_ident hname due
    have hvalue := he.lexes due
    have hmore := hrest.lexes text
    cases target with
    | python =>
      rcases List.mem_cons.mp htext with rfl | htext
      · exact (hident.append (lexes_ofList rfl)).append hvalue
      · exact hmore htext due
    | rust =>
      rcases List.mem_cons.mp htext with rfl | htext
      · exact Rust.lexes_fieldValue hident hvalue
      · exact hmore htext due

end

end Code

/-! ## Functions -/

/-- A statement in a target. -/
def Target.stmt : Target → Stmt → String
  | .python => Python.stmt
  | .rust => Rust.stmt

namespace Code

variable {target : Target}

theorem Stmt.Tame.lexes {s : Stmt} (h : s.Tame) (due : List Char) :
    target.Lexes (target.stmt s) due due := by
  cases s with
  | bind name value isMutable =>
    obtain ⟨hname, hvalue⟩ := h
    have hident := target.lexes_ident hname due
    have hexpr := hvalue.lexes target due
    cases target with
    | python =>
      have hequals : Target.python.Lexes " = " due due := lexes_ofList rfl
      exact (hident.append hequals).append hexpr
    | rust =>
      have hlet : Target.rust.Lexes "let " due due := lexes_ofList rfl
      have hmut : Target.rust.Lexes (if isMutable then "mut " else "") due due := by
        split_ifs <;> exact lexes_ofList rfl
      have hequals : Target.rust.Lexes " = " due due := lexes_ofList rfl
      have hend : Target.rust.Lexes ";" due due := lexes_ofList rfl
      exact ((((hlet.append hmut).append hident).append hequals).append hexpr).append hend
  | push buffer value =>
    obtain ⟨hbuffer, hvalue⟩ := h
    have hident := target.lexes_ident hbuffer due
    have hexpr := hvalue.lexes target (')' :: due)
    cases target with
    | python =>
      have hpush : Target.python.Lexes ".push(" due (')' :: due) := lexes_ofList rfl
      exact lexes_parenthesized (hident.append hpush) hexpr
    | rust =>
      have hpush : Target.rust.Lexes ".push_str(" due (')' :: due) := lexes_ofList rfl
      have hend : Target.rust.Lexes ");" (')' :: due) due := lexes_ofList rfl
      exact ((hident.append hpush).append hexpr).append hend
  | result value =>
    have hexpr := Expr.Tame.lexes target h due
    cases target with
    | python =>
      have hreturn : Target.python.Lexes "return " due due := lexes_ofList rfl
      exact hreturn.append hexpr
    | rust => exact hexpr

theorem Param.Tame.lexes {p : Param} (h : p.Tame) {record : String} (hrecord : Inert record)
    (due : List Char) : target.Lexes (target.param record p) due due := by
  have hident := target.lexes_ident h.name due
  cases target with
  | python =>
    have hcolon : Target.python.Lexes ": " due due := lexes_ofList rfl
    have hdefault : Target.python.Lexes (if p.defaultsToAbsent then " = None" else "") due due := by
      split_ifs <;> exact lexes_ofList rfl
    exact ((hident.append hcolon).append (h.type.lexes_python hrecord due)).append hdefault
  | rust =>
    have hcolon : Target.rust.Lexes ": " due due := lexes_ofList rfl
    exact (hident.append hcolon).append (h.type.lexes_rust due)

/-- What stands between the parentheses of a signature. -/
theorem Function.Tame.lexes_params {f : Function} (h : f.Tame) {record : String}
    (hrecord : Inert record) (due : List Char) :
    target.Lexes (commas (target.receivers f.kind ++ f.params.map (target.param record)))
      due due := by
  have hreceivers : ∀ receiver ∈ target.receivers f.kind, Inert receiver := by
    cases target <;> cases f.kind <;> decide
  refine lexes_commas (List.forall_mem_append.mpr ⟨fun text htext => ?_, ?_⟩)
  · exact lexes_of_inert (hreceivers text htext) due
  · exact List.forall_mem_map.mpr fun p hp => (h.params p hp).lexes hrecord due

theorem Function.Tame.lines_python {f : Function} (h : f.Tame) {record : String}
    (hrecord : Inert record) (due : List Char) :
    Target.python.Lines (Python.function record f) due due := by
  have hclass : Target.python.Lines "@classmethod" due due := Lexes.lines (lexes_ofList rfl)
  have hdef : Target.python.Lexes "def " due due := lexes_ofList rfl
  have harrow : Target.python.Lexes ") -> " (')' :: due) due := lexes_ofList rfl
  have hcolon : Target.python.Lexes ":" due due := lexes_ofList rfl
  have hheading := (((((hdef.append (Target.python.lexes_ident h.name due)).append
    (lexes_open due)).append (h.lexes_params hrecord (')' :: due))).append harrow).append
    (h.returns.lexes_python hrecord due)).append hcolon
  have hbody : ∀ text ∈ (if f.doc.isEmpty then [] else [Python.docstring f.doc]) ++
      f.body.map Python.stmt, Target.python.Lines text due due := by
    refine List.forall_mem_append.mpr ⟨fun text htext => ?_, ?_⟩
    · split_ifs at htext
      · exact absurd htext List.not_mem_nil
      · rw [List.mem_singleton.mp htext]
        exact (Python.lexes_docstring f.doc due).lines
    · exact List.forall_mem_map.mpr fun s hs => ((h.body s hs).lexes due).lines
  unfold Python.function
  refine Lines.join_append (List.cons_ne_nil _ _) ?_ fun text htext => ?_
  · exact hheading.lines.append ((Lines.join_newline hbody).indent 1)
  · split_ifs at htext
    · rw [List.mem_singleton.mp htext]
      exact hclass
    · exact absurd htext List.not_mem_nil

theorem Function.Tame.lines_rust {f : Function} (h : f.Tame) (due : List Char) :
    Target.rust.Lines (Rust.function f) due due := by
  have hinert : Inert "" := by decide
  have hfn : Target.rust.Lexes "pub fn " due due := lexes_ofList rfl
  have harrow : Target.rust.Lexes ") -> " (')' :: due) due := lexes_ofList rfl
  have hbrace : Target.rust.Lexes " \x7b" due ('\x7d' :: due) := lexes_ofList rfl
  have hclose : Target.rust.Lexes "\x7d" ('\x7d' :: due) due := lexes_ofList rfl
  have hparams : Target.rust.Lexes (commas ((if f.kind = .method then ["self"] else []) ++
      f.params.map Rust.param)) (')' :: due) (')' :: due) := h.lexes_params hinert _
  have hheading := (((((hfn.append (Target.rust.lexes_ident h.name due)).append
    (lexes_open due)).append hparams).append harrow).append (h.returns.lexes_rust due)).append
    hbrace
  have hbody : ∀ text ∈ f.body.map Rust.stmt,
      Target.rust.Lines text ('\x7d' :: due) ('\x7d' :: due) :=
    List.forall_mem_map.mpr fun s hs => ((h.body s hs).lexes _).lines
  unfold Rust.function
  refine Lines.join_append (List.cons_ne_nil _ _) ?_ fun line hline => Rust.lines_docLine hline due
  exact hheading.lines.append (((Lines.join_newline hbody).indent 1).append hclose.lines)

/-! ## Records -/

theorem Field.Tame.lexes_python {f : Field} (h : f.Tame) {record : String} (hrecord : Inert record)
    (due : List Char) : Target.python.Lexes (Python.field record f) due due := by
  have hcolon : Target.python.Lexes ": " due due := lexes_ofList rfl
  have hnone : Target.python.Lexes " = None" due due := lexes_ofList rfl
  unfold Python.field
  refine (((Target.python.lexes_ident h.name due).append hcolon).append
    (h.type.lexes_python hrecord due)).append ?_
  split
  · exact hnone
  · exact lexes_empty due

/-- A record is written under a decorator, its parts moved right. -/
theorem Record.Tame.lines_python {r : Record} (h : r.Tame) (due : List Char) :
    Target.python.Lines (Python.record r) due due := by
  have hrecord : Inert (Python.ident r.name) := @inert_ident .python _ h.name
  have hclass : Target.python.Lexes "@dataclass(frozen=True)\nclass " due due := lexes_ofList rfl
  have hcolon : Target.python.Lexes ":\n" due due := lexes_ofList rfl
  have hbody : ∀ text ∈ (if r.doc.isEmpty then [] else [Python.docstring r.doc ++ "\n"]) ++
      r.fields.map (Python.field (Python.ident r.name)) ++
      r.functions.map (fun f => "\n" ++ Python.function (Python.ident r.name) f),
      Target.python.Lines text due due := by
    refine List.forall_mem_append.mpr ⟨List.forall_mem_append.mpr ⟨fun text htext => ?_, ?_⟩, ?_⟩
    · split_ifs at htext
      · exact absurd htext List.not_mem_nil
      · rw [List.mem_singleton.mp htext]
        exact ((Python.lexes_docstring r.doc due).append (lexes_newline due)).lines
    · exact List.forall_mem_map.mpr fun f hf => ((h.fields f hf).lexes_python hrecord due).lines
    · exact List.forall_mem_map.mpr fun f hf =>
        (lexes_newline due).append_lines ((h.functions f hf).lines_python hrecord due)
  exact ((hclass.append (lexes_of_inert hrecord due)).append hcolon).append_lines
    ((Lines.join_newline hbody).indent 1)

/-- A record is written with its fields between braces, and its functions between others. -/
theorem Record.Tame.lines_rust {r : Record} (h : r.Tame) (due : List Char) :
    Target.rust.Lines (Rust.record r) due due := by
  have hname : Target.rust.Lexes (Rust.ident r.name) due due := Target.rust.lexes_ident h.name due
  have hderives : Target.rust.Lines Rust.derives due due := Lexes.lines (lexes_ofList rfl)
  have hpub : Target.rust.Lexes "pub struct " due due := lexes_ofList rfl
  have hbrace : Target.rust.Lexes " \x7b" due ('\x7d' :: due) := lexes_ofList rfl
  have hclose : Target.rust.Lexes "\x7d" ('\x7d' :: due) due := lexes_ofList rfl
  have hfield : ∀ text ∈ r.fields.map (fun f =>
      Text.indentUnit ++ "pub " ++ Rust.ident f.name ++ ": " ++ Rust.typeRef f.type ++ ","),
      Target.rust.Lines text ('\x7d' :: due) ('\x7d' :: due) := by
    refine List.forall_mem_map.mpr fun f hf => ?_
    obtain ⟨hident, htype⟩ := h.fields f hf
    have hindent : Target.rust.Lexes Text.indentUnit ('\x7d' :: due) ('\x7d' :: due) :=
      lexes_ofList rfl
    exact (((((hindent.append (lexes_ofList rfl)).append (Target.rust.lexes_ident hident _)).append
      (lexes_ofList rfl)).append (htype.lexes_rust _)).append (lexes_ofList rfl)).lines
  have himpl : Target.rust.Lexes ("impl " ++ Rust.ident r.name ++ " \x7b\n" ++
      Text.indent (Text.join "\n\n" (r.functions.map Rust.function)) 1 ++ "\n\x7d") due due := by
    have hopen : Target.rust.Lexes "impl " due due := lexes_ofList rfl
    have hstart : Target.rust.Lexes " \x7b\n" due ('\x7d' :: due) := lexes_ofList rfl
    have hfunctions := Lines.join_blank (List.forall_mem_map.mpr fun f hf =>
      (h.functions f hf).lines_rust ('\x7d' :: due))
    exact (((hopen.append hname).append hstart).append_lines (hfunctions.indent 1)).brace
  have hfunctions : Target.rust.Lines (Text.join "\n" ("\x7d" :: if r.functions.isEmpty then [] else
      ["", "impl " ++ Rust.ident r.name ++ " \x7b\n" ++
        Text.indent (Text.join "\n\n" (r.functions.map Rust.function)) 1 ++ "\n\x7d"]))
      ('\x7d' :: due) due := by
    split_ifs
    · exact hclose.lines
    · exact hclose.lines.append ((lexes_empty due).lines.append himpl.lines)
  unfold Rust.record
  dsimp only
  rw [List.append_assoc]
  refine Lines.join_append (List.cons_ne_nil _ _) ?_ fun line hline => Rust.lines_docLine hline due
  refine hderives.join_cons (List.cons_ne_nil _ _) ?_
  refine ((hpub.append hname).append hbrace).lines.join_cons
    (List.append_ne_nil_of_right_ne_nil _ (List.cons_ne_nil _ _)) ?_
  exact Lines.join_append (List.cons_ne_nil _ _) hfunctions hfield

end Code

end Routewright
