import Routewright.Proofs.Shadowing
import Routewright.Proofs.TypeNames

/-!
# Conversions of wrappers

In Rust a wrapper is a struct, one conversion after the other for the types that it is made from
(`Rust.wrapper_eq`), and how its text is reached. Every type has a conversion from itself besides.
Host types are written differently (`Rust.host_inj`), except that a generated type may be called
like the text of the standard library, which is all that makes a wrapper convert from one type
twice.
-/

namespace Routewright

open Code Outcome

variable {policy : Policy}

/-! ## What is printed for a wrapper -/

namespace Code

/-- A conversion into a text type : how its implementation opens, what it converts from, and the
text that it makes of a value. -/
structure Rust.Conversion where
  opening : String := "\n\nimpl From<"
  source : String
  text : String

/-- The implementation of a conversion for the type of a name. -/
def Rust.Conversion.item (name : String) (c : Rust.Conversion) : String :=
  c.opening ++ c.source ++ "> for " ++ name ++ " \x7b\n    fn from(value: " ++ c.source
    ++ ") -> " ++ name ++ " \x7b\n        " ++ name ++ "(" ++ c.text ++ ")\n    \x7d\n\x7d"

/-- The conversion of owned text. -/
def Rust.fromString : Rust.Conversion :=
  { source := "String", text := "value" }

/-- The conversion of borrowed text. -/
def Rust.fromStr : Rust.Conversion :=
  { opening := "\n\nimpl<'a> From<", source := "&'a str", text := "value.to_owned()" }

/-- The conversion of a host type. -/
def Rust.fromHost (type : HostType) : Rust.Conversion :=
  { source := host type, text := conversion type }

/-- The conversions of a wrapper : from text, owned or borrowed, and from its other hosts. -/
def Rust.conversions (w : Wrapper) : List Rust.Conversion :=
  fromString :: fromStr :: (w.hosts.filter fun h => h.kind ≠ .text).map fromHost

/-- The struct of a text type. -/
def Rust.structText (name : String) : String :=
  derives ++ "\npub struct " ++ name ++ "(pub String);"

/-- How the text in a text type is reached. -/
def Rust.accessText (name : String) : String :=
  "\n\nimpl Deref for " ++ name
    ++ " \x7b\n    type Target = str;\n\n    fn deref(&self) -> &str \x7b\n"
    ++ "        &self.0\n    \x7d\n"
    ++ "\x7d\n\nimpl fmt::Display for " ++ name
    ++ " \x7b\n    fn fmt(&self, f: &mut fmt::Formatter) -> fmt::Result \x7b\n"
    ++ "        f.write_str(&self.0)\n    \x7d\n\x7d"

/-- A text type without documentation is a struct, conversions one after the other, and how its text
is reached. -/
theorem Rust.textType_eq (name : String) (hosts : List HostType) :
    Rust.textType name "" hosts = Rust.structText name ++ Rust.fromString.item name ++
      Rust.fromStr.item name ++ String.join (hosts.map (Rust.conversionText name)) ++
      Rust.accessText name := by
  have hstruct : "(pub String);\n\nimpl From<String> for " =
      "(pub String);" ++ ("\n\nimpl From<" ++ ("String" ++ "> for ")) := rfl
  have howned : " \x7b\n    fn from(value: String) -> " =
      " \x7b\n    fn from(value: " ++ ("String" ++ ") -> ") := rfl
  have hnext : "(value)\n    \x7d\n\x7d\n\nimpl<'a> From<&'a str> for " =
      "(" ++ ("value" ++ (")\n    \x7d\n\x7d" ++ ("\n\nimpl<'a> From<" ++
        ("&'a str" ++ "> for ")))) := rfl
  have hborrowed : " \x7b\n    fn from(value: &'a str) -> " =
      " \x7b\n    fn from(value: " ++ ("&'a str" ++ ") -> ") := rfl
  have hlast : "(value.to_owned())\n    \x7d\n\x7d" =
      "(" ++ ("value.to_owned()" ++ ")\n    \x7d\n\x7d") := rfl
  unfold Rust.textType Rust.structText Rust.accessText Rust.fromString Rust.fromStr
  generalize String.join (hosts.map (Rust.conversionText name)) = conversions
  unfold Rust.Conversion.item
  simp only [-String.reduceAppend, hstruct, howned, hnext, hborrowed, hlast, String.append_assoc]
  rfl

/-- A struct is fixed text around its name. -/
theorem Rust.not_mem_structText {name : String} (h : '<' ∉ name.toList) :
    '<' ∉ (Rust.structText name).toList := by
  have hjoin : Rust.structText name =
      Text.join name [derives ++ "\npub struct ", "(pub String);"] := rfl
  rw [hjoin]
  exact Text.not_mem_join h (by decide)

/-- How a text is reached is fixed text around the name. -/
theorem Rust.not_mem_accessText {name : String} (h : '<' ∉ name.toList) :
    '<' ∉ (Rust.accessText name).toList := by
  have hjoin : Rust.accessText name = Text.join name
      ["\n\nimpl Deref for ",
        " \x7b\n    type Target = str;\n\n    fn deref(&self) -> &str \x7b\n" ++
          "        &self.0\n    \x7d\n" ++ "\x7d\n\nimpl fmt::Display for ",
        " \x7b\n    fn fmt(&self, f: &mut fmt::Formatter) -> fmt::Result \x7b\n" ++
          "        f.write_str(&self.0)\n    \x7d\n\x7d"] := by
    unfold Rust.accessText
    rw [Text.join, Text.join, Text.join]
    simp only [-String.reduceAppend, String.append_assoc]
  rw [hjoin]
  exact Text.not_mem_join h (by decide)

/-- A wrapper without documentation is a struct, its conversions one after the other, and how its
text is reached. -/
theorem Rust.wrapper_eq {w : Wrapper} (hdoc : w.doc = "") :
    Rust.item (.wrapper w) = Rust.structText (Rust.ident w.name) ++
      String.join ((Rust.conversions w).map (Rust.Conversion.item (Rust.ident w.name))) ++
      Rust.accessText (Rust.ident w.name) := by
  have hwrapper : Rust.item (.wrapper w) = Rust.textType (Rust.ident w.name) ""
      (w.hosts.filter fun h => h.kind ≠ .text) := by
    rw [← hdoc]
    rfl
  rw [hwrapper, Rust.textType_eq, Rust.conversions, List.map_cons, List.map_cons, List.map_map,
    String.join_cons, String.join_cons]
  simp only [String.append_assoc]
  rfl

/-- A wrapper converts from plain text, from borrowed text and from its other hosts. -/
theorem Rust.map_source_conversions (w : Wrapper) :
    (Rust.conversions w).map Rust.Conversion.source = Rust.host .plain ::
      Rust.fromStr.source :: (w.hosts.filter fun h => h.kind ≠ .text).map Rust.host := by
  rw [Rust.conversions, List.map_cons, List.map_cons, List.map_map]
  rfl

theorem Rust.host_mem_sources {w : Wrapper} {host : HostType} (h : host ∈ w.hosts) :
    Rust.host host ∈ (Rust.conversions w).map Rust.Conversion.source := by
  rw [Rust.map_source_conversions]
  by_cases htext : host.kind = .text
  · have hplain : Rust.host host = Rust.host .plain := by
      unfold Rust.host
      rw [htext]
      rfl
    exact hplain ▸ List.mem_cons_self
  · refine List.mem_cons_of_mem _ (List.mem_cons_of_mem _ (List.mem_map_of_mem ?_))
    exact List.mem_filter.mpr ⟨h, decide_eq_true htext⟩

end Code

/-! ## Types that are written differently -/

/-- A scalar host type, or a generated one whose name is capitalised. -/
def HostType.Written (host : HostType) : Prop :=
  (∃ kind, kind ≠ .named ∧ host = { kind }) ∨
    ∃ name, isCapitalised name.toList = true ∧ host = .generated name

namespace Code

/-- A word that is not capitalised is not what a capitalised name is written as. -/
theorem Rust.ident_ne_word {name word : String} (h : isCapitalised name.toList = true)
    (hword : word ∉ Rust.reserved) (hescaped : ∀ w ∈ Rust.reserved, "_" ++ w ≠ word)
    (hother : isCapitalised word.toList = true → name ≠ word) : Rust.ident name ≠ word := by
  intro heq
  obtain rfl := (Target.rust.ident_eq_word_iff hword hescaped).mp heq
  exact hother h rfl

theorem Rust.ident_inj {a b : String} (ha : isCapitalised a.toList = true)
    (hb : isCapitalised b.toList = true) (heq : Rust.ident a = Rust.ident b) : a = b := by
  have hescaped : ∀ {w : String}, ¬isCapitalised ("_" ++ w).toList = true := fun h => by
    rw [String.toList_append] at h
    exact absurd ((isCapitalised_iff.mp h).2 '_' List.mem_cons_self) (by decide)
  rcases Target.rust.ident_eq_iff.mp heq with heq | ⟨-, rfl⟩ | ⟨-, rfl⟩
  · exact heq
  · exact absurd hb hescaped
  · exact absurd ha hescaped

theorem Rust.not_mem_ident {name : String} (h : isCapitalised name.toList = true) :
    '<' ∉ (Rust.ident name).toList := by
  have hname : '<' ∉ name.toList := fun hmem =>
    absurd ((isCapitalised_iff.mp h).2 _ hmem) (by decide)
  have hident : Rust.ident name = Target.rust.ident name := rfl
  rw [hident, Target.ident_eq]
  by_cases hreserved : name ∈ Target.rust.reserved
  · rw [escapeReserved_of_mem hreserved, Target.escape, String.toList_append]
    exact fun hmem => (List.mem_append.mp hmem).elim (by decide) hname
  · rwa [escapeReserved_of_not_mem hreserved]

/-- Host types are written differently, where none is called like the text of the standard
library. -/
theorem Rust.host_inj {a b : HostType} (ha : a.Written) (hb : b.Written)
    (ha' : a.name ≠ some "String") (hb' : b.name ≠ some "String")
    (heq : Rust.host a = Rust.host b) : a = b := by
  have hscalar : ∀ {kind} {name : String}, kind ≠ .named → isCapitalised name.toList = true →
      name ≠ "String" → Rust.ident name ≠ Rust.host { kind } := by
    intro kind name hkind hname hne
    have hwords : ∀ kind ∈ HostKind.all, kind ≠ .named →
        Rust.host { kind } ∉ Rust.reserved ∧
        (∀ w ∈ Rust.reserved, "_" ++ w ≠ Rust.host { kind }) ∧
        (isCapitalised (Rust.host { kind }).toList = true → Rust.host { kind } = "String") := by
      decide
    obtain ⟨hword, hescaped, hstring⟩ := hwords kind (by cases kind <;> decide) hkind
    exact Rust.ident_ne_word hname hword hescaped fun hcapital => hstring hcapital ▸ hne
  rcases ha with ⟨kind, hkind, rfl⟩ | ⟨name, hname, rfl⟩ <;>
    rcases hb with ⟨other, hother, rfl⟩ | ⟨other, hother, rfl⟩
  · have hkinds : ∀ a ∈ HostKind.all, ∀ b ∈ HostKind.all, a ≠ .named → b ≠ .named →
        Rust.host { kind := a } = Rust.host { kind := b } → a = b := by decide
    rw [hkinds kind (by cases kind <;> decide) other (by cases other <;> decide) hkind hother heq]
  · exact absurd heq.symm (hscalar hkind hother fun h => hb' (h ▸ rfl))
  · exact absurd heq (hscalar hother hname fun h => ha' (h ▸ rfl))
  · rw [Rust.ident_inj hname hother heq]

theorem Rust.host_ne_fromStr {host : HostType} (h : host.Written) :
    Rust.host host ≠ Rust.fromStr.source := by
  rcases h with ⟨kind, hkind, rfl⟩ | ⟨name, hname, rfl⟩
  · exact (by decide : ∀ kind ∈ HostKind.all, kind ≠ .named →
      Rust.host { kind } ≠ Rust.fromStr.source) kind (by cases kind <;> decide) hkind
  · exact Rust.ident_ne_word hname (by decide) (by decide) fun h => absurd h (by decide)

/-- A wrapper converts from different types, and from none that is its own, just when neither it nor
a host of it is called like the text of the standard library. -/
theorem Rust.nodup_sources_iff {w : Wrapper} (hname : isCapitalised w.name.toList = true)
    (hhosts : ∀ host ∈ w.hosts, host.Written) (hnodup : w.hosts.Nodup)
    (hself : .generated w.name ∉ w.hosts) :
    (Rust.ident w.name :: (Rust.conversions w).map Rust.Conversion.source).Nodup ↔
      w.name ≠ "String" ∧ .generated "String" ∉ w.hosts := by
  have hlist : (Rust.ident w.name :: (Rust.conversions w).map Rust.Conversion.source).Perm
      (Rust.fromStr.source ::
        (HostType.generated w.name :: .plain ::
          w.hosts.filter fun h => h.kind ≠ .text).map Rust.host) := by
    rw [Rust.map_source_conversions]
    exact ((List.Perm.swap _ _ _).cons _).trans (List.Perm.swap _ _ _)
  have hwritten : ∀ host ∈ HostType.generated w.name :: .plain ::
      w.hosts.filter fun h => h.kind ≠ .text, host.Written := by
    rw [List.forall_mem_cons, List.forall_mem_cons]
    exact ⟨.inr ⟨_, hname, rfl⟩, .inl ⟨.text, by decide, rfl⟩,
      fun host hhost => hhosts host (List.mem_of_mem_filter hhost)⟩
  have hdistinct : (HostType.generated w.name :: .plain ::
      w.hosts.filter fun h => h.kind ≠ .text).Nodup := by
    have hplain : HostType.plain ∉ w.hosts.filter fun h => h.kind ≠ .text := by
      simp [HostType.plain]
    refine List.nodup_cons.mpr ⟨?_, List.nodup_cons.mpr ⟨hplain, hnodup.filter _⟩⟩
    rw [List.mem_cons, not_or]
    exact ⟨nofun, fun hmem => hself (List.mem_of_mem_filter hmem)⟩
  rw [hlist.nodup_iff, List.nodup_cons]
  constructor
  · rintro ⟨-, hsources⟩
    have hinj := List.inj_on_of_nodup_map hsources
    have hplain : HostType.plain ∈ HostType.generated w.name :: .plain ::
        w.hosts.filter fun h => h.kind ≠ .text := List.mem_cons_of_mem _ List.mem_cons_self
    constructor
    · intro hstring
      exact nomatch hinj List.mem_cons_self hplain (hstring ▸ rfl)
    · intro hstring
      have hmem : HostType.generated "String" ∈ HostType.generated w.name :: .plain ::
          w.hosts.filter fun h => h.kind ≠ .text :=
        List.mem_cons_of_mem _ (List.mem_cons_of_mem _ (List.mem_filter.mpr ⟨hstring, rfl⟩))
      exact nomatch hinj hmem hplain rfl
  · rintro ⟨hne, hstring⟩
    have hfree : ∀ host ∈ HostType.generated w.name :: .plain ::
        w.hosts.filter fun h => h.kind ≠ .text, host.name ≠ some "String" := by
      rw [List.forall_mem_cons, List.forall_mem_cons]
      refine ⟨fun heq => hne (Option.some.inj heq), nofun, fun host hhost heq => ?_⟩
      have hmem := List.mem_of_mem_filter hhost
      rcases hhosts host hmem with ⟨kind, -, rfl⟩ | ⟨name, -, rfl⟩
      · cases heq
      · cases heq
        exact hstring hmem
    refine ⟨fun hmem => ?_, List.Nodup.map_on (fun a ha b hb => ?_) hdistinct⟩
    · obtain ⟨host, hhost, heq⟩ := List.mem_map.mp hmem
      exact Rust.host_ne_fromStr (hwritten host hhost) heq
    · exact Rust.host_inj (hwritten a ha) (hwritten b hb) (hfree a ha) (hfree b hb)

end Code

/-! ## Wrappers of all endpoints -/

section Generate

variable {endpoints : List Endpoint} {g : Generated} (h : generate endpoints policy = .ok g)

include h

/-- A text type that is called like the text of the standard library is all that makes a wrapper
convert from one type twice. -/
theorem nodup_sources_of_generate {w : Wrapper} (hw : w ∈ g.code.wrappers) :
    (Rust.ident w.name :: (Rust.conversions w).map Rust.Conversion.source).Nodup ↔
      w.name ≠ "String" ∧ .generated "String" ∉ w.hosts := by
  have hwritten : ∀ host ∈ w.hosts, host.Written := by
    intro host hhost
    obtain ⟨⟨e, he, part, hpart, -, hhost⟩, -⟩ := (mem_hosts_of_generate h hw).mp hhost
    rcases hhost.eq_scalar_or_generated with hscalar | ⟨name, rfl⟩
    · exact .inl hscalar
    · exact .inr ⟨name, isCapitalised_of_generate h ((mem_textTypes_of_generate h).mpr
        ⟨e, he, part, hpart, .inr ⟨_, hhost, rfl⟩⟩), rfl⟩
  have hnodup : w.hosts.Nodup := by
    rw [((mem_wrappers_of_generate h).mp hw).2]
    exact (((arranged_of_generate h).increasing_hostsOf w.name).nodup
      HostType.isStrict_before).filter _
  exact Rust.nodup_sources_iff (isCapitalised_of_generate h (textType_of_mem_wrappers h hw))
    hwritten hnodup fun hself => ((mem_hosts_of_generate h hw).mp hself).2 rfl

/-- All wrappers convert from different types just when no part leads to a text type that is called
like the text of the standard library. -/
theorem forall_nodup_sources_iff :
    (∀ w ∈ g.code.wrappers,
      (Rust.ident w.name :: (Rust.conversions w).map Rust.Conversion.source).Nodup) ↔
      ∀ e : Endpoint, e.IsLast g.endpoints → ∀ part, e.HasPart part →
        ¬e.GivesType part "String" := by
  constructor
  · intro hall e he part hpart hgives
    obtain ⟨w, hw, hname⟩ := exists_wrapper_of_generate h he hpart
    obtain ⟨hne, hstring⟩ := (nodup_sources_of_generate h hw).mp (hall w hw)
    rcases hgives with heq | ⟨host, hhost, heq⟩
    · exact hne (hname.trans heq)
    · refine hstring ((mem_hosts_of_generate h hw).mpr ⟨⟨e, he, part, hpart, hname.symm, ?_⟩, ?_⟩)
      · rcases hhost.eq_scalar_or_generated with ⟨kind, -, rfl⟩ | ⟨name, rfl⟩
        · cases heq
        · cases heq
          exact hhost
      · exact fun hself => hne (Option.some.inj (congrArg HostType.name hself)).symm
  · intro hnone w hw
    refine (nodup_sources_of_generate h hw).mpr ⟨fun hname => ?_, fun hstring => ?_⟩
    · obtain ⟨e, he, part, hpart, hgives⟩ :=
        (mem_textTypes_of_generate h).mp (textType_of_mem_wrappers h hw)
      exact hnone e he part hpart (hname ▸ hgives)
    · obtain ⟨⟨e, he, part, hpart, -, hhost⟩, -⟩ := (mem_hosts_of_generate h hw).mp hstring
      exact hnone e he part hpart (.inr ⟨_, hhost, rfl⟩)

end Generate

end Routewright
