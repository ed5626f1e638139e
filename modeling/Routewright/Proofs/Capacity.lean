import Mathlib.Algebra.GroupWithZero.Nat
import Routewright.Proofs.Rendering

/-!
# The capacity of a builder

A builder that pushes knows beforehand how long its url will be. What it adds up and what it puts
together both look values up under the names of parameters, but the sum binds the base address to a
name as well, after the parameters. A parameter of that name is counted as the base address and
rendered as itself (`counted`), and for all others the two walks agree (`capacity_eq_ok`). So a
capacity is exact just when a value under the name of the base address is as long as the base
address.
-/

namespace Routewright

/-! ## Values as they are counted -/

/-- The last binding of a name is found first. -/
theorem boundValue_append_singleton {name n v : String} :
    ∀ bound : List (String × String),
      boundValue name (bound ++ [(n, v)]) = if n = name then some v else boundValue name bound
  | [] => rfl
  | (m, w) :: rest => by
    rw [List.cons_append, boundValue, boundValue_append_singleton rest, boundValue]
    split_ifs <;> rfl

/-- The values that a capacity counts under names : the base address under its own name, and what
is given under all others. -/
def counted (base : String) (names values : List String) : List String :=
  names.zipWith (fun name v => if name = baseParam then base else v) values

theorem counted_cons (base name v : String) (names values : List String) :
    counted base (name :: names) (v :: values) =
      (if name = baseParam then base else v) :: counted base names values :=
  rfl

/-- Under other names the values are counted as they are given. -/
theorem counted_of_not_mem {base : String} :
    ∀ {names values : List String}, baseParam ∉ names → names.length = values.length →
      counted base names values = values
  | [], [], _, _ => rfl
  | [], _ :: _, _, hlen => absurd hlen.symm (Nat.succ_ne_zero _)
  | _ :: _, [], _, hlen => absurd hlen (Nat.succ_ne_zero _)
  | name :: names, v :: values, h, hlen => by
    obtain ⟨hname, hnames⟩ := not_or.mp (mt List.mem_cons.mpr h)
    rw [counted_cons, if_neg (Ne.symm hname), counted_of_not_mem hnames (Nat.succ.inj hlen)]

theorem map_counted (base : String) {value : String → Option String} :
    ∀ {names values : List String}, names.map value = values.map some →
      names.map (fun name => if baseParam = name then some base else value name) =
        (counted base names values).map some
  | [], _, _ => rfl
  | _ :: _, [], h => absurd h (List.cons_ne_nil _ _)
  | name :: names, v :: values, h => by
    obtain ⟨hv, hrest⟩ := List.cons_eq_cons.mp h
    rw [List.map_cons, map_counted base hrest, counted_cons, List.map_cons, hv]
    by_cases hname : baseParam = name
    · rw [if_pos hname, if_pos hname.symm]
    · rw [if_neg hname, if_neg (Ne.symm hname)]

/-- A capacity finds each name with the value that it counts. -/
theorem map_boundValue_counted (base : String) {names values : List String} (hnodup : names.Nodup)
    (hlen : names.length = values.length) :
    names.map (boundValue · (names.zip values ++ [(baseParam, base)])) =
      (counted base names values).map some := by
  have hbound := map_boundValue_zip hnodup (Nat.le_of_eq hlen)
  rw [hlen, List.take_length] at hbound
  simp only [boundValue_append_singleton]
  exact map_counted base hbound

/-- Values are counted with the lengths that they have just when one under the name of the base
address is as long as the base address. -/
theorem sum_length_counted_iff {base : String} :
    ∀ {names values : List String}, names.Nodup → names.length = values.length →
      (((counted base names values).map String.length).sum = (values.map String.length).sum ↔
        ∀ v, (baseParam, v) ∈ names.zip values → v.length = base.length)
  | [], [], _, _ => iff_of_true rfl fun _ h => absurd h List.not_mem_nil
  | [], _ :: _, _, hlen => absurd hlen.symm (Nat.succ_ne_zero _)
  | _ :: _, [], _, hlen => absurd hlen (Nat.succ_ne_zero _)
  | name :: names, v :: values, hnodup, hlen => by
    obtain ⟨hname, hnodup⟩ := List.nodup_cons.mp hnodup
    rw [counted_cons, List.map_cons, List.sum_cons, List.map_cons, List.sum_cons,
      List.zip_cons_cons]
    by_cases hbase : name = baseParam
    · subst hbase
      -- no other parameter has the name, so the rest counts as it is
      have hrest : ∀ w, (baseParam, w) ∉ names.zip values :=
        fun w hw => hname (List.of_mem_zip hw).1
      rw [if_pos rfl, counted_of_not_mem hname (Nat.succ.inj hlen), Nat.add_right_cancel_iff]
      constructor
      · intro heq w hw
        rcases List.mem_cons.mp hw with hw | hw
        · rw [(Prod.mk.inj hw).2, heq]
        · exact absurd hw (hrest w)
      · exact fun h => (h v List.mem_cons_self).symm
    · rw [if_neg hbase, Nat.add_left_cancel_iff, sum_length_counted_iff hnodup (Nat.succ.inj hlen)]
      refine forall_congr' fun w => ?_
      rw [List.mem_cons, Prod.mk.injEq, or_iff_right fun h => hbase h.1.symm]

/-! ## Lengths of segments -/

/-- Filled segments are as long as their literals and the values together. -/
theorem Segment.length_filled :
    ∀ (segments : List Segment) {values : List String},
      (Segment.params segments).length = values.length →
      (Segment.filled segments values).length =
        ((Segment.literals segments).map String.length).sum + (values.map String.length).sum
  | [], [], _ => rfl
  | [], _ :: _, hlen => absurd hlen.symm (Nat.succ_ne_zero _)
  | .literal text :: rest, values, hlen => by
    rw [filled, List.length_append, length_filled rest hlen, literals, List.map_cons,
      List.sum_cons, String.length_toList, Nat.add_assoc]
  | .param _ :: rest, [], hlen => absurd hlen (Nat.succ_ne_zero _)
  | .param _ :: rest, v :: values, hlen => by
    rw [filled, List.headD_cons, List.tail_cons, List.length_append,
      length_filled rest (Nat.succ.inj hlen), literals, List.map_cons, List.sum_cons,
      String.length_toList]
    omega

namespace UrlBuilder

variable {bound : List (String × String)}

/-- The terms of segments add up to their length, filled with what their parameters are bound to. -/
theorem sumTerms_segmentTerms :
    ∀ (segments : List Segment) {values : List String},
      (Segment.params segments).map (boundValue · bound) = values.map some →
      sumTerms bound (segmentTerms segments) = .ok (Segment.filled segments values).length
  | [], _, _ => rfl
  | .literal text :: rest, values, h => by
    have hrest := sumTerms_segmentTerms rest h
    rw [segmentTerms, Segment.filled, List.length_append, String.length_toList]
    split_ifs with hempty
    · rw [hrest, String.isEmpty_iff.mp hempty, String.length_empty, Nat.zero_add]
    · rw [sumTerms, hrest]
      rfl
  | .param _ :: rest, [], h => absurd h (List.cons_ne_nil _ _)
  | .param name :: rest, v :: values, h => by
    obtain ⟨hv, hrest⟩ := List.cons_eq_cons.mp h
    simp only [segmentTerms, sumTerms, hv, sumTerms_segmentTerms rest hrest, Segment.filled,
      List.headD_cons, List.tail_cons, List.length_append, String.length_toList]
    rfl

/-- A capacity is the length of the base address and of the segments, filled with the values as they
are counted. -/
theorem capacity_eq_ok {segments : List Segment} {names values : List String} (base : String)
    (hparams : Segment.params segments = names) (hnodup : names.Nodup)
    (hlen : names.length = values.length) :
    capacity segments names base values =
      .ok (base.length + (Segment.filled segments (counted base names values)).length) := by
  have hbound : (Segment.params segments).map
      (boundValue · (names.zip values ++ [(baseParam, base)])) =
        (counted base names values).map some := by
    rw [hparams]
    exact map_boundValue_counted base hnodup hlen
  have hbase : boundValue baseParam (names.zip values ++ [(baseParam, base)]) = some base := by
    rw [boundValue_append_singleton, if_pos rfl]
  rw [capacity, capacityTerms, sumTerms, hbase, sumTerms_segmentTerms segments hbound]
  rfl

variable {template : String} {path : UrlPath}

/-- For a parsed template, whatever its parameters are called and whatever the values are, the
capacity of the builder that pushes is the number of characters that it renders just when a value
given for a parameter with the name of the base address is as long as the base address. -/
theorem capacity_eq_length_iff (hpath : UrlPath.parse template = .ok path)
    (names : Option (List String))
    (hnames : ∀ ns ∈ names, ns.Nodup ∧ ns.length = path.params.length) (base : String)
    {values : List String} (hlen : values.length = path.params.length) :
    ∃ segments size url,
      build path .push names = .ok (.push segments (names.getD path.params)) ∧
      capacity segments (names.getD path.params) base values = .ok size ∧
      render (.push segments (names.getD path.params)) base values = .ok url ∧
      (size = url.length ↔
        ∀ v, (baseParam, v) ∈ (names.getD path.params).zip values → v.length = base.length) := by
  have hused : (names.getD path.params).Nodup ∧
      (names.getD path.params).length = path.params.length := by
    cases names with
    | none => exact ⟨UrlPath.nodup_params hpath, rfl⟩
    | some ns => exact hnames ns rfl
  set used := names.getD path.params
  obtain ⟨hnodup, hcount⟩ := hused
  set segments := Segment.rename path.segments used
  have hparams : Segment.params segments = used := Segment.params_rename path.segments hcount
  have hvalues : used.length = values.length := hcount.trans hlen.symm
  have hcounted : (counted base used values).length = values.length := by
    rw [counted, List.length_zipWith, hvalues, Nat.min_self]
  have hrender : render (.push segments used) base values =
      .ok (base ++ String.ofList (Segment.filled segments values)) := by
    have hbound := map_boundValue_zip hnodup (Nat.le_of_eq hvalues)
    rw [hvalues, List.take_length] at hbound
    rw [render, fill_eq_ok segments (by rw [hparams]; exact hbound)]
    rfl
  refine ⟨segments, _, _, (build_eq_ok hcount).1, capacity_eq_ok base hparams hnodup hvalues,
    hrender, ?_⟩
  rw [String.length_append, String.length_ofList, Nat.add_left_cancel_iff,
    Segment.length_filled segments (by rw [hparams, hvalues, hcounted]),
    Segment.length_filled segments (by rw [hparams, hvalues]), Nat.add_left_cancel_iff]
  exact sum_length_counted_iff hnodup hvalues

/-- A parameter that is called like the base address in its template may get another name, and the
capacity is exact. -/
theorem capacity_eq_length_renamed :
    UrlPath.parse "/{base}/_é" = .ok ⟨"/{base}/_é", [.literal "/", .param "base", .literal "/_é"]⟩ ∧
    (∀ ns ∈ some ["index"], ns.Nodup ∧ ns.length = 1) ∧
    ∃ segments size url,
      build ⟨"/{base}/_é", [.literal "/", .param "base", .literal "/_é"]⟩ .push
        (some ["index"]) = .ok (.push segments ["index"]) ∧
      capacity segments ["index"] "h" ["xyz"] = .ok size ∧
      render (.push segments ["index"]) "h" ["xyz"] = .ok url ∧ size = url.length := by
  have hparse : UrlPath.parse "/{base}/_é" =
      .ok ⟨"/{base}/_é", [.literal "/", .param "base", .literal "/_é"]⟩ := by decide
  have hnames : ∀ ns ∈ some ["index"], ns.Nodup ∧ ns.length = 1 := by decide
  have hlen : ["xyz"].length = ["base"].length := rfl
  obtain ⟨segments, size, url, hbuild, hcapacity, hrender, hexact⟩ :=
    capacity_eq_length_iff hparse _ hnames "h" hlen
  refine ⟨hparse, hnames, segments, size, url, hbuild, hcapacity, hrender, hexact.mpr ?_⟩
  intro v hv
  exact absurd (List.of_mem_zip hv).1 (by decide)

/-- A parameter that keeps the name of the base address is counted as the base address, and the
capacity is less than the url needs. -/
theorem capacity_short_of_base_parameter :
    ∃ path segments url,
      UrlPath.parse "/{base}" = .ok path ∧
      build path .push none = .ok (.push segments path.params) ∧
      capacity segments path.params "h" ["xyz"] = .ok 3 ∧
      render (.push segments path.params) "h" ["xyz"] = .ok url ∧ url.length = 5 :=
  ⟨⟨"/{base}", [.literal "/", .param "base"]⟩, [.literal "/", .param "base"], "h/xyz",
    by decide, by decide, by decide, by decide, by decide⟩

end UrlBuilder

end Routewright
