import Routewright.Inspection
import Routewright.Proofs.Generation
import Routewright.Proofs.Lines
import Routewright.Proofs.Reading

/-!
# Tables that are read back

A plain table is lines of cells with tabs between them. Nothing is escaped, so whoever splits it
again gets the cells back just when none of them has a tab or a line feed
(`TextTable.spells_plainText_iff`). What is split off has none, which is the one direction. In the
other, each row is a line of its own (`Console.rowText_eq`) and the lines are split off one by
one.

In a table of generated endpoints the cells are checked only in part. A name is a path of
identifiers, which leaves out tabs but not a line feed at the end of an identifier, and a template
may have both anywhere. `generate_table_read_back_iff` says which endpoints can be read back.
-/

namespace Routewright

open Outcome

variable {policy : Policy}

/-! ## Texts that are split -/

namespace Text

/-- The texts between the occurrences of a character. -/
def split (separator : Char) (s : String) : List String :=
  (pieces separator s.toList).map String.ofList

theorem separator_not_mem_of_mem_split {separator : Char} {s part : String}
    (h : part ∈ split separator s) : separator ∉ part.toList := by
  obtain ⟨p, hp, rfl⟩ := List.mem_map.mp h
  rw [String.toList_ofList]
  exact not_mem_of_mem_pieces hp

/-- The characters of a part are characters of the text. -/
theorem subset_of_mem_split {separator : Char} {s part : String} (h : part ∈ split separator s) :
    part.toList ⊆ s.toList := by
  obtain ⟨p, hp, rfl⟩ := List.mem_map.mp h
  intro c hc
  rw [String.toList_ofList] at hc
  have hflat : c ∈ (pieces separator s.toList).flatten := List.mem_flatten_of_mem hp hc
  rw [flatten_pieces] at hflat
  exact List.mem_of_mem_filter hflat

/-- Texts without the separator are split off as they were joined. -/
theorem split_join {separator : Char} {items : List String}
    (h : ∀ item ∈ items, separator ∉ item.toList) (hne : items ≠ []) :
    split separator (join (String.singleton separator) items) = items := by
  have hpieces : pieces separator ([separator].intercalate (items.map String.toList)) =
      items.map String.toList :=
    pieces_intercalate (List.forall_mem_map.mpr h) (mt List.map_eq_nil_iff.mp hne)
  rw [split, toList_join, String.toList_singleton, hpieces, List.map_map]
  exact List.map_id'' (fun item => String.ofList_toList) items

/-- A line is split off in front of what follows it. -/
theorem split_append_line {line rest : String} (h : '\n' ∉ line.toList) :
    split '\n' (line ++ "\n" ++ rest) = line :: split '\n' rest := by
  have hline : (line ++ "\n" ++ rest).toList = line.toList ++ '\n' :: rest.toList := by
    rw [String.toList_append, String.toList_append, List.append_assoc]
    rfl
  rw [split, hline, pieces_append_cons, pieces_of_not_mem h, List.map_append, List.map_singleton,
    String.ofList_toList]
  rfl

end Text

/-! ## Rows of a plain table -/

/-- A text that may be a cell : it has neither tabs nor line feeds. -/
def Text.IsCell (s : String) : Prop :=
  ∀ c ∈ s.toList, c ≠ '\n' ∧ c ≠ '\t'

theorem Text.isCell_iff {s : String} :
    IsCell s ↔ '\n' ∉ s.toList ∧ '\t' ∉ s.toList := by
  constructor
  · exact fun h => ⟨fun hmem => (h _ hmem).1 rfl, fun hmem => (h _ hmem).2 rfl⟩
  · rintro ⟨hfeed, htab⟩ c hc
    exact ⟨fun heq => hfeed (heq ▸ hc), fun heq => htab (heq ▸ hc)⟩

instance (s : String) : Decidable (Text.IsCell s) :=
  decidable_of_iff _ Text.isCell_iff.symm

/-- Whether a text is one line for each row and each line splits at tabs into the cells of its row.
Every line ends in a line feed, so that nothing stands behind the last. -/
def TextTable.Spells (text : String) (rows : List (List String)) : Prop :=
  ∃ lines, Text.split '\n' text = lines ++ [""] ∧ lines.map (Text.split '\t') = rows

/-- Cells that are joined by tabs are a line, and the end of it is added. -/
theorem Console.rowText_eq {cells : List String} (h : ∀ cell ∈ cells, '\n' ∉ cell.toList) :
    rowText cells = Text.join "\t" cells ++ "\n" ∧ '\n' ∉ (Text.join "\t" cells).toList := by
  have htab : ∀ c ∈ "\t".toList, c ≠ '\n' := List.forall_mem_singleton.mpr (by decide)
  have hfree : ∀ c ∈ (Text.join "\t" cells).toList, c ≠ '\n' := by
    rw [Text.forall_mem_join htab]
    intro cell hcell c hc heq
    exact h cell hcell (heq ▸ hc)
  have hnone : '\n' ∉ (Text.join "\t" cells).toList := fun hmem => hfree _ hmem rfl
  refine ⟨?_, hnone⟩
  rw [rowText, dataText, if_neg]
  exact fun hlast => hnone (List.mem_of_getLast? hlast)

namespace TextTable

/-- Cells that are read from a text have neither tabs nor line feeds. -/
theorem Spells.isCell {text : String} {rows : List (List String)} (h : Spells text rows) :
    ∀ row ∈ rows, ∀ cell ∈ row, Text.IsCell cell := by
  obtain ⟨lines, hlines, rfl⟩ := h
  intro row hrow cell hcell
  obtain ⟨line, hline, rfl⟩ := List.mem_map.mp hrow
  have hsplit : line ∈ Text.split '\n' text := hlines ▸ List.mem_append_left _ hline
  have hfeed : '\n' ∉ cell.toList := fun hmem =>
    Text.separator_not_mem_of_mem_split hsplit (Text.subset_of_mem_split hcell hmem)
  exact Text.isCell_iff.mpr ⟨hfeed, Text.separator_not_mem_of_mem_split hcell⟩

/-- Rows of such cells are read from their lines. -/
theorem spells_rowTexts :
    ∀ {rows : List (List String)},
      (∀ row ∈ rows, row ≠ [] ∧ ∀ cell ∈ row, Text.IsCell cell) →
      Spells (String.join (rows.map Console.rowText)) rows
  | [], _ => ⟨[], rfl, rfl⟩
  | row :: rows, h => by
    obtain ⟨⟨hne, hcells⟩, hrows⟩ := List.forall_mem_cons.mp h
    obtain ⟨lines, hlines, heq⟩ := spells_rowTexts hrows
    have hfree : ∀ cell ∈ row, '\n' ∉ cell.toList ∧ '\t' ∉ cell.toList := fun cell hcell =>
      Text.isCell_iff.mp (hcells cell hcell)
    obtain ⟨htext, hline⟩ := Console.rowText_eq fun cell hcell => (hfree cell hcell).1
    refine ⟨Text.join "\t" row :: lines, ?_, ?_⟩
    · rw [List.map_cons, String.join_cons, htext, Text.split_append_line hline, hlines,
        List.cons_append]
    · rw [List.map_cons, heq]
      exact congrArg (· :: rows) (Text.split_join (fun cell hcell => (hfree cell hcell).2) hne)

/-- A table whose rows have cells is read back just when no cell has a tab or a line feed. -/
theorem spells_plainText_iff {table : TextTable} (hheaders : table.headers ≠ [])
    (hrows : ∀ row ∈ table.rows, row ≠ []) :
    Spells (Console.plainText table) (table.headers :: table.rows) ↔
      ∀ row ∈ table.headers :: table.rows, ∀ cell ∈ row, Text.IsCell cell := by
  constructor
  · exact Spells.isCell
  · intro hcells
    have hne : ∀ row ∈ table.headers :: table.rows, row ≠ [] :=
      List.forall_mem_cons.mpr ⟨hheaders, hrows⟩
    exact spells_rowTexts fun row hrow => ⟨hne row hrow, hcells row hrow⟩

end TextTable

/-! ## Cells of an endpoint -/

/-- The identifiers of a name have no tabs. -/
theorem tab_not_mem_of_modulePath {name : String} {tokens : List String}
    (h : modulePath name = .ok tokens) : '\t' ∉ name.toList := by
  obtain ⟨hidentifiers, -, hchars⟩ := modulePath_eq_ok h
  intro hmem
  have htoken : '\t' ∈ tokens.flatMap String.toList := by
    rw [hchars]
    exact List.mem_filter.mpr ⟨hmem, by decide⟩
  obtain ⟨token, htoken, hmem⟩ := List.mem_flatMap.mp htoken
  rcases (of_isIdentifier (hidentifiers token htoken)).2 _ hmem with hname | hfeed
  · exact absurd hname (by decide)
  · exact absurd hfeed (by decide)

namespace Endpoint

theorem isCell_shownTemplate {path : UrlPath} :
    Text.IsCell (shownTemplate path) ↔ Text.IsCell path.template := by
  have hslash : Text.IsCell "/" := by decide
  have hempty : Text.IsCell "" := by decide
  rw [shownTemplate]
  split_ifs with hnone
  · rw [String.isEmpty_iff.mp hnone]
    exact iff_of_true hslash hempty
  · exact Iff.rfl

/-- Templates that are listed are a cell just when each of them is one. -/
theorem isCell_join_templates {paths : List UrlPath} :
    Text.IsCell (Text.join ", " (paths.map shownTemplate)) ↔
      ∀ path ∈ paths, Text.IsCell path.template := by
  have hseparator : Text.IsCell ", " := by decide
  rw [Text.IsCell, Text.forall_mem_join hseparator, List.forall_mem_map]
  exact forall₂_congr fun path _ => isCell_shownTemplate

theorem isCell_bodyLabel (e : Endpoint) : Text.IsCell e.bodyLabel := by
  unfold bodyLabel
  split
  · decide
  · split_ifs <;> decide

/-- An endpoint with one method shows it, and its other cells are what the endpoint says. -/
theorem cells_eq {e : Endpoint} {method : HttpMethod} (h : e.methods = [method]) :
    e.cells = [e.name, method.name, Text.join ", " (e.paths.map shownTemplate), e.bodyLabel] := by
  rw [cells, method?, h]
  rfl

/-- Of the cells of an endpoint whose name is a path of identifiers, only the name and the templates
can be none. -/
theorem forall_isCell_cells_iff {e : Endpoint} {method : HttpMethod} {tokens : List String}
    (hmethod : e.methods = [method]) (hname : modulePath e.name = .ok tokens) :
    (∀ cell ∈ e.cells, Text.IsCell cell) ↔
      '\n' ∉ e.name.toList ∧ ∀ path ∈ e.paths, Text.IsCell path.template := by
  have hlabel : Text.IsCell method.name := by cases method <;> decide
  rw [cells_eq hmethod, List.forall_mem_cons, List.forall_mem_cons, List.forall_mem_cons,
    List.forall_mem_singleton, Text.isCell_iff, and_iff_left (tab_not_mem_of_modulePath hname),
    and_iff_right hlabel, isCell_join_templates, and_iff_left e.isCell_bodyLabel]

end Endpoint

/-! ## What the program prints -/

theorem onlyReads_inspected (console : Console) (config spec : Option String) :
    OnlyReads (inspected console config spec : Task (StateM World) _).run :=
  .andThen (Settings.onlyReads_resolve console _ _ _) fun _ =>
    Settings.onlyReads_compile console _ _

/-- Once descriptions are compiled, their endpoints are printed as a table and nothing else is. -/
theorem run_inspectEndpoints {console : Console} {config spec : Option String} {w v : World}
    {g : Generated} (h : w.run (inspected console config spec) = (.ok g, v)) :
    w.run (inspectEndpoints console config spec) =
      (.ok (), { v with
        printed :=
          w.printed ++ Console.tableText console.format (Endpoint.table g.endpoints) }) := by
  have halike := (onlyReads_inspected console config spec).alike_of_run h
  rw [inspectEndpoints, World.run_bind, h, ← World.printed_eq_of_fixed halike.fixed]
  rfl

/-- For all endpoints and policies that code is generated for, the plain table of the endpoints, as
the console prints it and as the program does that has compiled them, splits at line feeds into the
header and one line for each endpoint, and each line at tabs into the name, the method, the
templates and the label of the body, just when no name has a line feed and no template a line feed
or a tab. -/
theorem generate_table_read_back_iff {endpoints : List Endpoint} {g : Generated}
    (h : generate endpoints policy = .ok g) {console : Console} (hplain : console.format = .plain) :
    ∃ text : String,
      (∀ w : World, (console.table (Endpoint.table g.endpoints) : StateM World Unit).run w =
        ((), { w with printed := w.printed ++ text })) ∧
      (∀ (config spec : Option String) (w v : World),
        w.run (inspected console config spec) = (.ok g, v) →
        w.run (inspectEndpoints console config spec) =
          (.ok (), { v with printed := w.printed ++ text })) ∧
      (∀ e ∈ g.endpoints, ∃ method : HttpMethod, e.methods = [method] ∧
        e.cells = [e.name, method.name, Text.join ", " (e.paths.map Endpoint.shownTemplate),
          e.bodyLabel]) ∧
      (TextTable.Spells text
          (["Name", "Method", "Paths", "Body"] :: g.endpoints.map Endpoint.cells) ↔
        ∀ e ∈ g.endpoints, '\n' ∉ e.name.toList ∧
          ∀ path ∈ e.paths, '\n' ∉ path.template.toList ∧ '\t' ∉ path.template.toList) := by
  obtain ⟨-, lowered, hendpoints, -⟩ := items_of_generate h
  have hshape : ∀ e ∈ g.endpoints, ∃ method tokens,
      e.methods = [method] ∧ modulePath e.name = .ok tokens := by
    intro e he
    rw [hendpoints] at he
    obtain ⟨l, -, rfl⟩ := List.mem_map.mp he
    obtain ⟨method, tokens, hl⟩ := Endpoint.requests_eq_ok l.requests_eq
    exact ⟨method, tokens, hl.methods_eq, hl.modulePath_eq⟩
  have hheaders : ∀ cell ∈ (Endpoint.table g.endpoints).headers, Text.IsCell cell :=
    (by decide : ∀ cell ∈ ["Name", "Method", "Paths", "Body"], Text.IsCell cell)
  have hrows : ∀ row ∈ (Endpoint.table g.endpoints).rows, row ≠ [] :=
    List.forall_mem_map.mpr fun e _ => List.cons_ne_nil _ _
  refine ⟨Console.plainText (Endpoint.table g.endpoints), fun w => ?_,
    fun config spec w v hrun => ?_, fun e he => ?_, ?_⟩
  · rw [Console.table, hplain]
    rfl
  · rw [run_inspectEndpoints hrun, hplain]
    rfl
  · obtain ⟨method, tokens, hmethod, -⟩ := hshape e he
    exact ⟨method, hmethod, Endpoint.cells_eq hmethod⟩
  · refine (TextTable.spells_plainText_iff (List.cons_ne_nil _ _) hrows).trans ?_
    rw [List.forall_mem_cons, and_iff_right hheaders, Endpoint.table, List.forall_mem_map]
    refine forall₂_congr fun e he => ?_
    obtain ⟨method, tokens, hmethod, hname⟩ := hshape e he
    rw [Endpoint.forall_isCell_cells_iff hmethod hname]
    simp only [Text.isCell_iff]

/-- Paths that are listed in one cell, one of them with a comma and a blank of its own, and an empty
template are read back. -/
theorem generate_table_read_back_listed :
    ∃ (info search : Endpoint) (g : Generated),
      generate [info, search] {} = .ok g ∧ ({} : Console).format = .plain ∧
      ∃ text : String,
        (({} : Console).table (Endpoint.table g.endpoints) : StateM World Unit).run {} =
          ((), { printed := text }) ∧
        TextTable.Spells text [["Name", "Method", "Paths", "Body"], ["info", "GET", "/", "-"],
          ["search", "POST", "/_all, /é, /{index}/_search", "optional"]] := by
  let info : Endpoint := { name := "info", methods := [.get], paths := [⟨"", [.literal ""]⟩] }
  let search : Endpoint :=
    { name := "search", methods := [.get, .post], body := some {},
      paths := [⟨"/_all, /é", [.literal "/_all, /é"]⟩,
        ⟨"/{index}/_search", [.literal "/", .param "index", .literal "/_search"]⟩] }
  obtain ⟨g, hg, hendpoints⟩ : ∃ g, generate [info, search] {} = .ok g ∧
      g.endpoints = [info, { search with methods := [.post] }] := by
    subst info search
    exact ⟨_, rfl, rfl⟩
  have hplain : ({} : Console).format = .plain := rfl
  obtain ⟨text, hprinted, -, -, hspells⟩ := generate_table_read_back_iff hg hplain
  refine ⟨info, search, g, hg, hplain, text, ?_, ?_⟩
  · rw [hprinted {}]
    rfl
  · rw [hendpoints] at hspells
    exact hspells.mpr (by decide)

/-- A template with a line feed is parsed, code is generated for it, and its row is printed as two
lines. -/
theorem table_breaks_row :
    ∃ (path : UrlPath) (g : Generated),
      UrlPath.parse "/a\nb" = .ok path ∧
      generate [{ name := "get", methods := [.get], paths := [path] }] {} = .ok g ∧
      g.endpoints.map Endpoint.cells = [["get", "GET", "/a\nb", "-"]] ∧
      Text.split '\n' (Console.tableText .plain (Endpoint.table g.endpoints)) =
        ["Name\tMethod\tPaths\tBody", "get\tGET\t/a", "b\t-", ""] ∧
      ¬ TextTable.Spells (Console.tableText .plain (Endpoint.table g.endpoints))
        (["Name", "Method", "Paths", "Body"] :: g.endpoints.map Endpoint.cells) := by
  obtain ⟨g, hg, hcells, hlines⟩ : ∃ g,
      generate [{ name := "get", methods := [.get], paths := [⟨"/a\nb", [.literal "/a\nb"]⟩] }] {} =
        .ok g ∧
      g.endpoints.map Endpoint.cells = [["get", "GET", "/a\nb", "-"]] ∧
      Text.split '\n' (Console.tableText .plain (Endpoint.table g.endpoints)) =
        ["Name\tMethod\tPaths\tBody", "get\tGET\t/a", "b\t-", ""] :=
    ⟨_, rfl, by decide, by decide⟩
  refine ⟨⟨"/a\nb", [.literal "/a\nb"]⟩, g, by decide, hg, hcells, hlines, fun hspells => ?_⟩
  have hcell : Text.IsCell "/a\nb" :=
    hspells.isCell ["get", "GET", "/a\nb", "-"] (by simp [hcells]) "/a\nb" (by simp)
  exact absurd hcell (by decide)

end Routewright
