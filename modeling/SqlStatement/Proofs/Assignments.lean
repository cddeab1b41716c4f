import SqlStatement.Proofs.Columns
import SqlStatement.Proofs.Returning

/-!
# The assignments of an update

An update sets its plain columns in the order of the calls that name them, and then each calculated
column once, in the order of their names, to the last value that calls give to it.  The parameters
are numbered in this order, so a value that gave way leaves no trace in the ordinals behind it
(`Update.assignments_after`).
-/

namespace SqlStatement.Update

/-- The assignments of calculated columns, the first one behind `start` parameters and each other
one behind the markers of those before it. -/
def calculatedTexts (d : Dialect) (start : Nat) : List (Name × String) → List String
  | [] => []
  | (column, value) :: r =>
    (column.text ++ "=" ++ RawText.numbered d start value) ::
      calculatedTexts d (start + RawText.markers value) r

/-- What an update has behind its assignments. -/
def afterAssignments (u : Update) : Printer :=
  Returning.output .inserted u.returning ++ u.filter.spaced ++ Returning.trailing u.returning

/-! ## The text of the assignments -/

/-- A plain column takes one parameter. -/
theorem Assignment.render_plain (column : Name) (d : Dialect) (start : Nat) :
    (Assignment.plain column).template.render d start =
      column.text ++ "=" ++ d.placeholder (start + 1) := by
  simp [template, Template.render]

/-- A calculated column has its value, in which the markers are parameters. -/
theorem Assignment.render_calculated (column : Name) (value : String) (d : Dialect) (start : Nat) :
    (Assignment.calculated column value).template.render d start =
      column.text ++ "=" ++ RawText.numbered d start value := by
  rw [← Printer.textFrom_raw column, (Printer.raw_writes column value ⟨d, false⟩).textFrom]
  simp [template, Template.render]

theorem Assignment.slots_calculated (column : Name) (value : String) :
    (Assignment.calculated column value).template.slots = RawText.markers value := by
  rw [Template.slots, credits_template, List.length_replicate]

/-- The plain columns take a parameter each, from the first ordinal on. -/
theorem renderEach_plain (columns : List Name) (d : Dialect) :
    Template.renderEach d 0 (columns.map fun c ↦ (Assignment.plain c).template) =
      columns.mapIdx fun i c ↦ c.text ++ "=" ++ d.placeholder (i + 1) := by
  have hslots : ∀ c : Name, (Assignment.plain c).template.slots = 1 := fun _ ↦ rfl
  rw [Template.renderEach_map hslots]
  simp only [Assignment.render_plain, Nat.mul_one, Nat.zero_add]

/-- The calculated columns go on behind the parameters before them. -/
theorem renderEach_calculated (entries : List (Name × String)) (d : Dialect) (start : Nat) :
    Template.renderEach d start (entries.map fun e ↦ (Assignment.calculated e.1 e.2).template) =
      calculatedTexts d start entries := by
  induction entries generalizing start with
  | nil => rfl
  | cons e r ih =>
    rw [List.map_cons, Template.renderEach, ih, calculatedTexts, Assignment.render_calculated,
      Assignment.slots_calculated]

/-- The assignments are separated by commas, whether or not there are columns of both sorts. -/
theorem render_assignments (u : Update) (d : Dialect) :
    Template.render d 0 (Template.joined ", " (u.assignments.map Assignment.template)) =
      Layout.commas ((u.columns.mapIdx fun i c ↦ c.text ++ "=" ++ d.placeholder (i + 1)) ++
        calculatedTexts d u.columns.length u.calculated.entries) := by
  -- so many ordinals are taken when the calculated columns begin
  have hslots : Template.slots (u.columns.map fun c ↦ (Assignment.plain c).template).flatten =
      u.columns.length := by
    simp [Template.slots, List.flatMap_map, Assignment.credits_template]
  have htemplates : u.assignments.map Assignment.template =
      (u.columns.map fun c ↦ (Assignment.plain c).template) ++
        u.calculated.entries.map fun e ↦ (Assignment.calculated e.1 e.2).template := by
    simp [assignments, Function.comp_def]
  rw [Template.render_joined_eq_intercalate, htemplates, Template.renderEach_append, hslots,
    Nat.zero_add, renderEach_plain, renderEach_calculated]
  rfl

/-- The text of an update that is built. -/
theorem sql_build {u : Update} {terminate : Bool}
    (h : (u.build terminate).value.diagnostic = false) :
    (u.build terminate).value.sql =
      "update " ++ u.table.text ++ " set " ++
        Layout.commas
          ((u.columns.mapIdx fun i c ↦ c.text ++ "=" ++ u.dialect.placeholder (i + 1)) ++
            calculatedTexts u.dialect u.columns.length u.calculated.entries) ++
        u.afterAssignments.textFrom u.dialect u.assignedParams ++
        if terminate then ";" else "" := by
  have hbehind : u.afterAssignments.Writes ⟨u.dialect, false⟩
      (Template.output u.dialect.engine .inserted u.returning ++ u.filter.spacedTemplate ++
        Template.trailing u.dialect.engine u.returning) :=
    ((Returning.output_writes _ _).append (u.filter.spaced_writes_template _)).append
      (Returning.trailing_writes _)
  have htemplate : u.template u.dialect.engine =
      [Piece.text ("update " ++ u.table.text ++ " set ")] ++
        Template.joined ", " (u.assignments.map Assignment.template) ++
        (Template.output u.dialect.engine .inserted u.returning ++ u.filter.spacedTemplate ++
          Template.trailing u.dialect.engine u.returning) := by
    simp [template]
  have hsql : (u.build terminate).value.sql =
      (u.template u.dialect.engine).render u.dialect 0 ++ if terminate then ";" else "" :=
    congrArg Info.sql (Kind.build_value_of_not_diagnostic (k := .update) h)
  have hfront : Template.render u.dialect 0 [.text ("update " ++ u.table.text ++ " set ")] =
      "update " ++ u.table.text ++ " set " := by simp [Template.render]
  have hslots : Template.slots [.text ("update " ++ u.table.text ++ " set ")] = 0 := rfl
  rw [hsql, htemplate, hbehind.textFrom, Template.render_append, Template.render_append,
    Template.slots_append, hfront, hslots, u.slots_assignments, Nat.zero_add, Nat.zero_add,
    Nat.zero_add, render_assignments]

/-- An update lacks something exactly if it has columns of neither sort. -/
theorem diagnostic_build (u : Update) (terminate : Bool) :
    (u.build terminate).value.diagnostic = true ↔ u.columns = [] ∧ u.calculated.entries = [] := by
  have hlack : (u.build terminate).value.diagnostic = u.lack.isSome :=
    Kind.diagnostic_build .update u terminate
  rw [hlack, lack]
  simp

/-! ## Calls -/

theorem dialect_after (d : Dialect) (calls : List Call) : ((new d).after calls).dialect = d :=
  Kind.dialect_run .update d calls

theorem columns_after (d : Dialect) (calls : List Call) :
    ((new d).after calls).columns = Kind.update.namedColumns calls :=
  Kind.columns_run (k := .update) d calls

/-- Calls that agree in the plain columns, in the last value of each calculated column and in the
calls of all other families lead to the same update. -/
theorem after_eq_of_lastValue (d : Dialect) {calls calls' : List Call}
    (hother : ∀ f, f ≠ .columns → f ≠ .calculated →
      Kind.update.ofFamily f calls = Kind.update.ofFamily f calls')
    (hcolumns : Kind.update.namedColumns calls = Kind.update.namedColumns calls')
    (hlast : ∀ column, lastValue calls column = lastValue calls' column) :
    (new d).after calls = (new d).after calls' := by
  refine Kind.eq_of_cut (k := .update) fun f ↦ ?_
  by_cases hf : f = .columns
  · have hcut : ∀ u : Update, Kind.update.cut .columns u =
        { new u.dialect with columns := u.columns } := fun _ ↦ rfl
    rw [hf, hcut, hcut, dialect_after, dialect_after, columns_after, columns_after, hcolumns]
  · by_cases hf' : f = .calculated
    · have hcut : ∀ u : Update, Kind.update.cut .calculated u =
          { new u.dialect with calculated := u.calculated } := fun _ ↦ rfl
      have hcalculated : ((new d).after calls).calculated = ((new d).after calls').calculated := by
        refine NameMap.ext_lookup fun column ↦ ?_
        rw [lookup_calculated_after, lookup_calculated_after, hlast]
      rw [hf', hcut, hcut, dialect_after, dialect_after, hcalculated]
    · have hcut : ∀ calls : List Call, Kind.update.cut f ((new d).after calls) =
          (Kind.update.cut f (new d)).after (Kind.update.ofFamily f calls) :=
        fun calls ↦ Kind.cut_run (k := .update) (new d) calls
      rw [hcut, hcut, hother f hf hf']

/-- The assignments of an update are told by the calls. First there is one for each plain column
that calls name, in the order of the calls, with the placeholders of the ordinals from 1 on; then
there is one for each calculated column, in the order of their names, with its last value, in which
the markers have the ordinals behind them. Commas stand between them and nowhere else. What is
behind the assignments goes on with the ordinals. Calls that agree in the plain columns, in the last
value of each calculated column and in the calls of all other families build the same statement. -/
theorem assignments_after (d : Dialect) (calls : List Call) :
    let u := (new d).after calls
    let plain := Kind.update.namedColumns calls
    let entries := u.calculated.entries
    (∀ column ∈ plain, column.isEmpty = false) ∧
    entries.Pairwise (fun a b ↦ a.1 < b.1) ∧
    (∀ column value, (column, value) ∈ entries ↔ lastValue calls column = some value) ∧
    (∀ terminate,
      let info := (u.build terminate).value
      (info.diagnostic = true ↔ plain = [] ∧ entries = []) ∧
      (info.diagnostic = false →
        info.sql = "update " ++ u.table.text ++ " set " ++
          Layout.commas ((plain.mapIdx fun i c ↦ c.text ++ "=" ++ d.placeholder (i + 1)) ++
            calculatedTexts d plain.length entries) ++
          u.afterAssignments.textFrom d
            (plain.length + (entries.map fun e ↦ RawText.markers e.2).sum) ++
          if terminate then ";" else "")) ∧
    ∀ calls', (∀ f, f ≠ .columns → f ≠ .calculated →
        Kind.update.ofFamily f calls' = Kind.update.ofFamily f calls) →
      Kind.update.namedColumns calls' = plain →
      (∀ column, lastValue calls' column = lastValue calls column) →
      let u' := (new d).after calls'
      u' = u ∧ ∀ terminate, u'.build terminate = u.build terminate := by
  intro u plain entries
  have hdialect : u.dialect = d := dialect_after d calls
  have hplain : u.columns = plain := columns_after d calls
  refine ⟨fun _ ↦ Kind.isEmpty_of_mem_namedColumns (k := .update), u.calculated.ascending,
    fun column value ↦ ?_, fun terminate ↦ ⟨?_, fun h ↦ ?_⟩, fun calls' hother hcolumns hlast ↦ ?_⟩
  · rw [NameMap.mem_entries_iff, lookup_calculated_after]
  · rw [← hplain]
    exact u.diagnostic_build terminate
  · rw [sql_build h, assignedParams, hdialect, hplain]
  · have hu := after_eq_of_lastValue d hother hcolumns hlast
    exact ⟨hu, fun terminate ↦ congrArg (build · terminate) hu⟩

/-- Calls in two orders, with a value of two markers that gives way to one of one marker. -/
theorem assignments_after_overwritten :
    let calls : List Call := [.table "posts", .calculate " hits " "?+?", .columns ["title", " "],
      .calculate "edits" "edits+?", .filter (.require [.compare .eq "id" "?"]),
      .calculate "hits" " hits+? "]
    let calls' : List Call := [.calculate "hits" "hits+?", .calculate "" "?",
      .filter (.require [.compare .eq "id" "?"]), .columns ["title"], .table "posts",
      .calculate "edits" "edits+?"]
    let d := Dialect.ofEngine .postgres
    let u := (new d).after calls
    let u' := (new d).after calls'
    u' = u ∧ (u.build true).value.sql =
      "update posts set title=$1, edits=edits+$2, hits=hits+$3 where (id=$4);" := by
  intro calls calls' d u u'
  obtain ⟨-, -, -, hbuild, hsame⟩ := assignments_after d calls
  have hother : ∀ f, f ≠ .columns → f ≠ .calculated →
      Kind.update.ofFamily f calls' = Kind.update.ofFamily f calls := by
    intro f hf hf'
    cases f with
    | columns => exact absurd rfl hf
    | calculated => exact absurd rfl hf'
    | _ => rfl
  have hlast : ∀ column, lastValue calls' column = lastValue calls column := by
    intro column
    have hcalls : calculations calls = [(.ofString "hits", "?+?"), (.ofString "edits", "edits+?"),
      (.ofString "hits", "hits+?")] := rfl
    have hcalls' : calculations calls' = [(.ofString "hits", "hits+?"),
      (.ofString "edits", "edits+?")] := rfl
    rw [lastValue, lastValue, hcalls, hcalls']
    by_cases hhits : Name.ofString "hits" = column
    · have hedits : Name.ofString "edits" ≠ column := hhits ▸ by decide
      simp [hhits, hedits]
    · simp [hhits]
  refine ⟨(hsame calls' hother rfl hlast).1, ?_⟩
  refine ((hbuild true).2 rfl).trans ?_
  have hu : (new d).after calls = { new d with
      table := .ofString "posts"
      columns := [.ofString "title"]
      calculated := (NameMap.empty.insert (.ofString "hits") "hits+?").insert (.ofString "edits")
        "edits+?"
      filter := ⟨[⟨none, .and, [.compare .eq "id" "?"]⟩], true⟩ } := rfl
  rw [hu]
  cbv

end SqlStatement.Update
