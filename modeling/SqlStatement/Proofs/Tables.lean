import SqlStatement.Proofs.Calls
import SqlStatement.Proofs.Redirected

/-!
# The tables of a query

Calls give tables to aliases.  For every alias the last table counts that is not blank, wherever its
call stands among the others (`Select.lookup_tables_after`).  As the tables are kept in the order of
their aliases, nothing else about the calls can be told from the query, and the clause of the tables
has one item for each alias (`Select.tables_after`).
-/

namespace SqlStatement

/-- If each step that chooses something replaces the choice before it, the last choice is left. -/
theorem foldl_or_eq_getLast? {α β : Type} (f : α → Option β) (chosen : Option β) (xs : List α) :
    xs.foldl (fun chosen x ↦ (f x).or chosen) chosen = (xs.filterMap f).getLast?.or chosen := by
  induction xs generalizing chosen with
  | nil => rfl
  | cons x xs ih =>
    rw [List.foldl_cons, ih]
    cases hx : f x with
    | none => rw [List.filterMap_cons_none hx, Option.none_or]
    | some b =>
      rw [List.filterMap_cons_some hx, List.getLast?_cons]
      cases (xs.filterMap f).getLast? <;> rfl

namespace Select

/-- The table that a call gives to an alias, unless the table is blank. -/
def Call.tableFor? (label : Name) : Call → Option String
  | table t l =>
    if Name.ofString l = label ∧ Text.trim t ≠ "" then some (Text.lowercase (Text.trim t)) else none
  | _ => none

theorem Call.tableFor?_table (label : Name) (t l : String) :
    tableFor? label (table t l) =
      if Name.ofString l = label ∧ Text.trim t ≠ "" then some (Text.lowercase (Text.trim t))
      else none := rfl

/-- The last table that is not blank and that calls give to an alias. -/
def lastTable (calls : List Call) (label : Name) : Option String :=
  (calls.filterMap (Call.tableFor? label)).getLast?

/-- A call gives a table to an alias. -/
def Call.isTable : Call → Bool
  | table .. => true
  | _ => false

/-- The calls that give no table to an alias. -/
def otherCalls (calls : List Call) : List Call := calls.filter (!·.isTable)

/-- The query with other tables. -/
def setTables (ts : NameMap String) (q : Select) : Select := { q with tables := ts }

variable {q : Select} {c : Call}

/-! ## Calls -/

@[simp] theorem tables_setTables (ts : NameMap String) (q : Select) :
    (q.setTables ts).tables = ts := rfl

@[simp] theorem setTables_tables (q : Select) : q.setTables q.tables = q := by
  cases q
  rfl

@[simp] theorem setTables_setTables (ts ts' : NameMap String) (q : Select) :
    (q.setTables ts').setTables ts = q.setTables ts := rfl

/-- A call with a blank table does nothing at all. -/
theorem table_of_blank {t : String} (h : Text.trim t = "") (q : Select) (l : String) :
    q.table t l = .silent q := by
  have hlower : Text.lowercase (Text.trim t) = "" := Text.lowercase_eq_empty_iff.mpr h
  simp only [table, if_pos hlower]

theorem apply_table_of_blank {t : String} (h : Text.trim t = "") (l : String) (q : Select) :
    q.apply (.table t l) = .ok (.silent q) := by
  rw [apply, table_of_blank h]

/-- A call with another table gives it to the alias. -/
theorem value_table {t : String} (h : Text.trim t ≠ "") (q : Select) (l : String) :
    (q.table t l).value =
      q.setTables (q.tables.insert (.ofString l) (Text.lowercase (Text.trim t))) := by
  have hlower : Text.lowercase (Text.trim t) ≠ "" := fun he ↦ h (Text.lowercase_eq_empty_iff.mp he)
  simp only [table, if_neg hlower]
  rfl

/-- A call that is none for a table does the same whatever the tables are. -/
theorem apply_setTables (h : c.isTable = false) (ts : NameMap String) (q : Select) :
    (q.setTables ts).apply c = (q.apply c).map fun l ↦ l.map (setTables ts) := by
  cases c with
  | table t l => cases h
  | filter call =>
    exact (q.filter.map_apply call (fun w ↦ { q with filter := w }) (setTables ts)).symm
  | _ => rfl

/-- The query after a call. A refused call changes nothing. -/
def next (q : Select) (c : Call) : Select := Kind.next (k := .select) q c

theorem next_eq (q : Select) (c : Call) :
    q.next c =
      match q.apply c with
      | .error _ => q
      | .ok l => l.value := by
  have happly : Kind.select.apply q c = q.apply c := rfl
  unfold next Kind.next
  rw [happly]
  cases q.apply c <;> rfl

theorem next_table (q : Select) (t l : String) : q.next (.table t l) = (q.table t l).value := rfl

theorem next_setTables (h : c.isTable = false) (ts : NameMap String) (q : Select) :
    (q.setTables ts).next c = (q.next c).setTables ts := by
  rw [next_eq, apply_setTables h, next_eq]
  cases q.apply c <;> rfl

/-- Without its tables, a query is the same after a call for a table. -/
theorem setTables_next (ts : NameMap String) (q : Select) (c : Call) :
    (q.next c).setTables ts = if !c.isTable then (q.setTables ts).next c else q.setTables ts := by
  cases h : c.isTable with
  | false => exact (next_setTables h ts q).symm
  | true =>
    cases c with
    | table t l =>
      rw [next_table]
      by_cases ht : Text.trim t = ""
      · rw [table_of_blank ht, Logged.value_silent]
        rfl
      · rw [value_table ht, setTables_setTables]
        rfl
    | _ => cases h

/-- The table of an alias after a call is the one that the call gives to it, or the one before. -/
theorem lookup_tables_next (label : Name) (q : Select) (c : Call) :
    (c.tableFor? label).or (q.tables.lookup label) = (q.next c).tables.lookup label := by
  cases h : c.isTable with
  | false =>
    have hnext := next_setTables h q.tables q
    have hnone : c.tableFor? label = none := by
      cases c with
      | table t l => cases h
      | _ => rfl
    rw [setTables_tables] at hnext
    rw [hnext, hnone, Option.none_or, tables_setTables]
  | true =>
    cases c with
    | table t l =>
      rw [next_table]
      by_cases ht : Text.trim t = ""
      · rw [table_of_blank ht, Call.tableFor?_table, if_neg fun h ↦ h.2 ht, Option.none_or,
          Logged.value_silent]
      · rw [value_table ht, tables_setTables, NameMap.lookup_insert]
        by_cases hl : Name.ofString l = label
        · rw [Call.tableFor?_table, if_pos ⟨hl, ht⟩, if_pos hl.symm, Option.some_or]
        · rw [Call.tableFor?_table, if_neg fun h ↦ hl h.1, if_neg (Ne.symm hl), Option.none_or]
    | _ => cases h

/-- The query after calls, with all that they report. -/
def run (q : Select) (calls : List Call) : Logged Select := Kind.select.run q calls

/-- The query after calls. -/
def after (q : Select) (calls : List Call) : Select := (q.run calls).value

/-- For every alias, a query has the last table that is not blank and that calls gave to it. -/
theorem lookup_tables_after (d : Dialect) (calls : List Call) (label : Name) :
    ((new d).after calls).tables.lookup label = lastTable calls label := by
  have hview : ((new d).after calls).tables.lookup label =
      calls.foldl (fun chosen c ↦ (c.tableFor? label).or chosen) ((new d).tables.lookup label) :=
    @Kind.view_run .select _ (fun q : Select ↦ q.tables.lookup label)
      (fun chosen (c : Call) ↦ (c.tableFor? label).or chosen) (lookup_tables_next label) (new d)
      calls
  rw [hview, foldl_or_eq_getLast?]
  exact Option.or_none

/-- Without tables, only the other calls have been made. -/
theorem setTables_after (ts : NameMap String) (q : Select) (calls : List Call) :
    (q.after calls).setTables ts = (q.setTables ts).after (otherCalls calls) :=
  @Kind.run_filter .select (setTables ts) _ (setTables_next ts) q calls

/-- Calls that agree in the table of each alias and in all other calls lead to the same query. -/
theorem after_eq_of_lastTable (d : Dialect) {calls calls' : List Call}
    (hother : otherCalls calls = otherCalls calls')
    (hlast : ∀ label, lastTable calls label = lastTable calls' label) :
    (new d).after calls = (new d).after calls' := by
  have htables : ((new d).after calls).tables = ((new d).after calls').tables := by
    refine NameMap.ext_lookup fun label ↦ ?_
    rw [lookup_tables_after, lookup_tables_after, hlast]
  rw [← setTables_tables ((new d).after calls), setTables_after, hother, ← setTables_after, htables,
    setTables_tables]

/-! ## The clause of the tables -/

/-- Whatever the tables are, their clause stands at one place of the statement, and around it there
is the same text. -/
theorem sql_setTables (q : Select) :
    ∃ before behind : String, ∀ ts terminate,
      let info := ((q.setTables ts).build terminate).value
      info.diagnostic = false →
        info.sql =
          before ++ Layout.tables ts ++ behind ++ if terminate then ";" else "" := by
  let front : Template := [Piece.text "select "] ++
    Template.joined ", " (q.items.map fun i ↦ i.template false) ++ Template.rowCountColumn q.counted
  let ending : Template :=
    q.filter.spacedTemplate ++ [Piece.text (Layout.tail q.groups q.order q.limit)]
  refine ⟨front.render q.dialect 0, ending.render q.dialect front.slots, ?_⟩
  intro ts terminate info hinfo
  have hbuild := Kind.build_value_of_not_diagnostic (k := .select) hinfo
  have hlack : (q.setTables ts).lack = none := Kind.lack_of_not_diagnostic (k := .select) hinfo
  have hitems : ¬ q.items.isEmpty = true :=
    Bool.eq_false_iff.mp (isEmpty_items_of_lack (q := q.setTables ts) hlack)
  have htemplate : (q.setTables ts).template false =
      front ++ [Piece.text (Layout.tables ts)] ++ ending := by
    rw [template_eq, setTables, if_neg hitems]
    simp [Template.query, front, ending]
  have hsql : info.sql = Template.render q.dialect 0 ((q.setTables ts).template false) ++
      if terminate then ";" else "" := congrArg Info.sql hbuild
  rw [hsql, htemplate, Template.render_append, Template.render_append]
  simp [Template.render, Template.slots_append]

/-- The tables of a query are told by the last table for each alias that is not blank. They stand in
the order of their aliases, the table without one in front, in a clause at one place of the
statement. A call with a blank table leaves no trace, and calls that agree in the last table for
each alias lead to the same query, whatever their order is and however many they are. -/
theorem tables_after (d : Dialect) (calls : List Call) :
    let q := (new d).after calls
    let entries := q.tables.entries
    entries.Pairwise (fun a b ↦ a.1 < b.1) ∧
    (∀ label table, (label, table) ∈ entries ↔ lastTable calls label = some table) ∧
    (∀ e ∈ entries, e.1 = .empty → entries.head? = some e) ∧
    Layout.tables q.tables =
      (if entries.isEmpty then ""
      else " from " ++ Layout.commas
        (entries.map fun e ↦ e.2 ++ if e.1.isEmpty then "" else " " ++ e.1.text)) ∧
    (∃ before behind : String, ∀ ts terminate,
      let info := ((q.setTables ts).build terminate).value
      info.diagnostic = false →
        info.sql = before ++ Layout.tables ts ++ behind ++ if terminate then ";" else "") ∧
    q.setTables q.tables = q ∧
    (∀ t l more, Text.trim t = "" →
      (new d).run (calls ++ .table t l :: more) = (new d).run (calls ++ more)) ∧
    ∀ calls', otherCalls calls' = otherCalls calls →
      (∀ label, lastTable calls' label = lastTable calls label) → (new d).after calls' = q := by
  intro q entries
  refine ⟨q.tables.ascending, fun label table ↦ ?_, fun e ↦ NameMap.head?_entries_of_empty, rfl,
    q.sql_setTables, q.setTables_tables, fun t l more ht ↦ ?_, fun calls' ↦ after_eq_of_lastTable d⟩
  · rw [NameMap.mem_entries_iff, lookup_tables_after]
  · exact @Kind.run_skip .select (.table t l) (apply_table_of_blank ht l) (new d) calls more

/-- Calls in another order, with a table that is overwritten and a blank one. -/
theorem tables_after_overwritten :
    let calls : List Call := [.select ["id"], .table "Users" "u", .table "Topics" "",
      .table "Accounts" " u "]
    let calls' : List Call := [.table "Accounts" "u", .table "Topics" " ", .select ["id"]]
    let q := (new default).after (calls ++ [.table " " "u"])
    (new default).after calls' = (new default).after calls ∧ q = (new default).after calls ∧
      ∃ before behind, (q.build true).value.sql =
        before ++ " from topics, accounts u" ++ behind ++ ";" := by
  intro calls calls' q
  obtain ⟨-, -, -, -, -, -, hblank, hsame⟩ := tables_after default calls
  obtain ⟨-, -, -, -, ⟨before, behind, hsql⟩, hq, -⟩ :=
    tables_after default (calls ++ [.table " " "u"])
  refine ⟨hsame calls' rfl fun label ↦ ?_, ?_, before, behind, ?_⟩
  · have hu : Name.ofString " u " = .ofString "u" := rfl
    have he : Name.ofString " " = .ofString "" := rfl
    by_cases hlabel : Name.ofString "u" = label
    · have hother : Name.ofString "" ≠ label := hlabel ▸ by decide
      simp only [lastTable, calls, calls', List.filterMap_cons, Call.tableFor?, hu, he, hlabel,
        hother, true_and, false_and, if_false]
      rfl
    · simp only [lastTable, calls, calls', List.filterMap_cons, Call.tableFor?, hu, he, hlabel,
        false_and, if_false]
  · exact congrArg Logged.value (hblank " " "u" [] rfl)
  · have hclause : Layout.tables q.tables = " from topics, accounts u" := rfl
    have hbuilt := hsql q.tables true rfl
    rw [hq, hclause] at hbuilt
    exact hbuilt

end Select

end SqlStatement
