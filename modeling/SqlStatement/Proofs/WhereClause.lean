import Mathlib
import SqlStatement.Proofs.Rearranged
import SqlStatement.Proofs.SubQuery
import SqlStatement.Proofs.Tables
import SqlStatement.Proofs.Wording

/-!
# The clause of a query by itself

A query answers its clause by itself as it has it in its statement, but for the ordinals of the
parameters: in the statement, those of the selected sub-queries come before them
(`Select.whereClause_in_statement`).  What is around the clause is what the query without it
consists of, which is the query that the calls make without those of the clause
(`Kind.run_clauselessCalls`).
-/

namespace SqlStatement

/-! ## Calls without those of the clause -/

namespace Kind

/-- The calls that are none of the clause. -/
def clauselessCalls (k : Kind) (calls : List k.Call) : List k.Call :=
  calls.filter fun c ↦ (k.filterCall? c).isNone

variable {k : Kind}

/-- Calls of other families are all among those that are none of the clause. -/
theorem ofFamily_clauselessCalls {f : Family} (hf : f ≠ .filter) (calls : List k.Call) :
    k.ofFamily f (k.clauselessCalls calls) = k.ofFamily f calls := by
  rw [ofFamily, clauselessCalls, List.filter_filter]
  refine List.filter_congr fun c _ ↦ ?_
  cases hc : k.filterCall? c with
  | none => simp
  | some call => simp [family_of_filterCall_some hc, hf.symm]

/-- Without the calls of the clause, calls make the same builder without a clause. -/
theorem run_clauselessCalls (d : Dialect) (calls : List k.Call) :
    (k.run (k.new d) (k.clauselessCalls calls)).value =
      k.setFilter .empty (k.run (k.new d) calls).value := by
  refine eq_of_cut fun f ↦ ?_
  by_cases hf : f = .filter
  · have hnone : (k.clauselessCalls calls).filterMap k.filterCall? = [] := by
      refine List.filterMap_eq_nil_iff.mpr fun c hc ↦ ?_
      exact Option.isNone_iff_eq_none.mp (List.mem_filter.mp hc).2
    have hempty : ∀ b : k.Builder, k.filter (k.setFilter .empty b) = .empty := by
      intro b
      cases k <;> rfl
    rw [hf, cut_filter_eq, cut_filter_eq, hempty, filter_run, hnone, filter_new, dialect_setFilter,
      dialect_run, dialect_run]
    rfl
  · rw [cut_setFilter hf, cut_run, cut_run, ofFamily_clauselessCalls hf]

end Kind

/-! ## The text of a clause -/

/-- A text behind a space, unless it is empty. -/
def Layout.behindSpace (text : String) : String := if text = "" then "" else " " ++ text

/-- The text of a clause is empty exactly if the clause has no groups. -/
theorem Where.render_template_eq_empty_iff (w : Where) (d : Dialect) (start : Nat) :
    w.template.render d start = "" ↔ w.groups = [] := by
  obtain ⟨groups, opened⟩ := w
  rw [Where.template, Template.clause, groupTemplates_eq_map]
  cases groups with
  | nil => exact iff_of_true rfl rfl
  | cons g gs =>
    refine iff_of_false (fun h ↦ ?_) (List.cons_ne_nil g gs)
    have hword : "where " = "" := (String.append_eq_empty_iff.mp h).1
    exact absurd hword (by decide)

/-- A clause with its space is the text of the clause with a space. -/
theorem Where.textFrom_spaced (w : Where) (d : Dialect) (start : Nat) :
    w.spaced.textFrom d start = Layout.behindSpace (w.template.render d start) := by
  have hempty := w.render_template_eq_empty_iff d start
  rw [← Template.render_spacedTemplate, Where.spacedTemplate, Template.spaced, Layout.behindSpace]
  by_cases h : w.groups = []
  · rw [if_pos (hempty.mpr h), h]
    rfl
  · rw [if_neg fun he ↦ h (hempty.mp he), if_neg fun he ↦ h (List.isEmpty_iff.mp he)]
    rfl

namespace Select

/-! ## The text around the clause -/

/-- The text in front of the clause. -/
def frontText (q : Select) : String :=
  "select " ++ Layout.commas (itemTexts q.dialect 0 q.items) ++ Layout.rowCountText q.counted ++
    Layout.tables q.tables

/-- The number of parameters in front of the clause. -/
def frontParams (q : Select) : Nat := (q.items.flatMap SelectItem.credits).length

/-- The parameters in front of the clause are those that the selected sub-queries have by
themselves. -/
theorem frontParams_eq_sum (d : Dialect) (q : Select) :
    q.frontParams =
      ((q.items.filterMap SelectItem.query?).map fun s ↦
        ((s.standalone d).build false).value.paramCount).sum := by
  have hsub : ∀ s : Select, ((s.standalone d).build false).value.paramCount = s.credits.length := by
    intro s
    rw [(s.build_standalone d).2.1, Template.slots, s.credits_template true]
  rw [frontParams]
  induction q.items with
  | nil => rfl
  | cons i r ih =>
    rw [List.flatMap_cons, List.length_append, ih]
    cases i with
    | column n =>
      rw [SelectItem.credits]
      exact Nat.zero_add _
    | sub s label =>
      rw [SelectItem.credits, ← hsub s]
      rfl

variable {q : Select}

/-- A query that selects something has a statement. -/
theorem diagnostic_build_of_items (h : q.items ≠ []) (terminate : Bool) :
    (q.build terminate).value.diagnostic = false := by
  have hlack : q.lack = none := if_neg fun he ↦ h (List.isEmpty_iff.mp he)
  exact Kind.diagnostic_build_of_lack (k := .select) hlack terminate

/-- The text of a statement around its clause. -/
theorem sql_build_eq (h : q.items ≠ []) :
    (q.build false).value.sql =
      q.frontText ++ Layout.behindSpace (q.filter.template.render q.dialect q.frontParams) ++
        Layout.tail q.groups q.order q.limit := by
  have hsql : (q.build false).value.sql = Passage.textOf q.passages ++ "" :=
    Kind.sql_build (k := .select) (diagnostic_build_of_items h false)
  rw [hsql]
  simp [passages, Where.textFrom_spaced, Passage.ordering, frontText, frontParams, Layout.tail,
    Layout.groupBy_eq_listed, Layout.orderBy_eq_listed, String.append_assoc]

/-- Without groups in its clause, a statement has nothing between what is around the clause. -/
theorem sql_build_of_groups_nil (h : q.items ≠ []) (hgroups : q.filter.groups = []) :
    (q.build false).value.sql = q.frontText ++ Layout.tail q.groups q.order q.limit := by
  rw [sql_build_eq h, (q.filter.render_template_eq_empty_iff _ _).mpr hgroups, Layout.behindSpace,
    if_pos rfl, String.append_empty]

/-- The parameters of a statement are those in front of its clause and those of the clause. -/
theorem paramCount_build_eq (h : q.items ≠ []) :
    (q.build false).value.paramCount = q.frontParams + q.filter.template.slots := by
  have hcount : (q.build false).value.paramCount = q.credits.length :=
    Kind.paramCount_build (k := .select) (diagnostic_build_of_items h false)
  have hfilter : q.filter.template.credits = q.filter.credits :=
    Where.credits_template fun s _ ↦ s.credits_template
  rw [hcount, credits_eq, if_neg fun he ↦ h (List.isEmpty_iff.mp he), List.length_append,
    Template.slots, hfilter]
  rfl

/-! ## The clause by itself and in the statement -/

/-- The clause that a query answers by itself is the one in its statement, but for the ordinals of
the parameters. There is one text with gaps which the clause by itself, in any dialect, fills with
the placeholders of the ordinals from 1 on, and in the statement with those behind the parameters of
the selected sub-queries, which are all parameters of the query without its clause. The statement is
that of the query without its clause, with this text behind a space in front of the grouping, the
order and the limit; there is no space if the clause has no groups. If no parameters come before
it, the clause stands in the statement as it is by itself. -/
theorem whereClause_in_statement (calls : List Call) :
    ∃ clause : Gapped, ∀ d : Dialect,
      let q := (new d).after calls
      let bare := (new d).after (Kind.select.clauselessCalls calls)
      let before := (bare.build false).value.paramCount
      let ending := Layout.tail q.groups q.order q.limit
      q.whereClause = clause.fill d.placeholder ∧ (q.whereClause = "" ↔ q.filter.groups = []) ∧
      (q.items ≠ [] →
        before = ((q.items.filterMap SelectItem.query?).map fun s ↦
          ((s.standalone d).build false).value.paramCount).sum ∧
        (q.build false).value.paramCount = before + clause.gaps ∧
        ∃ front,
          (bare.build false).value.sql = front ++ ending ∧
          (q.build false).value.sql =
            front ++ Layout.behindSpace (clause.fill fun k ↦ d.placeholder (before + k)) ++
              ending ∧
          (before = 0 →
            (q.build false).value.sql = front ++ Layout.behindSpace q.whereClause ++ ending)) := by
  let made := calls.filterMap Kind.select.filterCall?
  let w := made.foldl Where.next .empty
  refine ⟨w.template.gapped, fun d ↦ ?_⟩
  intro q bare before ending
  have hfilter : q.filter = w := Kind.filter_run (k := .select) (new d) calls
  have hdialect : q.dialect = d := Kind.dialect_run .select d calls
  have hbare : bare = { q with filter := .empty } := Kind.run_clauselessCalls (k := .select) d calls
  have hclause : q.whereClause = w.template.render d 0 := by
    rw [whereClause, hfilter, hdialect, Where.text_alone]
  have hempty : q.whereClause = "" ↔ q.filter.groups = [] := by
    rw [hclause, Where.render_template_eq_empty_iff, hfilter]
  refine ⟨hclause.trans (w.template.render_zero d), hempty, fun hitems ↦ ?_⟩
  have hitems' : bare.items ≠ [] := by rwa [hbare]
  have hnone : bare.filter.groups = [] := congrArg (fun q : Select ↦ q.filter.groups) hbare
  have hbefore : before = q.frontParams := by
    have hcount : before = bare.frontParams + bare.filter.template.slots :=
      paramCount_build_eq hitems'
    rw [hcount, hbare]
    rfl
  have hsql : (q.build false).value.sql =
      q.frontText ++ Layout.behindSpace (w.template.render d before) ++ ending := by
    rw [sql_build_eq hitems, hfilter, hdialect, hbefore]
  refine ⟨hbefore.trans (q.frontParams_eq_sum d), ?_, q.frontText, ?_, ?_, fun hzero ↦ ?_⟩
  · rw [paramCount_build_eq hitems, ← hbefore, hfilter, Template.gaps_gapped]
  · rw [sql_build_of_groups_nil hitems' hnone, hbare]
    rfl
  · rw [hsql, Template.render_eq_fill]
  · rw [hsql, hzero, hclause]

/-- A query with a parameter in a selected sub-query and three in its clause, of which the first
call has no conditions, and a query with no parameters in front of its clause. -/
theorem whereClause_in_statement_behind :
    let inner : Select := { Select.new default with
      items := [.column (.ofString "n")]
      filter := ⟨[⟨none, .and, [.compare .eq "owner" "?"]⟩], true⟩ }
    let d := Dialect.ofEngine .postgres
    let clauseCalls : List Call := [.filter (.joinGroup .or .and [.compare .eq "a" "?"]),
      .orderBy "id" .ascending, .filter (.joinGroup .or .and [.between "b" "?" "?"])]
    let front : List Call := [.filter (.require []), .select ["id"]]
    let q := (new d).after (front ++ .selectSub inner "n" :: clauseCalls)
    let q' := (new d).after (front ++ clauseCalls)
    q.whereClause = "where (a=$1) OR (b between $2 and $3)" ∧
      (∃ (clause : Gapped) (front : String), q.whereClause = clause.fill d.placeholder ∧
        (q.build false).value.paramCount = 1 + clause.gaps ∧
        "select id, (select n where (owner=$1)) n order by id asc" =
          front ++ " order by id asc" ∧
        (q.build false).value.sql =
          front ++ Layout.behindSpace (clause.fill fun k ↦ d.placeholder (1 + k)) ++
            " order by id asc") ∧
      ∃ front, "select id order by id asc" = front ++ " order by id asc" ∧
        (q'.build false).value.sql =
          front ++ Layout.behindSpace q'.whereClause ++ " order by id asc" := by
  intro inner d clauseCalls front q q'
  let bare : Select := { Select.new d with
    items := [.column (.ofString "id"), .sub inner (.ofString "n")]
    order := [(.ofString "id", .ascending)] }
  let bare' : Select := { bare with items := [.column (.ofString "id")] }
  have hq : q = { bare with filter := ⟨[⟨none, .and, [.compare .eq "a" "?"]⟩,
    ⟨some .or, .and, [.between "b" "?" "?"]⟩], true⟩ } := rfl
  have hclause : q.whereClause = "where (a=$1) OR (b between $2 and $3)" := by
    rw [hq]
    cbv
  refine ⟨hclause, ?_, ?_⟩
  · obtain ⟨clause, h⟩ := whereClause_in_statement (front ++ .selectSub inner "n" :: clauseCalls)
    obtain ⟨hfill, -, h⟩ := h d
    obtain ⟨hbefore, hcount, text, htext, hsql, -⟩ := h (List.cons_ne_nil _ _)
    have hone : (((new d).after (Kind.select.clauselessCalls
        (front ++ .selectSub inner "n" :: clauseCalls))).build false).value.paramCount = 1 :=
      hbefore.trans (by cbv)
    have hbare : (bare.build false).value.sql =
        "select id, (select n where (owner=$1)) n order by id asc" := by cbv
    rw [hone] at hcount hsql
    exact ⟨clause, text, hfill, hcount, hbare.symm.trans htext, hsql⟩
  · obtain ⟨clause, h⟩ := whereClause_in_statement (front ++ clauseCalls)
    obtain ⟨-, -, h⟩ := h d
    obtain ⟨hbefore, -, text, htext, -, hsame⟩ := h (List.cons_ne_nil _ _)
    have hbare : (bare'.build false).value.sql = "select id order by id asc" := by cbv
    exact ⟨text, hbare.symm.trans htext, hsame (hbefore.trans rfl)⟩

end Select

end SqlStatement
