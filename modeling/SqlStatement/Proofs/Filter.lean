import SqlStatement.Proofs.Clause
import SqlStatement.Proofs.Families

/-!
# The clause of a builder

Four of the five kinds of builders have a clause, which only their calls of the clause change.  So
the clause that calls of all sorts leave behind is the one that their calls of the clause make by
themselves (`Kind.filter_run`).  A statement has one place for it, to which the rest of the
statement is indifferent (`Kind.sql_setFilter`).
-/

namespace SqlStatement

/-- What a call of a query does to the clause. -/
def Select.Call.filter? : Select.Call → Option Where.Call
  | filter call => some call
  | _ => none

/-- What a call of an update does to the clause. -/
def Update.Call.filter? : Update.Call → Option Where.Call
  | filter call => some call
  | _ => none

/-- What a call of a deletion does to the clause. -/
def Delete.Call.filter? : Delete.Call → Option Where.Call
  | filter call => some call
  | _ => none

/-- What a call of a procedure call does to the clause. -/
def Proc.Call.filter? : Proc.Call → Option Where.Call
  | filter c => some c
  | _ => none

namespace Kind

/-- The clause of a builder. An insertion has none. -/
def filter : (k : Kind) → k.Builder → Where
  | select => Select.filter
  | insert => fun _ ↦ .empty
  | update => Update.filter
  | delete => Delete.filter
  | proc => Proc.filter

/-- The builder with another clause. -/
def setFilter : (k : Kind) → Where → k.Builder → k.Builder
  | select => fun w (q : Select) ↦ { q with filter := w }
  | insert => fun _ i ↦ i
  | update => fun w (u : Update) ↦ { u with filter := w }
  | delete => fun w (x : Delete) ↦ { x with filter := w }
  | proc => fun w (p : Proc) ↦ { p with filter := w }

/-- What a call does to the clause, if it is a call of the clause. -/
def filterCall? : (k : Kind) → k.Call → Option Where.Call
  | select => Select.Call.filter?
  | insert => fun _ ↦ none
  | update => Update.Call.filter?
  | delete => Delete.Call.filter?
  | proc => Proc.Call.filter?

/-- The statement of a builder has a place for the clause. -/
def writesFilter : (k : Kind) → k.Builder → Bool
  | select => fun (q : Select) ↦ !q.items.isEmpty
  | insert => fun _ ↦ false
  | update | delete => fun _ ↦ true
  | proc => Proc.isQuery

variable {k : Kind}

/-! ## Calls -/

@[simp] theorem setFilter_filter (b : k.Builder) : k.setFilter (k.filter b) b = b := by
  cases k with
  | select =>
    obtain ⟨⟩ : Select := b
    rfl
  | _ => rfl

theorem filter_setFilter (hk : k ≠ .insert) (w : Where) (b : k.Builder) :
    k.filter (k.setFilter w b) = w := by
  cases k with
  | insert => exact absurd rfl hk
  | _ => rfl

@[simp] theorem filter_new (d : Dialect) : k.filter (k.new d) = .empty := by
  cases k <;> rfl

/-- A call of the clause does to the clause what it says, and nothing else. -/
theorem apply_of_filterCall {c : k.Call} {f : Where.Call} (h : k.filterCall? c = some f)
    (b : k.Builder) :
    k.apply b c = ((k.filter b).apply f).map fun w ↦ .silent (k.setFilter w b) := by
  cases k with
  | insert => cases h
  | select | update | delete | proc =>
    cases c with
    | filter call =>
      obtain rfl : call = f := Option.some.inj h
      rfl
    | _ => cases h

/-- After a call of the clause, the builder has the clause that the call makes. -/
theorem next_of_filterCall {c : k.Call} {f : Where.Call} (h : k.filterCall? c = some f)
    (b : k.Builder) : next b c = k.setFilter ((k.filter b).next f) b := by
  rw [next, apply_of_filterCall h]
  show _ = k.setFilter (Where.next (k.filter b) f) b
  unfold Where.next
  cases (k.filter b).apply f with
  | error e => exact (setFilter_filter b).symm
  | ok w => rfl

/-- A call that is none of the clause belongs to another family. -/
theorem family_of_filterCall {c : k.Call} (h : k.filterCall? c = none) : k.family c ≠ .filter := by
  intro hf
  cases k with
  | insert => cases c <;> cases hf
  | select | update | delete | proc =>
    cases c with
    | filter call => cases h
    | _ => cases hf

/-- The clause after a call can be told from the clause before it. -/
theorem filter_next (b : k.Builder) (c : k.Call) :
    (k.filterCall? c).elim (k.filter b) (k.filter b).next = k.filter (next b c) := by
  cases hc : k.filterCall? c with
  | some f =>
    have hk : k ≠ .insert := by
      rintro rfl
      cases hc
    rw [next_of_filterCall hc, filter_setFilter hk]
    rfl
  | none =>
    have hcut : ∀ b, k.filter (k.cut .filter b) = k.filter b := by
      intro b
      cases k <;> rfl
    exact (view_next_of_family hcut (family_of_filterCall hc) b).symm

/-- The clause that calls leave behind is the one that their calls of the clause make. -/
theorem filter_run (b : k.Builder) (calls : List k.Call) :
    k.filter (k.run b calls).value =
      (calls.filterMap k.filterCall?).foldl Where.next (k.filter b) := by
  have hview : k.filter (k.run b calls).value =
      calls.foldl (fun w c ↦ (k.filterCall? c).elim w (Where.next w)) (k.filter b) :=
    view_run filter_next b calls
  rw [hview, List.foldl_filterMap]
  congr
  funext w c
  cases k.filterCall? c <;> rfl

end Kind

/-! ## The place of the clause -/

/-- A query has its clause behind its tables, if it selects anything. -/
theorem Select.template_setFilter (q : Select) :
    ∃ front ending : Template, ending.slots = 0 ∧ ∀ w,
      Select.template { q with filter := w } false =
        front ++ (if !q.items.isEmpty then w.spacedTemplate else []) ++ ending := by
  by_cases hq : q.items.isEmpty
  · refine ⟨[], [.text Diagnostic.nothingSelected.message], rfl, fun w ↦ ?_⟩
    rw [Select.template_eq, if_pos hq, hq]
    rfl
  · refine ⟨[Piece.text "select "] ++ Template.joined ", " (q.items.map fun i ↦ i.template false) ++
      Template.rowCountColumn q.counted ++ [Piece.text (Layout.tables q.tables)],
      [.text (Layout.tail q.groups q.order q.limit)], rfl, fun w ↦ ?_⟩
    rw [Select.template_eq, if_neg hq, Bool.eq_false_of_not_eq_true hq]
    rfl

/-- An update has its clause behind the assignments and the output list. -/
theorem Update.template_setFilter (u : Update) (e : Engine) :
    ∃ front ending : Template, ending.slots = 0 ∧ ∀ w,
      Update.template { u with filter := w } e = front ++ w.spacedTemplate ++ ending :=
  ⟨[Piece.text ("update " ++ u.table.text ++ " set ")] ++
      Template.joined ", " (u.assignments.map Assignment.template) ++
      Template.output e .inserted u.returning,
    Template.trailing e u.returning, congrArg List.length (Template.credits_trailing e u.returning),
    fun _ ↦ rfl⟩

/-- A deletion has its clause behind the table and the output list. -/
theorem Delete.template_setFilter (x : Delete) (e : Engine) :
    ∃ front ending : Template, ending.slots = 0 ∧ ∀ w,
      Delete.template { x with filter := w } e = front ++ w.spacedTemplate ++ ending :=
  ⟨[Piece.text ("delete from " ++ x.table.text)] ++ Template.output e .deleted x.returning,
    Template.trailing e x.returning, congrArg List.length (Template.credits_trailing e x.returning),
    fun _ ↦ rfl⟩

/-- A procedure call has its clause behind the arguments, if it is written as a query. -/
theorem Proc.template_setFilter (p : Proc) :
    ∃ front ending : Template, ending.slots = 0 ∧ ∀ w,
      Proc.template { p with filter := w } p.dialect.engine =
        front ++ (if p.isQuery then w.spacedTemplate else []) ++ ending := by
  have hrows : ∀ name, ∃ front ending : Template, ending.slots = 0 ∧ ∀ w,
      Proc.rowsTemplate { p with filter := w } name = front ++ w.spacedTemplate ++ ending :=
    fun name ↦ ⟨[Piece.text "select "] ++
        Template.joined ", " (p.columns.map fun c ↦ [.text c.text, .field c]) ++
        Template.rowCountColumn p.counted ++ [Piece.text (" from " ++ name.text)] ++
        p.argumentTemplate.bracketed,
      [.text (Layout.tail [] p.order p.limit)], rfl, fun _ ↦ rfl⟩
  unfold isQuery template
  cases p.dialect.engine with
  | mssql =>
    refine ⟨p.execTemplate (p.target.getD (.empty, .rows)).1, [], rfl, fun w ↦ ?_⟩
    exact ((List.append_nil _).trans (List.append_nil _)).symm
  | postgres | mysql =>
    cases htarget : p.target with
    | none => exact hrows _
    | some target =>
      obtain ⟨name, mode⟩ := target
      cases mode with
      | rows => exact hrows name
      | perform =>
        refine ⟨p.performTemplate name, [], rfl, fun w ↦ ?_⟩
        exact ((List.append_nil _).trans (List.append_nil _)).symm

namespace Kind

variable {k : Kind}

@[simp] theorem dialect_setFilter (w : Where) (b : k.Builder) :
    k.dialect (k.setFilter w b) = k.dialect b := by
  cases k <;> rfl

/-- A statement has at most one place for the clause, and no parameters behind it. -/
theorem template_setFilter (b : k.Builder) :
    ∃ front ending : Template, ending.slots = 0 ∧ ∀ w,
      k.template (k.setFilter w b) (k.dialect b).engine =
        front ++ (if k.writesFilter b then w.spacedTemplate else []) ++ ending := by
  cases k with
  | select => exact Select.template_setFilter b
  | insert =>
    refine ⟨Insert.template b (Insert.dialect b).engine, [], rfl, fun w ↦ ?_⟩
    exact ((List.append_nil _).trans (List.append_nil _)).symm
  | update => exact Update.template_setFilter b _
  | delete => exact Delete.template_setFilter b _
  | proc => exact Proc.template_setFilter b

/-- Whatever the clause is, it stands at one place of the statement, and around it there is the same
text. -/
theorem sql_setFilter (b : k.Builder) :
    ∃ (before behind : String) (start : Nat), ∀ w terminate,
      let info := (k.build (k.setFilter w b) terminate).value
      info.diagnostic = false →
        info.sql =
          before ++
            (if k.writesFilter b then
              (w.spaced ⟨k.dialect b, false⟩ ⟨"", .startingAt start, []⟩).text
            else "") ++
            behind ++ if terminate then ";" else "" := by
  obtain ⟨front, ending, hending, htemplate⟩ := k.template_setFilter b
  refine ⟨front.render (k.dialect b) 0, ending.render (k.dialect b) 0, front.slots, ?_⟩
  intro w terminate info hinfo
  have hfilter : (if k.writesFilter b then
        (w.spaced ⟨k.dialect b, false⟩ ⟨"", .startingAt front.slots, []⟩).text
      else "") =
      Template.render (k.dialect b) front.slots
        (if k.writesFilter b then w.spacedTemplate else []) := by
    split
    · exact w.text_spaced _ _
    · rfl
  have hsql := congrArg Info.sql (Kind.build_value_of_not_diagnostic hinfo)
  rw [hfilter, ← Template.render_of_slots_eq_zero hending (k.dialect b)
    (front.slots + Template.slots (if k.writesFilter b then w.spacedTemplate else []))]
  rw [dialect_setFilter, htemplate, Template.info, Template.render_append,
    Template.render_append] at hsql
  simpa [String.append_assoc] using hsql

/-! ## The clause of configured builders -/

/-- What calls of all sorts make of the clause of a builder. A call of the clause is refused exactly
if no plain list of conditions came before it, and a refused call changes nothing. The clause is
well-formed, it is written from the accepted calls with conditions alone, in their order, and it is
not written if there is none; brackets without text belong to a single condition without text. A
statement that shows the clause has it at one place. Once the clause is open, a call without
conditions changes nothing. -/
theorem clause_run (k : Kind) (d : Dialect) (calls : List k.Call) :
    let b := (k.run (k.new d) calls).value
    let made := calls.filterMap k.filterCall?
    let shown := Where.contributing made
    (∀ c, ∀ f ∈ k.filterCall? c,
      (k.apply b c = .error .missingWhere ↔
        f.opens = false ∧ ∀ m ∈ made, m.opens = false) ∧
      (∀ e, k.apply b c = .error e → e = .missingWhere) ∧
      (f.conditions = [] → (∃ m ∈ made, m.opens = true) →
        (k.run (k.new d) (calls ++ [c])).value = b)) ∧
    (∀ c e, k.apply b c = .error e → (k.run (k.new d) (calls ++ [c])).value = b) ∧
    (k.filter b).WellFormed ∧
    (k.filter b).printer = Where.chainPrinter shown ∧
    (k.filter b).spaced =
      (if shown.isEmpty then .nothing else Printer.text " " ++ Where.chainPrinter shown) ∧
    (∀ m ∈ shown, ∀ s p, (m.brackets s p).text = p.text ++ "()" →
      ∃ x, m.conditions = [x] ∧ (x.printer s p).text = p.text) ∧
    k.setFilter (k.filter b) b = b ∧
    ∃ (before behind : String) (start : Nat), ∀ w terminate,
      let info := (k.build (k.setFilter w b) terminate).value
      info.diagnostic = false →
        info.sql =
          before ++
            (if k.writesFilter b then (w.spaced ⟨d, false⟩ ⟨"", .startingAt start, []⟩).text
            else "") ++
            behind ++ if terminate then ";" else "" := by
  intro b made shown
  have hfilter : k.filter b = made.foldl Where.next .empty := by
    rw [filter_run, filter_new]
  have hopened : (k.filter b).opened = made.any Where.Call.opens := by
    rw [hfilter, Where.opened_foldl]
    rfl
  have hgroups : (k.filter b).groups = Where.chain shown := by
    rw [hfilter, Where.groups_foldl]
  have hprinter := Where.printer_chain hgroups
  refine ⟨fun c f hf ↦ ⟨?_, ?_, ?_⟩, ?_, ?_, hprinter, ?_, ?_, setFilter_filter b, ?_⟩
  · have hnone : made.any Where.Call.opens = false ↔ ∀ m ∈ made, m.opens = false := by simp
    rw [apply_of_filterCall hf, ← hnone, ← hopened, and_comm, ← Where.apply_eq_error_iff]
    cases (k.filter b).apply f <;> simp [Except.map]
  · intro e he
    rw [apply_of_filterCall hf, Where.apply_eq] at he
    split at he
    · cases he
    · exact (Except.error.inj he).symm
  · rintro hconditions ⟨m, hm, hopens⟩
    have hopen : (k.filter b).opened = true := by
      rw [hopened]
      exact List.any_eq_true.mpr ⟨m, hm, hopens⟩
    rw [value_run_concat, next_of_filterCall hf,
      Where.next_of_conditions_eq_nil hopen hconditions, setFilter_filter]
  · intro c e he
    rw [value_run_concat, next, he]
  · rw [hfilter]
    exact Where.wellFormed_empty.foldl made
  · rw [Where.spaced, Layout.spaced, hprinter, hgroups, Where.isEmpty_chain]
  · intro m hm s p h
    have hconditions : m.conditions ≠ [] := by
      have hm := List.of_mem_filter hm
      simpa [Where.Call.hasConditions] using hm
    exact Where.Call.exists_of_text_brackets hconditions h
  · have hsql := sql_setFilter b
    rwa [k.dialect_run d calls] at hsql

/-- A group that comes too early is refused; behind an empty list of conditions it is the first one
to be written. -/
theorem clause_run_group :
    let group : Where.Call := .joinGroup .or .or [.compare .eq "b" "2", .compare .eq "a" "1"]
    let later : Where.Call := .joinGroup .or .and [.compare .lt "c" "3"]
    let unopened : List Select.Call := [.select ["id"]]
    let opened : List Select.Call :=
      unopened ++ [.filter (.require []), .filter group, .filter later]
    let b := (select.run (select.new default) opened).value
    select.apply (select.run (select.new default) unopened).value (Select.Call.filter group) =
        .error .missingWhere ∧
      (select.run (select.new default) (opened ++ [.filter (.require [])])).value = b ∧
      (select.filter b).printer = Where.chainPrinter [group, later] ∧
      ∃ before behind, (select.build b true).value.sql =
        before ++ " where (a=1 or b=2) OR (c<3)" ++ behind ++ ";" := by
  intro group later unopened opened b
  obtain ⟨hunopened, -⟩ := clause_run select default unopened
  obtain ⟨hopened, -, -, hprinter, -, -, hfilter, before, behind, start, hsql⟩ :=
    clause_run select default opened
  refine ⟨?_, ?_, hprinter, before, behind, ?_⟩
  · exact (hunopened (Select.Call.filter group) group rfl).1.mpr
      ⟨rfl, fun m hm ↦ absurd hm List.not_mem_nil⟩
  · exact (hopened (Select.Call.filter (.require [])) (.require []) rfl).2.2 rfl
      ⟨.require [], List.mem_cons_self, rfl⟩
  · have hb := hsql (select.filter b) true
    have htext : ((select.filter b).spaced ⟨default, false⟩ ⟨"", .startingAt start, []⟩).text =
        " where (a=1 or b=2) OR (c<3)" := by cbv
    rw [hfilter] at hb
    rw [← htext]
    exact hb rfl

/-- The predicate of a raw condition may be without text, and then so are the brackets around it. -/
theorem clause_empty_brackets :
    let b : Select := { Select.new (.ofEngine .postgres) with
      items := [.column (.ofString "id")]
      filter := ⟨[⟨none, .and, [.raw "a" ""]⟩], true⟩ }
    let info := (select.build b false).value
    (select.run (select.new (.ofEngine .postgres))
      [.select ["id"], .filter (.require [.raw "a" ""])]).value = b ∧
      info.sql = "select id where ()" ∧ info.diagnostic = false := by
  intro b info
  exact ⟨rfl, by cbv, rfl⟩

end Kind

end SqlStatement
