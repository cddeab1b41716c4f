import SqlStatement.Proofs.Procedure

/-!
# Builds that find nothing to render

Whether a build has a statement is told by the calls (`Kind.lack_run`): there have to be columns
where a statement needs some, and a procedure to be called.  If something is missing, the answer
tells what it is and nothing else about the builder; if nothing is, the answer is a statement, which
is never taken for the wording of a diagnostic, and it is terminated by a semicolon at its end or
not (`Kind.build_missing`).
-/

namespace SqlStatement

/-- What is missing after calls to have a procedure call: a procedure, or, where one is called for
its rows, their columns. -/
def Proc.missing (d : Dialect) (calls : List Call) : Option Diagnostic :=
  match lastChoice calls with
  | none => some .noProcedure
  | some (_, mode) =>
    if d.engine ≠ .mssql ∧ mode = .rows ∧ Kind.proc.givenByAll .columns calls = [] then
      some .nothingSelected
    else none

/-- The answer with its statement terminated. The wording of a diagnostic is left as it is. -/
def Info.terminated (info : Info) : Info :=
  if info.diagnostic then info else { info with sql := info.sql ++ ";" }

/-- The statement on a page is terminated by a semicolon behind everything else. -/
theorem Page.info_terminated (p : Page) (readOnly : Bool) :
    p.info true readOnly = (p.info false readOnly).terminated := by
  simp [info, Info.terminated]

/-- There is nothing in a part of a builder if there is nothing in the list that is seen of it. -/
theorem isEmpty_iff_of_map {α β : Type} {f : α → β} {xs : List α} {ys : List β}
    (h : xs.map f = ys) : xs.isEmpty = true ↔ ys = [] := by
  rw [← h, List.map_eq_nil_iff, List.isEmpty_iff]

/-- A procedure call lacks what the calls have not given. -/
theorem Proc.lack_after (d : Dialect) (calls : List Proc.Call) :
    ((Proc.new d).after calls).lack = Proc.missing d calls := by
  have htarget := Proc.target_after d calls
  have hengine : ((Proc.new d).after calls).dialect.engine = d.engine :=
    congrArg Dialect.engine (Kind.dialect_run .proc d calls)
  have hcolumns : ((Proc.new d).after calls).columns.isEmpty = true ↔ _ :=
    isEmpty_iff_of_map (Kind.entries_run (k := .proc) .columns d calls)
  rw [Proc.missing]
  cases h : Proc.lastChoice calls with
  | none => exact Proc.lack_of_target (htarget.trans h)
  | some choice =>
    obtain ⟨name, mode⟩ := choice
    by_cases he : d.engine = .mssql
    · rw [(Proc.exec_form (htarget.trans h) (hengine.trans he)).1]
      exact (if_neg fun hmissing ↦ hmissing.1 he).symm
    · cases mode with
      | perform =>
        rw [(Proc.perform_form (htarget.trans h) (hengine.trans_ne he)).1]
        exact (if_neg nofun).symm
      | rows =>
        rw [(Proc.rows_form (htarget.trans h) (hengine.trans_ne he)).1]
        refine if_congr (hcolumns.trans ?_) rfl rfl
        simp [he]

namespace Kind

/-- What is missing after calls to have a statement. -/
def missing : (k : Kind) → Dialect → List k.Call → Option Diagnostic
  | select => fun _ calls ↦
    if select.givenByAll .columns calls = [] then some .nothingSelected else none
  | insert => fun _ calls ↦
    if insert.givenByAll .columns calls = [] then some .nothingInserted else none
  | update => fun _ calls ↦
    if update.givenByAll .columns calls = [] ∧ update.givenByAll .calculated calls = [] then
      some .nothingUpdated
    else none
  | delete => fun _ _ ↦ none
  | proc => Proc.missing

variable {k : Kind}

/-! ## What builders lack -/

/-- A builder lacks what the calls have not given. -/
theorem lack_run (d : Dialect) (calls : List k.Call) :
    k.lack (k.run (k.new d) calls).value = k.missing d calls := by
  cases k with
  | select => exact if_congr (isEmpty_iff_of_map (entries_run .columns d calls)) rfl rfl
  | insert => exact if_congr (isEmpty_iff_of_map (entries_run .columns d calls)) rfl rfl
  | update =>
    have hcalculated : ((update.run (update.new d) calls).value.calculated.entries.map (·.1)).map
        some = update.givenByAll .calculated calls := entries_run .calculated d calls
    rw [List.map_map] at hcalculated
    exact if_congr (and_congr (isEmpty_iff_of_map (entries_run .columns d calls))
      (isEmpty_iff_of_map hcalculated)) rfl rfl
  | delete => rfl
  | proc => exact Proc.lack_after d calls

/-! ## Answers -/

/-- Whether a statement is terminated is not seen in the event that it is built. -/
theorem reportBuilt_terminated (b : k.Builder) (info : Info) :
    k.reportBuilt b info.terminated = k.reportBuilt b info := by
  have hcounts : info.terminated.fieldsCount = info.fieldsCount ∧
      info.terminated.paramCount = info.paramCount := by
    rw [Info.terminated]
    split <;> exact ⟨rfl, rfl⟩
  cases k <;>
    simp only [reportBuilt, builtEvent, Delete.builtEvent, Proc.builtEvent, hcounts]

/-- A terminated build is the other one with its statement terminated. -/
theorem build_terminated (b : k.Builder) :
    k.build b true = (k.build b false).map Info.terminated := by
  rw [build_eq, build_eq]
  unfold Printer.build
  cases k.lack b with
  | some reason => rfl
  | none => simp only [Page.info_terminated, reportBuilt_terminated, Logged.map]

/-- A build with and without a semicolon at the end answers and reports the same but for this
semicolon, which only a statement has. It answers a diagnostic exactly if the calls have not given
what a statement needs: something to select, columns to insert, columns to update of either sort, or
a procedure, with columns where it is called for its rows. The diagnostic tells what is missing and
nothing of what is there, whether terminated or not. Whatever the texts are that the calls give, an
answer that reads as the wording of a diagnostic is one. -/
theorem build_missing (k : Kind) (d : Dialect) (calls : List k.Call) :
    let b := (k.run (k.new d) calls).value
    let bare := k.build b false
    k.build b true =
      (if bare.value.diagnostic then bare
      else ⟨{ bare.value with sql := bare.value.sql ++ ";" }, bare.events⟩) ∧
    ∀ terminate,
      let info := (k.build b terminate).value
      (info.diagnostic = true ↔ (k.missing d calls).isSome = true) ∧
      (∀ reason, k.missing d calls = some reason → info =
        { sql := reason.message
          fields := ""
          fieldsCount := 0
          paramFields := ""
          paramCount := 0
          returningFields := ""
          readOnly := false
          diagnostic := true }) ∧
      (info.diagnostic = true ↔ ∃ reason : Diagnostic, info.sql = reason.message) := by
  intro b bare
  have hlack : k.lack b = k.missing d calls := lack_run d calls
  refine ⟨?_, fun terminate ↦ ⟨?_, fun reason hreason ↦ ?_, ?_⟩⟩
  · rw [build_terminated, Logged.map, Info.terminated]
    split <;> rfl
  · rw [diagnostic_build, hlack]
  · rw [build_value, hlack, hreason]
    rfl
  · rw [diagnostic_build, Option.isSome_iff_exists]
    exact exists_congr fun reason ↦ sql_eq_message_iff.symm

/-- An update with conditions and returning columns, but without columns that it sets, and the same
update with a table and a column whose names read as the wording of a diagnostic. -/
theorem build_missing_update :
    let idle : List Update.Call := [.table "no fields to update", .columns [" "],
      .filter (.require [.compare .eq "id" "?"]), .returning ["id"]]
    let calls := idle ++ [.columns ["no fields to update"]]
    let d := Dialect.ofEngine .postgres
    let start := update.new d
    let info := (update.build (update.run start idle).value true).value
    let info' := (update.build (update.run start calls).value true).value
    info.sql = "no fields to update" ∧ info.paramCount = 0 ∧ info.returningFields = "" ∧
      info'.diagnostic = false ∧ ¬ ∃ reason : Diagnostic, info'.sql = reason.message := by
  intro idle calls d start info info'
  obtain ⟨-, hidle⟩ := build_missing update d idle
  obtain ⟨-, hcalls⟩ := build_missing update d calls
  have hmissing : update.missing d idle = some .nothingUpdated :=
    if_pos ⟨rfl, (entries_run (k := .update) .calculated d idle).symm.trans rfl⟩
  have hinfo := (hidle true).2.1 _ hmissing
  have hdiagnostic : info'.diagnostic = false := rfl
  refine ⟨congrArg Info.sql hinfo, congrArg Info.paramCount hinfo,
    congrArg Info.returningFields hinfo, hdiagnostic, fun h ↦ ?_⟩
  exact Bool.false_ne_true (hdiagnostic.symm.trans ((hcalls true).2.2.mpr h))

end Kind

end SqlStatement
