import SqlStatement.Proofs.Wording

/-!
# The procedure of a call

A text names a procedure if it has characters and none of them breaks a name.  A call with another
text is refused and changes nothing, so the procedure and what it is called for are those of the
last call that was accepted (`Proc.target_after`).  They decide on the form of the statement, and a
form without a clause does not depend on what is configured for one (`Proc.procedure_build`).
-/

namespace SqlStatement

/-- A text names a procedure: it has characters, none of which is blank, a semicolon or a round
bracket. -/
def NamesProcedure (s : String) : Prop :=
  s ≠ "" ∧ ∀ c ∈ s.toList, Text.isBlank c = false ∧ c ≠ ';' ∧ c ≠ '(' ∧ c ≠ ')'

theorem Proc.breaksName_eq_false_iff {c : Char} :
    breaksName c = false ↔ Text.isBlank c = false ∧ c ≠ ';' ∧ c ≠ '(' ∧ c ≠ ')' := by
  simp [breaksName, and_assoc]

/-- The test of a name tells whether it names a procedure. -/
theorem namesProcedure_iff {s : String} :
    (s == "" || s.toList.any Proc.breaksName) = false ↔ NamesProcedure s := by
  rw [Bool.or_eq_false_iff, List.any_eq_false, NamesProcedure, beq_eq_false_iff_ne]
  simp only [Bool.not_eq_true, Proc.breaksName_eq_false_iff]

instance (s : String) : Decidable (NamesProcedure s) := decidable_of_iff _ namesProcedure_iff

namespace Proc

/-! ## Calls -/

/-- A name is accepted exactly if its text, without the blanks at its ends, names a procedure. -/
theorem checkName_eq (s : String) :
    checkName s =
      if NamesProcedure (Text.trim s) then .ok (.ofString s)
      else .error (.invalidProcName (Text.trim s)) := by
  have hcheck : checkName s =
      if Text.trim s == "" || (Text.trim s).toList.any breaksName then
        .error (.invalidProcName (Text.trim s))
      else .ok (.ofString s) := rfl
  rw [hcheck]
  by_cases h : NamesProcedure (Text.trim s)
  · rw [if_pos h, namesProcedure_iff.mpr h, if_neg Bool.false_ne_true]
  · have hbroken : (Text.trim s == "" || (Text.trim s).toList.any breaksName) = true :=
      (Bool.not_eq_false _).mp fun hs ↦ h (namesProcedure_iff.mp hs)
    rw [if_neg h, if_pos hbroken]

/-- The procedure that a call chooses, with what it is called for, unless the call is refused. -/
def Call.choice? : Call → Option (Name × CallMode)
  | call mode name =>
    if NamesProcedure (Text.trim name) then some (.ofString name, mode) else none
  | _ => none

/-- The choice of the last call that is not refused. -/
def lastChoice (calls : List Call) : Option (Name × CallMode) :=
  (calls.filterMap Call.choice?).getLast?

/-- The procedure call after calls. -/
def after (p : Proc) (calls : List Call) : Proc := (Kind.proc.run p calls).value

/-- A call for a procedure chooses it, unless its name is none. -/
theorem apply_call (p : Proc) (mode : CallMode) (name : String) :
    p.apply (.call mode name) =
      if NamesProcedure (Text.trim name) then
        .ok (.silent { p with target := some (.ofString name, mode) })
      else .error (.invalidProcName (Text.trim name)) := by
  rw [apply, call, checkName_eq]
  split <;> rfl

/-- A call for a procedure is refused exactly if its name is none, with this name. -/
theorem refusal?_call (p : Proc) (mode : CallMode) (name : String) :
    Kind.proc.refusal? p (.call mode name) =
      if NamesProcedure (Text.trim name) then none
      else some (.invalidProcName (Text.trim name)) := by
  have happly : Kind.proc.apply p (.call mode name) = _ := p.apply_call mode name
  by_cases h : NamesProcedure (Text.trim name)
  · simp only [Kind.refusal?, happly, if_pos h]
  · simp only [Kind.refusal?, happly, if_neg h]

/-- A call with a name that is none of a procedure may be left out. -/
theorem run_of_not_namesProcedure {name : String} (h : ¬ NamesProcedure (Text.trim name))
    (mode : CallMode) (p : Proc) (before more : List Call) :
    Kind.proc.run p (before ++ Call.call mode name :: more) =
      Kind.proc.run p (before ++ more) := by
  have hrefusal : Kind.proc.refusal? (Kind.proc.run p before).value (.call mode name) =
      some (.invalidProcName (Text.trim name)) := (refusal?_call _ mode name).trans (if_neg h)
  exact Kind.run_append_cons_of_refusal (k := .proc) hrefusal more

/-- Only calls for a procedure choose one. -/
theorem Call.choice?_of_family {c : Call} (h : c.family ≠ .procedure) : c.choice? = none := by
  cases c with
  | call mode name => exact absurd rfl h
  | _ => rfl

/-- A call that chooses a procedure puts it in the place of an earlier one. -/
theorem target_next (p : Proc) (c : Call) :
    c.choice?.or p.target = target (Kind.next (k := .proc) p c) := by
  by_cases h : c.family = .procedure
  · cases c with
    | call mode name =>
      have happly : Kind.proc.apply p (.call mode name) = _ := p.apply_call mode name
      by_cases hname : NamesProcedure (Text.trim name)
      · simp only [Kind.next, happly, Call.choice?, if_pos hname]
        rfl
      · simp only [Kind.next, happly, Call.choice?, if_neg hname]
        rfl
    | _ => cases h
  · have hcut : ∀ p : Proc, (p.cut .procedure).target = p.target := fun _ ↦ rfl
    have hnext : target (Kind.next (k := .proc) p c) = p.target :=
      Kind.view_next_of_family (k := .proc) hcut h p
    rw [hnext, Call.choice?_of_family h, Option.none_or]

/-- The procedure is the choice of the last call that is not refused. -/
theorem target_after (d : Dialect) (calls : List Call) :
    ((new d).after calls).target = lastChoice calls := by
  have hview : ((new d).after calls).target =
      calls.foldl (fun chosen c ↦ c.choice?.or chosen) (new d).target :=
    @Kind.view_run .proc _ target (fun chosen (c : Call) ↦ c.choice?.or chosen) target_next (new d)
      calls
  rw [hview, foldl_or_eq_getLast?]
  exact Option.or_none

/-- What is chosen names a procedure. -/
theorem namesProcedure_of_lastChoice {calls : List Call} {name : Name} {mode : CallMode}
    (h : lastChoice calls = some (name, mode)) : NamesProcedure name.text := by
  obtain ⟨c, -, hc⟩ := List.mem_filterMap.mp (List.mem_of_getLast? h)
  cases c with
  | call mode' text =>
    rw [Call.choice?] at hc
    split at hc
    · next htext =>
      obtain ⟨rfl, rfl⟩ := Prod.mk.inj (Option.some.inj hc)
      exact htext
    · cases hc
  | _ => cases hc

/-! ## Forms of the statement -/

theorem textOf_execPassages (p : Proc) (name : Name) :
    Passage.textOf (p.execPassages name) =
      "exec " ++ name.text ++ Layout.listed " " p.placeholders := by
  simp [execPassages]

theorem textOf_performPassages (p : Proc) (name : Name) :
    Passage.textOf (p.performPassages name) =
      "perform " ++ name.text ++ "(" ++ Layout.commas p.placeholders ++ ")" := by
  simp [performPassages, String.append_assoc]

theorem textOf_rowsPassages (p : Proc) (name : Name) :
    Passage.textOf (p.rowsPassages name) =
      "select " ++ Layout.commas (p.columns.map Name.text) ++ Layout.rowCountText p.counted ++
        " from " ++ name.text ++ "(" ++ Layout.commas p.placeholders ++ ")" ++
        p.filter.spaced.textFrom p.dialect p.arguments.length ++ Layout.orderBy p.order ++
        Layout.limit p.limit := by
  simp [rowsPassages, Passage.ordering, Layout.orderBy_eq_listed, String.append_assoc]

section Forms

variable {p : Proc} {name : Name} {mode : CallMode}

/-- Without a procedure there is nothing to call. -/
theorem lack_of_target (h : p.target = none) : p.lack = some .noProcedure := by
  rw [lack, h]

/-- On the engine with a statement of its own, this is written with the arguments alone. -/
theorem exec_form (h : p.target = some (name, mode)) (he : p.dialect.engine = .mssql) :
    p.lack = none ∧ p.passages = p.execPassages name ∧ p.credits = p.arguments := by
  rw [lack, passages, credits, isQuery, h, he]
  exact ⟨rfl, rfl, List.append_nil _⟩

/-- On the other engines, a procedure is performed with the arguments alone. -/
theorem perform_form (h : p.target = some (name, .perform)) (he : p.dialect.engine ≠ .mssql) :
    p.lack = none ∧ p.passages = p.performPassages name ∧ p.credits = p.arguments := by
  rw [lack, passages, credits, isQuery, h]
  cases hengine : p.dialect.engine with
  | mssql => exact absurd hengine he
  | postgres | mysql => exact ⟨rfl, rfl, List.append_nil _⟩

/-- On the other engines, a procedure is called for the columns of its rows if there are any. -/
theorem rows_form (h : p.target = some (name, .rows)) (he : p.dialect.engine ≠ .mssql) :
    p.lack = (if p.columns.isEmpty then some .nothingSelected else none) ∧
      p.passages = p.rowsPassages name := by
  rw [lack, passages, h]
  cases hengine : p.dialect.engine with
  | mssql => exact absurd hengine he
  | postgres | mysql => exact ⟨rfl, rfl⟩

/-- There is nothing to call exactly if there is no procedure. -/
theorem lack_eq_noProcedure_iff : p.lack = some .noProcedure ↔ p.target = none := by
  refine ⟨fun hlack ↦ ?_, lack_of_target⟩
  cases h : p.target with
  | none => rfl
  | some target =>
    obtain ⟨name, mode⟩ := target
    by_cases he : p.dialect.engine = .mssql
    · rw [(exec_form h he).1] at hlack
      cases hlack
    · cases mode with
      | perform =>
        rw [(perform_form h he).1] at hlack
        cases hlack
      | rows =>
        rw [(rows_form h he).1] at hlack
        split at hlack <;> cases hlack

/-- A form that does not take columns depends on the procedure and the arguments alone. -/
theorem bare_form (h : p.target = some (name, mode))
    (hmode : p.dialect.engine = .mssql ∨ mode = .perform) {p' : Proc}
    (hdialect : p'.dialect = p.dialect) (htarget : p'.target = p.target)
    (harguments : p'.arguments = p.arguments) :
    p.lack = none ∧ p'.lack = none ∧ p'.passages = p.passages ∧ p'.credits = p.credits := by
  have hplaceholders : p'.placeholders = p.placeholders := by
    rw [placeholders, placeholders, hdialect, harguments]
  by_cases he : p.dialect.engine = .mssql
  · obtain ⟨hlack, hpassages, hcredits⟩ := exec_form h he
    obtain ⟨hlack', hpassages', hcredits'⟩ := exec_form (htarget.trans h) (hdialect ▸ he)
    rw [hlack, hlack', hpassages, hpassages', hcredits, hcredits', execPassages, execPassages,
      hplaceholders, harguments]
    exact ⟨rfl, rfl, rfl, rfl⟩
  · obtain rfl : mode = .perform := hmode.resolve_left he
    obtain ⟨hlack, hpassages, hcredits⟩ := perform_form h he
    obtain ⟨hlack', hpassages', hcredits'⟩ := perform_form (htarget.trans h) (hdialect ▸ he)
    rw [hlack, hlack', hpassages, hpassages', hcredits, hcredits', performPassages,
      performPassages, hplaceholders, harguments]
    exact ⟨rfl, rfl, rfl, rfl⟩

/-- The text and the parameters of a form that lacks nothing. -/
theorem build_of_lack {ps : List Passage} (hlack : p.lack = none) (h : p.passages = ps)
    (terminate : Bool) :
    let info := (p.build terminate).value
    info.sql = (Passage.textOf ps ++ if terminate then ";" else "") ∧
      info.paramFields = Name.commaList p.credits ∧ info.paramCount = p.credits.length := by
  intro info
  have hdiagnostic : info.diagnostic = false :=
    Kind.diagnostic_build_of_lack (k := .proc) hlack terminate
  rw [← h]
  exact ⟨Kind.sql_build (k := .proc) hdiagnostic, Kind.paramFields_build (k := .proc) hdiagnostic,
    Kind.paramCount_build (k := .proc) hdiagnostic⟩

theorem sql_exec_form (h : p.target = some (name, mode)) (he : p.dialect.engine = .mssql)
    (terminate : Bool) :
    (p.build terminate).value.sql =
      "exec " ++ name.text ++ Layout.listed " " p.placeholders ++ if terminate then ";" else "" := by
  obtain ⟨hlack, hpassages, -⟩ := exec_form h he
  rw [(build_of_lack hlack hpassages terminate).1, textOf_execPassages]

theorem sql_perform_form (h : p.target = some (name, .perform)) (he : p.dialect.engine ≠ .mssql)
    (terminate : Bool) :
    (p.build terminate).value.sql =
      "perform " ++ name.text ++ "(" ++ Layout.commas p.placeholders ++ ")" ++
        if terminate then ";" else "" := by
  obtain ⟨hlack, hpassages, -⟩ := perform_form h he
  rw [(build_of_lack hlack hpassages terminate).1, textOf_performPassages]

theorem sql_rows_form (h : p.target = some (name, .rows)) (he : p.dialect.engine ≠ .mssql)
    (hcolumns : p.columns ≠ []) (terminate : Bool) :
    (p.build terminate).value.sql =
      "select " ++ Layout.commas (p.columns.map Name.text) ++ Layout.rowCountText p.counted ++
        " from " ++ name.text ++ "(" ++ Layout.commas p.placeholders ++ ")" ++
        p.filter.spaced.textFrom p.dialect p.arguments.length ++ Layout.orderBy p.order ++
        Layout.limit p.limit ++ if terminate then ";" else "" := by
  obtain ⟨hlack, hpassages⟩ := rows_form h he
  rw [if_neg fun hempty ↦ hcolumns (List.isEmpty_iff.mp hempty)] at hlack
  rw [(build_of_lack hlack hpassages terminate).1, textOf_rowsPassages]

/-- Called for rows without columns, there is nothing to select. -/
theorem sql_rows_form_iff (h : p.target = some (name, .rows)) (he : p.dialect.engine ≠ .mssql)
    {terminate : Bool} :
    (p.build terminate).value.sql = Diagnostic.nothingSelected.message ↔ p.columns = [] := by
  have hiff : (p.build terminate).value.sql = Diagnostic.nothingSelected.message ↔
      p.lack = some .nothingSelected := Kind.sql_eq_message_iff (k := .proc)
  rw [hiff, (rows_form h he).1]
  simp

/-- The text and the parameters of a form that does not take columns depend on the procedure and the
arguments alone. -/
theorem build_bare_form (h : p.target = some (name, mode))
    (hmode : p.dialect.engine = .mssql ∨ mode = .perform) {p' : Proc}
    (hdialect : p'.dialect = p.dialect) (htarget : p'.target = p.target)
    (harguments : p'.arguments = p.arguments) (terminate : Bool) :
    let info := (p.build terminate).value
    let info' := (p'.build terminate).value
    info'.sql = info.sql ∧ info'.paramFields = info.paramFields ∧
      info'.paramCount = info.paramCount := by
  obtain ⟨hlack, hlack', hpassages, hcredits⟩ := bare_form h hmode hdialect htarget harguments
  obtain ⟨hsql, hfields, hcount⟩ := build_of_lack hlack rfl terminate
  obtain ⟨hsql', hfields', hcount'⟩ := build_of_lack hlack' hpassages terminate
  refine ⟨hsql'.trans hsql.symm, ?_, ?_⟩
  · rw [hfields', hcredits, ← hfields]
  · rw [hcount', hcredits, ← hcount]

end Forms

/-- A call for a procedure is refused exactly if its name, without the blanks at its ends, is none
of a procedure; it is refused with this name and leaves no trace. So the procedure, and what it is
called for, are those of the last call that is not refused, and they name a procedure. A build
answers that there is no procedure if there is no such call. Otherwise one engine has a statement of
its own with the arguments, whatever the procedure is called for; on the others it is performed with
the arguments, or called for the columns of its rows, without which nothing is selected. Unless it
is called for rows, the text and the parameters depend on the procedure and the arguments alone. -/
theorem procedure_build (d : Dialect) (calls : List Call) :
    let p := (new d).after calls
    let choice := lastChoice calls
    let columns := Kind.proc.namedColumns calls
    let arguments :=
      (Kind.proc.givenByAll .arguments calls).mapIdx fun i _ ↦ d.placeholder (i + 1)
    (∀ before mode name, let c : Call := .call mode name
      Kind.proc.refusal? ((new d).after before) c =
        (if NamesProcedure (Text.trim name) then none
        else some (.invalidProcName (Text.trim name))) ∧
      (¬ NamesProcedure (Text.trim name) → ∀ more,
        Kind.proc.run (new d) (before ++ c :: more) = Kind.proc.run (new d) (before ++ more))) ∧
    p.target = choice ∧
    (∀ name mode, choice = some (name, mode) → NamesProcedure name.text) ∧
    (∀ terminate,
      let sql := (p.build terminate).value.sql
      let ending := if terminate then ";" else ""
      (sql = Diagnostic.noProcedure.message ↔ choice = none) ∧
      ∀ name mode, choice = some (name, mode) →
        (d.engine = .mssql →
          sql = "exec " ++ name.text ++ Layout.listed " " arguments ++ ending) ∧
        (d.engine ≠ .mssql → mode = .perform →
          sql = "perform " ++ name.text ++ "(" ++ Layout.commas arguments ++ ")" ++ ending) ∧
        (d.engine ≠ .mssql → mode = .rows →
          (sql = Diagnostic.nothingSelected.message ↔ columns = []) ∧
          (columns ≠ [] →
            sql = "select " ++ Layout.commas (columns.map Name.text) ++
              Layout.rowCountText p.counted ++ " from " ++ name.text ++ "(" ++
              Layout.commas arguments ++ ")" ++ p.filter.spaced.textFrom d arguments.length ++
              Layout.orderBy p.order ++ Layout.limit p.limit ++ ending))) ∧
    ∀ calls', Kind.proc.ofFamily .procedure calls' = Kind.proc.ofFamily .procedure calls →
      Kind.proc.ofFamily .arguments calls' = Kind.proc.ofFamily .arguments calls →
      ∀ name mode, choice = some (name, mode) → d.engine = .mssql ∨ mode = .perform →
      ∀ terminate,
        let info := (p.build terminate).value
        let info' := (((new d).after calls').build terminate).value
        info'.sql = info.sql ∧ info'.paramFields = info.paramFields ∧
          info'.paramCount = info.paramCount := by
  intro p choice columns arguments
  have hdialect : p.dialect = d := Kind.dialect_run .proc d calls
  have htarget : p.target = choice := target_after d calls
  have hcolumns : p.columns = columns := Kind.columns_run (k := .proc) d calls
  have harguments : p.placeholders = arguments := by
    rw [placeholders_eq, hdialect]
    exact congrArg (List.mapIdx _) (Kind.entries_run (k := .proc) .arguments d calls)
  refine ⟨fun before mode name ↦ ⟨refusal?_call _ mode name, fun hname more ↦ ?_⟩, htarget,
    fun name mode ↦ namesProcedure_of_lastChoice, fun terminate ↦ ?_, ?_⟩
  · exact run_of_not_namesProcedure hname mode (new d) before more
  · intro sql ending
    have hlength : p.placeholders.length = p.arguments.length := List.length_mapIdx
    rw [← htarget, ← hcolumns, ← harguments]
    refine ⟨(Kind.sql_eq_message_iff (k := .proc)).trans lack_eq_noProcedure_iff,
      fun name mode hchoice ↦ ⟨fun he ↦ ?_, fun he hmode ↦ ?_, fun he hmode ↦ ?_⟩⟩
    · exact sql_exec_form hchoice (hdialect ▸ he) terminate
    · subst hmode
      exact sql_perform_form hchoice (hdialect ▸ he) terminate
    · subst hmode
      refine ⟨sql_rows_form_iff hchoice (hdialect ▸ he), fun hne ↦ ?_⟩
      rw [hlength, ← hdialect]
      exact sql_rows_form hchoice (hdialect ▸ he) hne terminate
  · intro calls' hprocedure harguments' name mode hchoice hmode terminate
    have htarget' : ((new d).after calls').target = p.target :=
      Kind.view_run_congr (k := .proc) (fun _ ↦ rfl) hprocedure
    have harguments' : ((new d).after calls').arguments = p.arguments :=
      Kind.view_run_congr (k := .proc) (fun _ ↦ rfl) harguments'
    have hdialect' : ((new d).after calls').dialect = p.dialect :=
      (Kind.dialect_run .proc d calls').trans hdialect.symm
    exact build_bare_form (htarget.trans hchoice) (hdialect ▸ hmode) hdialect' htarget' harguments'
      terminate

/-- Calls among which the last choice is refused, with conditions and without them. -/
theorem procedure_build_refused :
    let wrong : Call := .call .rows " drop table "
    let chosen : List Call := [.call .rows "totals", .call .perform " refresh "]
    let arguments : List Call := [.arguments ["a", " "], .arguments [" b"]]
    let clause : List Call := [.filter (.require [.compare .eq "id" "?"]), .limit 3, .countRows]
    let calls := chosen ++ wrong :: arguments
    let d := Dialect.ofEngine .postgres
    let info := (((new d).after calls).build true).value
    let info' := (((new d).after (clause ++ arguments ++ chosen ++ [wrong])).build true).value
    Kind.proc.refusal? ((new d).after chosen) wrong = some (.invalidProcName "drop table") ∧
      info.sql = "perform refresh($1, $2);" ∧ info'.sql = info.sql ∧ info'.paramCount = 2 := by
  intro wrong chosen arguments clause calls d info info'
  obtain ⟨hcalls, -, -, hbuild, hsame⟩ := procedure_build d calls
  have hchoice : lastChoice calls = some (.ofString "refresh", .perform) := by decide
  have hgiven : Kind.proc.givenByAll .arguments calls =
      [some (.ofString "a"), some (.ofString "b")] := rfl
  have hsql : info.sql = "perform refresh($1, $2);" := by
    refine (((hbuild true).2 _ _ hchoice).2.1 nofun rfl).trans ?_
    rw [hgiven]
    cbv
  obtain ⟨hsql', -, hcount'⟩ := hsame (clause ++ arguments ++ chosen ++ [wrong]) rfl rfl _ _ hchoice
    (.inr rfl) true
  have hrefused : ¬ NamesProcedure (Text.trim " drop table ") := by decide
  have hrefusal := (hcalls chosen .rows " drop table ").1.trans (if_neg hrefused)
  exact ⟨hrefusal, hsql, hsql', hcount'.trans rfl⟩

end Proc

end SqlStatement
