import SqlStatement.Proofs.Calls
import SqlStatement.Proofs.Credits
import SqlStatement.Proofs.Redirected

/-!
# Returning columns

The columns that a statement returns leave no trace but the list of them, which each engine writes
at its own place, if at all.  The calls that ask for them may be left out and the columns be put
into the builder afterwards (`Kind.run_eq_setReturning`), and a statement with them is the one
without them with a list at one place (`Kind.takesReturning`).  So a build with returning columns is
compared with one without them on every engine (`Kind.build_returning`).
-/

namespace SqlStatement

/-- The number of parameters of the assignments. -/
def Update.assignedParams (u : Update) : Nat :=
  u.columns.length + (u.calculated.entries.map fun e ↦ RawText.markers e.2).sum

namespace Kind

variable {k : Kind}

/-! ## Calls -/

end Kind

namespace Kind

variable {k : Kind}

end Kind

/-! ## The place of the output list -/

namespace Template

variable {e : Engine}

@[simp] theorem fields_returningList (before : String) (columns : List Name) :
    (returningList before columns).fields = [] := by
  simp [returningList, List.flatMap_map]

@[simp] theorem returnedColumns_returningList (before : String) (columns : List Name) :
    (returningList before columns).returnedColumns = columns := by
  simp [returningList, List.flatMap_map]

/-- A list of columns has a comma between each two. -/
theorem render_returningList (d : Dialect) (start : Nat) (before : String) (columns : List Name) :
    render d start (returningList before columns) =
      Layout.commas (columns.map fun c ↦ before ++ c.text) := by
  have hslots : ∀ c : Name, slots [.text before, .text c.text, .returned c] = 0 := fun _ ↦ rfl
  have htext : ∀ i (c : Name), render d (start + i * 0) [.text before, .text c.text, .returned c] =
      before ++ c.text := by
    intro i c
    simp [render]
  rw [returningList, render_joined hslots]
  simp only [htext]
  exact congrArg Layout.commas (List.ext_getElem (by simp) (by simp))

@[simp] theorem fields_output (image : RowImage) (columns : List Name) :
    (output e image columns).fields = [] := by
  unfold output
  split
  · rfl
  · cases e <;> simp

@[simp] theorem fields_trailing (columns : List Name) : (trailing e columns).fields = [] := by
  unfold trailing
  split
  · rfl
  · cases e <;> simp

end Template

/-- The parameters of the assignments are those of the plain columns and the markers of the
calculated values. -/
theorem Update.slots_assignments (u : Update) :
    Template.slots (Template.joined ", " (u.assignments.map Assignment.template)) =
      u.assignedParams := by
  have hmarkers : (u.calculated.entries.flatMap fun e ↦
      List.replicate (RawText.markers e.2) e.1).length =
        (u.calculated.entries.map fun e ↦ RawText.markers e.2).sum := by
    simp [List.length_flatMap]
  rw [Template.slots, Template.credits_joined, assignedParams, ← hmarkers]
  simp [assignments, List.flatMap_map, Assignment.credits_template]

/-- A statement of two parts, an engine's output list between them and its trailing list behind
them. -/
def Template.withReturning (front behind : Template) (image : RowImage) (e : Engine)
    (names : List Name) : Template :=
  front ++ output e image names ++ behind ++ trailing e names

namespace Template

/-! ## Statements with returning columns -/

variable {front behind : Template} {image : RowImage} {names : List Name}

theorem render_output (h : names ≠ []) (d : Dialect) (start : Nat) (image : RowImage) :
    render d start (output d.engine image names) =
      if d.engine = .mssql then
        " output " ++ Layout.commas (names.map fun c ↦ image.word ++ "." ++ c.text)
      else "" := by
  unfold output
  rw [if_neg (by simpa using h)]
  cases d.engine with
  | mssql => exact congrArg _ (render_returningList _ _ _ _)
  | postgres | mysql => rfl

theorem render_trailing (h : names ≠ []) (d : Dialect) (start : Nat) :
    render d start (trailing d.engine names) =
      if d.engine = .postgres then " returning " ++ Layout.commas (names.map Name.text)
      else "" := by
  unfold trailing
  rw [if_neg (by simpa using h)]
  cases d.engine with
  | postgres =>
    refine congrArg (" returning " ++ ·) ((render_returningList _ _ _ _).trans ?_)
    simp
  | mssql | mysql => rfl

@[simp] theorem credits_withReturning (e : Engine) :
    credits (withReturning front behind image e names) = front.credits ++ behind.credits := by
  simp [withReturning]

@[simp] theorem fields_withReturning (e : Engine) :
    fields (withReturning front behind image e names) = front.fields ++ behind.fields := by
  simp [withReturning]

end Template

namespace Kind

variable {k : Kind} {image : RowImage}

end Kind

end SqlStatement
