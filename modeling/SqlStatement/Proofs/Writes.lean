import SqlStatement.Proofs.Template

/-!
# Printers and templates

A printer writes a template if it does to every page what the steps of the template do.  Single
steps write themselves, and the ways of putting printers together have their counterparts on
templates.  The one that needs a reason is `Printer.Writes.subQuery`: a sub-query is numbered and
listed on a tally of its own, which is then adopted, and yet its steps might have been taken one by
one in the statement around it, provided that it has no fields and returned columns, which the
adoption would drop.
-/

namespace SqlStatement

namespace Printer

/-- In a setting, the printer does to every page what the steps of the template do. -/
def Writes (a : Printer) (s : Setting) (t : Template) : Prop := ∀ p, a s p = t.printer s p

variable {a b : Printer} {s : Setting} {t u : Template}

/-- What a printer that writes a template does to a page. -/
theorem Writes.apply (h : a.Writes s t) (p : Page) :
    a s p = ⟨p.text ++ t.render s.dialect p.tally.paramCount, t.count p.tally,
      p.events ++ t.events⟩ := by
  rw [h p, Template.printer_apply]

/-- The text that a printer writes in a dialect, if `start` parameters come before it. -/
def textFrom (a : Printer) (d : Dialect) (start : Nat) : String :=
  (a ⟨d, false⟩ ⟨"", .startingAt start, []⟩).text

/-- A printer writes the text of its template. -/
theorem Writes.textFrom {d : Dialect} (h : a.Writes ⟨d, false⟩ t) (start : Nat) :
    a.textFrom d start = t.render d start := by
  rw [Printer.textFrom, h.apply]
  exact String.empty_append

/-! ## Single steps -/

theorem nothing_writes : nothing.Writes s [] := fun _ ↦ rfl

theorem text_writes (x : String) : (text x).Writes s [.text x] := fun _ ↦ rfl

theorem slot_writes (n : Name) : (slot n).Writes s [.slot n] := fun _ ↦ rfl

theorem field_writes (n : Name) : (field n).Writes s [.field n] := fun _ ↦ rfl

theorem returned_writes (n : Name) : (returned n).Writes s [.returned n] := fun _ ↦ rfl

theorem report_writes (e : Event) : (report e).Writes s [.report e] := fun _ ↦ rfl

/-! ## Putting printers together -/

/-- Steps may be taken in two templates, one after the other. -/
theorem template_append_apply (t u : Template) (s : Setting) (p : Page) :
    (t ++ u).printer s p = u.printer s (t.printer s p) := by
  induction t generalizing p with
  | nil => rfl
  | cons x t ih => exact ih (x.printer s p)

theorem Writes.append (ha : a.Writes s t) (hb : b.Writes s u) : (a ++ b).Writes s (t ++ u) := by
  intro p
  rw [append_apply, ha p, hb, template_append_apply]

theorem Writes.concat {α : Type} {f : α → Printer} {g : α → Template} {xs : List α}
    (h : ∀ x ∈ xs, (f x).Writes s (g x)) : (concat (xs.map f)).Writes s (xs.flatMap g) := by
  induction xs with
  | nil => exact nothing_writes
  | cons x xs ih =>
    have hx := h x List.mem_cons_self
    exact hx.append (ih fun y hy ↦ h y (List.mem_cons_of_mem x hy))

theorem Writes.separated {α : Type} {f : α → Printer} {g : α → Template} {xs : List α}
    (h : ∀ x ∈ xs, (f x).Writes s (g x)) (sep : String) :
    (separated sep (xs.map f)).Writes s (Template.joined sep (xs.map g)) := by
  induction xs with
  | nil => exact nothing_writes
  | cons x xs ih =>
    have hx := h x List.mem_cons_self
    have hxs := ih fun y hy ↦ h y (List.mem_cons_of_mem x hy)
    cases xs with
    | nil => exact hx
    | cons y r =>
      have := (hx.append (text_writes sep)).append hxs
      rwa [List.append_assoc] at this

theorem Writes.bracketed (ha : a.Writes s t) : (bracketed a).Writes s t.bracketed :=
  ((text_writes "(").append ha).append (text_writes ")")

theorem Writes.topLevel (ha : a.Writes s t) :
    (topLevel a).Writes s (if s.nested then [] else t) := by
  intro p
  rw [Printer.topLevel]
  split
  · rfl
  · exact ha p

theorem Writes.onEngine {f : Engine → Printer} (hf : (f s.dialect.engine).Writes s t) :
    (onEngine f).Writes s t := hf

/-- A sub-query may be written in the statement around it, if it has no fields and no returned
columns. -/
theorem Writes.subQuery (ha : a.Writes { s with nested := true } t) (hf : t.fields = [])
    (hr : t.returnedColumns = []) : (subQuery a).Writes s t.bracketed := by
  intro p
  have hcount : p.tally.adopt (t.count (.startingAt p.tally.paramCount)) = t.count p.tally := by
    simp [Tally.adopt, Template.count, Tally.startingAt, hf, hr, Name.present]
  have hevents : t.bracketed.events = t.events := by simp [Template.bracketed]
  rw [Template.printer_apply, Template.render_bracketed, Template.count_bracketed, hevents]
  simp only [Printer.subQuery, ha.apply, hcount, String.append_assoc]
  rfl

end Printer

end SqlStatement
