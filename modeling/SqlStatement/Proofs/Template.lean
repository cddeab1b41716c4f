import SqlStatement.Proofs.Listing
import SqlStatement.Printer

/-!
# Templates

A template is the list of the single steps in which a part of a statement is written: texts, slots
for parameters, and what goes to the tally and to the log.  What a template does to a page can be
told from the lists that it holds (`Template.printer_apply`): its slots are numbered from left to
right behind the parameters that are already on the page, and its credits, fields, returned columns
and events follow those that are already there.
-/

namespace SqlStatement

/-- A single step of writing. -/
inductive Piece
  | text (s : String)
  /-- The place of a parameter, credited to a name. -/
  | slot (credit : Name)
  | field (n : Name)
  | returned (n : Name)
  | report (e : Event)

namespace Piece

/-- Takes the step. -/
def printer : Piece → Printer
  | text s => .text s
  | slot n => .slot n
  | field n => .field n
  | returned n => .returned n
  | report e => .report e

/-- The text of a step in a dialect, if `start` parameters come before it. -/
@[simp] def render (d : Dialect) (start : Nat) : Piece → String
  | text s => s
  | slot _ => d.placeholder (start + 1)
  | field _ | returned _ | report _ => ""

/-- The name to which a slot is credited. -/
@[simp] def credits : Piece → List Name
  | slot n => [n]
  | text _ | field _ | returned _ | report _ => []

/-- The field that a step counts. -/
@[simp] def fields : Piece → List Name
  | field n => [n]
  | text _ | slot _ | returned _ | report _ => []

/-- The column that a step lists as returned. -/
@[simp] def returnedColumns : Piece → List Name
  | returned n => [n]
  | text _ | slot _ | field _ | report _ => []

/-- The event that a step reports. -/
@[simp] def events : Piece → List Event
  | report e => [e]
  | text _ | slot _ | field _ | returned _ => []

end Piece

/-- The steps of writing a part of a statement. -/
abbrev Template := List Piece

namespace Template

/-- Takes the steps one after the other. -/
def printer (t : Template) : Printer := .concat (t.map Piece.printer)

/-- The names to which the slots are credited, from left to right. -/
def credits (t : Template) : List Name := t.flatMap Piece.credits

/-- The fields of a template, from left to right. -/
def fields (t : Template) : List Name := t.flatMap Piece.fields

/-- The returned columns of a template, from left to right. -/
def returnedColumns (t : Template) : List Name := t.flatMap Piece.returnedColumns

/-- The events of a template, from left to right. -/
def events (t : Template) : List Event := t.flatMap Piece.events

/-- The number of slots. -/
def slots (t : Template) : Nat := t.credits.length

/-- The text of a template in a dialect, if `start` parameters come before it. -/
def render (d : Dialect) (start : Nat) : Template → String
  | [] => ""
  | x :: t => x.render d start ++ render d (start + slots [x]) t

/-- The tally behind a template, from the one before it. -/
def count (t : Template) (before : Tally) : Tally where
  fieldCount := before.fieldCount + (Name.present t.fields).length
  paramCount := before.paramCount + t.slots
  fields := Listing.add before.fields (Name.commaList t.fields)
  params := Listing.add before.params (Name.commaList t.credits)
  returning := Listing.add before.returning (Name.commaList t.returnedColumns)

/-- The templates one after the other, each two with the text `sep` between them. -/
def joined (sep : String) : List Template → Template
  | [] => []
  | [t] => t
  | t :: u :: r => t ++ .text sep :: joined sep (u :: r)

/-- A template in round brackets. -/
def bracketed (t : Template) : Template := .text "(" :: t ++ [.text ")"]

/-! ## The lists of a template -/

section Lists

variable (x : Piece) (t u : Template)

@[simp] theorem credits_nil : credits [] = [] := rfl

@[simp] theorem credits_cons : credits (x :: t) = x.credits ++ credits t := rfl

@[simp] theorem credits_append : credits (t ++ u) = credits t ++ credits u := List.flatMap_append

@[simp] theorem fields_nil : fields [] = [] := rfl

@[simp] theorem fields_cons : fields (x :: t) = x.fields ++ fields t := rfl

@[simp] theorem fields_append : fields (t ++ u) = fields t ++ fields u := List.flatMap_append

@[simp] theorem returnedColumns_nil : returnedColumns [] = [] := rfl

@[simp] theorem returnedColumns_cons :
    returnedColumns (x :: t) = x.returnedColumns ++ returnedColumns t := rfl

@[simp] theorem returnedColumns_append :
    returnedColumns (t ++ u) = returnedColumns t ++ returnedColumns u := List.flatMap_append

@[simp] theorem events_nil : events [] = [] := rfl

@[simp] theorem events_cons : events (x :: t) = x.events ++ events t := rfl

@[simp] theorem events_append : events (t ++ u) = events t ++ events u := List.flatMap_append

@[simp] theorem slots_nil : slots [] = 0 := rfl

@[simp] theorem slots_cons : slots (x :: t) = x.credits.length + slots t := by simp [slots]

@[simp] theorem slots_append : slots (t ++ u) = slots t + slots u := by simp [slots]

end Lists

/-- What is collected from the pieces of joined templates, if the text between them adds nothing to
it. -/
theorem flatMap_joined {α : Type} {f : Piece → List α} {sep : String} (h : f (.text sep) = [])
    (ts : List Template) : (joined sep ts).flatMap f = ts.flatMap fun t ↦ t.flatMap f := by
  induction ts with
  | nil => rfl
  | cons t r ih =>
    cases r with
    | nil => simp [joined]
    | cons u r =>
      rw [joined, List.flatMap_append, List.flatMap_cons, h, List.nil_append, ih]
      rfl

@[simp] theorem credits_joined (sep : String) (ts : List Template) :
    credits (joined sep ts) = ts.flatMap credits := flatMap_joined rfl ts

@[simp] theorem fields_joined (sep : String) (ts : List Template) :
    fields (joined sep ts) = ts.flatMap fields := flatMap_joined rfl ts

@[simp] theorem returnedColumns_joined (sep : String) (ts : List Template) :
    returnedColumns (joined sep ts) = ts.flatMap returnedColumns := flatMap_joined rfl ts

@[simp] theorem events_joined (sep : String) (ts : List Template) :
    events (joined sep ts) = ts.flatMap events := flatMap_joined rfl ts

@[simp] theorem credits_bracketed (t : Template) : t.bracketed.credits = t.credits := by
  simp [bracketed]

@[simp] theorem credits_flatten (ts : List Template) :
    credits ts.flatten = ts.flatMap credits := by
  induction ts with
  | nil => rfl
  | cons t ts ih => rw [List.flatten_cons, credits_append, ih, List.flatMap_cons]

/-! ## Templates of texts and slots -/

/-- A template that puts nothing but text and parameters on a page. -/
def Plain (t : Template) : Prop :=
  ∀ x ∈ t, x.fields = [] ∧ x.returnedColumns = [] ∧ x.events = []

variable {t u : Template}

theorem Plain.fields_eq_nil (h : Plain t) : t.fields = [] :=
  List.flatMap_eq_nil_iff.mpr fun x hx ↦ (h x hx).1

theorem Plain.returnedColumns_eq_nil (h : Plain t) : t.returnedColumns = [] :=
  List.flatMap_eq_nil_iff.mpr fun x hx ↦ (h x hx).2.1

theorem Plain.events_eq_nil (h : Plain t) : t.events = [] :=
  List.flatMap_eq_nil_iff.mpr fun x hx ↦ (h x hx).2.2

theorem plain_nil : Plain [] := fun _ hx ↦ absurd hx List.not_mem_nil

theorem plain_text (s : String) : Plain [.text s] := by
  intro x hx
  rw [List.mem_singleton.mp hx]
  exact ⟨rfl, rfl, rfl⟩

theorem Plain.append (ht : Plain t) (hu : Plain u) : Plain (t ++ u) := by
  intro x hx
  rcases List.mem_append.mp hx with hx | hx
  · exact ht x hx
  · exact hu x hx

theorem Plain.bracketed (ht : Plain t) : Plain t.bracketed :=
  ((plain_text "(").append ht).append (plain_text ")")

theorem Plain.joined {ts : List Template} (h : ∀ t ∈ ts, Plain t) (sep : String) :
    Plain (joined sep ts) := by
  induction ts with
  | nil => exact plain_nil
  | cons t r ih =>
    have ht := h t List.mem_cons_self
    have hr := ih fun u hu ↦ h u (List.mem_cons_of_mem t hu)
    cases r with
    | nil => exact ht
    | cons u r => exact ht.append ((plain_text sep).append hr)

theorem Plain.flatten {ts : List Template} (h : ∀ t ∈ ts, Plain t) : Plain ts.flatten := by
  intro x hx
  obtain ⟨t, ht, hx⟩ := List.mem_flatten.mp hx
  exact h t ht x hx

/-! ## What a template does to a page -/

/-- The second of two joined templates goes on with the ordinals where the first one ends. -/
theorem render_append (d : Dialect) (start : Nat) (t u : Template) :
    render d start (t ++ u) = render d start t ++ render d (start + slots t) u := by
  induction t generalizing start with
  | nil => simp [render, slots, credits]
  | cons x t ih =>
    have hs : slots (x :: t) = slots [x] + slots t := slots_append [x] t
    rw [List.cons_append, render, render, ih, hs, String.append_assoc, Nat.add_assoc]

/-- The second of two joined templates is counted behind the first one. -/
theorem count_append (t u : Template) (before : Tally) :
    count (t ++ u) before = count u (count t before) := by
  simp only [count, slots_append, fields_append, credits_append, returnedColumns_append,
    Name.present_append, Name.commaList_append, List.length_append, Listing.add_assoc,
    Nat.add_assoc]

/-- A template in round brackets has the ordinals of the template by itself. -/
theorem render_bracketed (d : Dialect) (start : Nat) (t : Template) :
    render d start t.bracketed = "(" ++ render d start t ++ ")" := by
  simp [bracketed, render, render_append, String.append_assoc]

/-- Round brackets are not counted. -/
@[simp] theorem count_bracketed (t : Template) (before : Tally) :
    count t.bracketed before = count t before := by
  simp [bracketed, count, slots]

/-- The texts of templates, each with the ordinals behind those of the ones before it. -/
def renderEach (d : Dialect) (start : Nat) : List Template → List String
  | [] => []
  | t :: ts => render d start t :: renderEach d (start + slots t) ts

/-- The templates of a second list go on with the ordinals where those of the first one end. -/
theorem renderEach_append (d : Dialect) (start : Nat) (ts us : List Template) :
    renderEach d start (ts ++ us) =
      renderEach d start ts ++ renderEach d (start + slots ts.flatten) us := by
  induction ts generalizing start with
  | nil => rfl
  | cons t ts ih =>
    rw [List.cons_append, renderEach, renderEach, ih, List.flatten_cons, slots_append,
      Nat.add_assoc]
    rfl

/-- Joined templates are written one after the other. -/
theorem render_joined_eq_intercalate (sep : String) (ts : List Template) (d : Dialect)
    (start : Nat) :
    render d start (joined sep ts) = sep.intercalate (renderEach d start ts) := by
  induction ts generalizing start with
  | nil => rfl
  | cons t ts ih =>
    cases ts with
    | nil => simp [joined, renderEach]
    | cons u r =>
      have hrest : renderEach d (start + slots t) (u :: r) ≠ [] := List.cons_ne_nil _ _
      rw [renderEach, String.intercalate_cons_of_ne_nil hrest, ← ih, joined, render_append, render,
        String.append_assoc]
      rfl

/-- Templates with `n` slots each are written each `n` ordinals behind the one before it. -/
theorem renderEach_map {α : Type} {f : α → Template} {n : Nat} (h : ∀ x, slots (f x) = n)
    (xs : List α) (d : Dialect) (start : Nat) :
    renderEach d start (xs.map f) = xs.mapIdx fun i x ↦ render d (start + i * n) (f x) := by
  induction xs generalizing start with
  | nil => rfl
  | cons x xs ih =>
    have hshift : ∀ i, start + n + i * n = start + (i + 1) * n := fun i ↦ by
      rw [Nat.add_mul, Nat.one_mul, Nat.add_assoc, Nat.add_comm n]
    rw [List.map_cons, renderEach, ih, h, List.mapIdx_cons, Nat.zero_mul, Nat.add_zero]
    simp only [hshift]

/-- Joined templates with `n` slots each are written one after the other, each `n` ordinals behind
the one before it. -/
theorem render_joined {α : Type} {f : α → Template} {n : Nat} (h : ∀ x, slots (f x) = n)
    (sep : String) (xs : List α) (d : Dialect) (start : Nat) :
    render d start (joined sep (xs.map f)) =
      sep.intercalate (xs.mapIdx fun i x ↦ render d (start + i * n) (f x)) := by
  rw [render_joined_eq_intercalate, renderEach_map h]

/-- Two templates or more are written with something between them. -/
theorem render_joined_ne_empty {sep : String} (hsep : sep ≠ "") (d : Dialect) (start : Nat)
    (t u : Template) (ts : List Template) : render d start (joined sep (t :: u :: ts)) ≠ "" := by
  rw [joined, render_append]
  intro h
  have hrest := (String.append_eq_empty_iff.mp h).2
  exact hsep (String.append_eq_empty_iff.mp hrest).1

/-- Without slots, it does not matter how many parameters come before a template. -/
theorem render_of_slots_eq_zero {t : Template} (h : slots t = 0) (d : Dialect) (start : Nat) :
    render d start t = render d 0 t := by
  induction t generalizing start with
  | nil => rfl
  | cons x t ih =>
    rw [slots_cons] at h
    have hx : x.render d start = x.render d 0 := by
      cases x with
      | slot n => simp at h
      | text s | field n | returned n | report e => rfl
    have ht : slots t = 0 := Nat.eq_zero_of_add_eq_zero_left h
    rw [render, render, hx, ih ht, ih ht (0 + _)]

/-- A single step does to a page what is told by its text, its name and its event. -/
theorem printer_piece_apply (x : Piece) (s : Setting) (p : Page) :
    x.printer s p =
      ⟨p.text ++ x.render s.dialect p.tally.paramCount, count [x] p.tally,
        p.events ++ x.events⟩ := by
  cases x with
  | text t => simp [Piece.printer, Printer.text, count, Name.present]
  | slot n =>
    simp [Piece.printer, Printer.slot, Tally.param, count, Name.present, Name.commaList_cons]
  | field n =>
    cases hn : n.isEmpty with
    | false =>
      simp [Piece.printer, Printer.field, Tally.field, hn, count, Name.present, Name.commaList_cons]
    | true =>
      have ht : n.text = "" := by simpa [Name.isEmpty] using hn
      simp [Piece.printer, Printer.field, Tally.field, hn, ht, count, Name.present,
        Name.commaList_cons]
  | returned n =>
    simp [Piece.printer, Printer.returned, Tally.returned, count, Name.present, Name.commaList_cons]
  | report e => simp [Piece.printer, Printer.report, count, Name.present]

/-- What a template does to a page. -/
theorem printer_apply (t : Template) (s : Setting) (p : Page) :
    t.printer s p =
      ⟨p.text ++ t.render s.dialect p.tally.paramCount, t.count p.tally,
        p.events ++ t.events⟩ := by
  induction t generalizing p with
  | nil => simp [printer, Printer.concat, Printer.nothing, render, count, Name.present]
  | cons x t ih =>
    have hstep : printer (x :: t) s p = printer t s (x.printer s p) := rfl
    have hcount : count (x :: t) p.tally = count t (count [x] p.tally) :=
      count_append [x] t p.tally
    rw [hstep, printer_piece_apply, ih, render, hcount, events_cons, String.append_assoc,
      List.append_assoc]
    rfl

end Template

end SqlStatement
