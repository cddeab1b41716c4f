import SqlStatement.Proofs.Numbering

/-!
# Sub-queries and queries of their own

A query is written inside another statement as it would be written by itself, but for the ordinals
of its parameters, which go on behind those that come before it (`Select.subQuery_eq_shifted`).  By
itself it has fields besides, and these leave no trace in its text: what is left of its template
without them is the template that it has inside (`Select.bare_template_standalone`).
-/

namespace SqlStatement

/-! ## Texts and slots -/

/-- A step that puts text or a parameter on the page. -/
def Piece.isBare : Piece → Bool
  | text _ | slot _ => true
  | field _ | returned _ | report _ => false

namespace Template

/-- The texts and slots of a template. -/
def bare (t : Template) : Template := t.filter Piece.isBare

@[simp] theorem bare_append (t u : Template) : bare (t ++ u) = t.bare ++ u.bare :=
  List.filter_append t u

/-- The texts between joined templates are kept. -/
theorem bare_joined (sep : String) (ts : List Template) :
    bare (joined sep ts) = joined sep (ts.map bare) := by
  induction ts with
  | nil => rfl
  | cons t r ih =>
    cases r with
    | nil => rfl
    | cons u r =>
      rw [joined, bare_append]
      exact congrArg (t.bare ++ .text sep :: ·) ih

/-- A template without fields, returned columns and events is nothing but texts and slots. -/
theorem Plain.bare_eq {t : Template} (h : Plain t) : t.bare = t := by
  refine List.filter_eq_self.mpr fun x hx ↦ ?_
  obtain ⟨hf, hr, he⟩ := h x hx
  cases x with
  | text s => rfl
  | slot n => rfl
  | field n => cases hf
  | returned n => cases hr
  | report e => cases he

/-- Texts and slots are all that makes up the text of a template. -/
@[simp] theorem gapped_bare (t : Template) : t.bare.gapped = t.gapped := by
  induction t with
  | nil => rfl
  | cons x t ih =>
    cases x with
    | text s => exact congrArg (Gapped.prepend s) ih
    | slot n => exact congrArg Gapped.prependGap ih
    | field n => exact ih
    | returned n => exact ih
    | report e => exact ih

/-- Slots are all that is credited. -/
@[simp] theorem credits_bare (t : Template) : t.bare.credits = t.credits := by
  induction t with
  | nil => rfl
  | cons x t ih =>
    cases x with
    | slot n => exact congrArg (n :: ·) ih
    | text s => exact ih
    | field n => exact ih
    | returned n => exact ih
    | report e => exact ih

end Template

/-! ## A query by itself -/

/-- The query as a statement of its own in a dialect, without the number of all rows. -/
def Select.standalone (d : Dialect) (q : Select) : Select :=
  { q with dialect := d, counted := false }

/-- In a sub-query, a selected item has the texts and slots that it has in a whole statement. -/
theorem SelectItem.bare_template (i : SelectItem) : (i.template false).bare = i.template true := by
  cases i with
  | column name =>
    rw [SelectItem.template, SelectItem.template]
    rfl
  | sub query label =>
    have hplain := query.writesNested.2.bracketed.append (Template.plain_text (Layout.label label))
    rw [SelectItem.template, SelectItem.template, hplain.bare_eq]

/-- A query by itself has the texts and slots that it has inside another statement. -/
theorem Select.bare_template_standalone (d : Dialect) (q : Select) :
    ((q.standalone d).template false).bare = q.template true := by
  have hfilter : q.filter.spacedTemplate.bare = q.filter.spacedTemplate :=
    (Where.spaced_writes (s := ⟨d, true⟩) fun q' _ ↦ q'.writesNested).2.bare_eq
  have hitems : (q.items.map fun i ↦ i.template false).map Template.bare =
      q.items.map fun i ↦ i.template true := by
    rw [List.map_map]
    exact List.map_congr_left fun i _ ↦ i.bare_template
  rw [Select.template_eq, Select.template_eq]
  show (if q.items.isEmpty then _ else _ : Template).bare = _
  split
  · rfl
  · simp only [Template.query, Template.bare_append, Template.bare_joined]
    show _ ++ Template.joined ", " (List.map _ (q.items.map fun i ↦ i.template false)) ++ _ ++ _ ++
      q.filter.spacedTemplate.bare ++ _ = _
    rw [hitems, hfilter]
    rfl

/-- What a query answers by itself, told by the template that it has inside another statement. -/
theorem Select.build_standalone (d : Dialect) (q : Select) :
    let info := ((q.standalone d).build false).value
    info.sql = (q.template true).gapped.fill d.placeholder ∧
      info.paramCount = (q.template true).slots ∧
      info.paramFields = Name.commaList (q.template true).credits := by
  have hvalue : ((q.standalone d).build false).value = _ :=
    Kind.build_value .select (q.standalone d) false
  have hlack : Kind.lack .select (q.standalone d) =
      if q.items.isEmpty then some .nothingSelected else none := rfl
  rw [hlack] at hvalue
  by_cases hitems : q.items.isEmpty
  · have hnone : q.template true = [.text Diagnostic.nothingSelected.message] := by
      rw [Select.template_eq, if_pos hitems]
    rw [if_pos hitems] at hvalue
    rw [hvalue, hnone]
    exact ⟨rfl, rfl, rfl⟩
  · rw [if_neg hitems] at hvalue
    have hbare : ((q.standalone d).template false).bare = q.template true :=
      q.bare_template_standalone d
    rw [hvalue, ← hbare, Template.slots, Template.gapped_bare, Template.credits_bare]
    refine ⟨?_, rfl, rfl⟩
    show ((q.standalone d).template false).render d 0 ++ "" = _
    rw [Template.render_zero, String.append_empty]

/-! ## A query inside another statement -/

/-- The page behind a sub-query in round brackets, from the text of the sub-query and from what it
answers by itself. -/
def Page.behindSubQuery (p : Page) (text : String) (info : Info) : Page where
  text := p.text ++ "(" ++ text ++ ")"
  tally := { p.tally with
    paramCount := p.tally.paramCount + info.paramCount
    params := Listing.add p.tally.params info.paramFields }
  events := p.events

/-- A query inside another statement goes on with the page as it says by itself, its ordinals
shifted by the number of the parameters before it. -/
theorem Select.subQuery_apply (q : Select) (d : Dialect) (nested : Bool) (p : Page) :
    Printer.subQuery q.printer ⟨d, nested⟩ p =
      p.behindSubQuery
        ((q.template true).gapped.fill fun k ↦ d.placeholder (p.tally.paramCount + k))
        ((q.standalone d).build false).value := by
  obtain ⟨-, hcount, hfields⟩ := q.build_standalone d
  have hplain := q.writesNested.2
  have hevents : (q.template true).bracketed.events = [] := hplain.bracketed.events_eq_nil
  have htally : (q.template true).count p.tally = { p.tally with
      paramCount := p.tally.paramCount + ((q.standalone d).build false).value.paramCount
      params := Listing.add p.tally.params ((q.standalone d).build false).value.paramFields } := by
    rw [hcount, hfields, Template.count, hplain.fields_eq_nil, hplain.returnedColumns_eq_nil]
    simp [Name.present]
  rw [q.writesNested.subQuery_writes.apply, Template.render_bracketed, Template.count_bracketed,
    Template.render_eq_fill, hevents, htally]
  simp [Page.behindSubQuery, String.append_assoc]

/-- A sub-query is the query by itself with its ordinals shifted by the number of the parameters
before it. There is one text with gaps which the query by itself, in any dialect, fills with the
placeholders of the ordinals from 1 on, and inside another statement with those behind the
parameters of the page. The statement around it takes over the number and the list of its
parameters, as it answers them by itself, and nothing else. In place of a query that selects nothing
there is a text without gaps, whatever its conditions are. -/
theorem Select.subQuery_eq_shifted (q : Select) :
    ∃ text : Gapped, (q.items = [] → text = ⟨"no fields to select", []⟩) ∧
      ∀ d : Dialect,
        let info := ((q.standalone d).build false).value
        info.sql = text.fill d.placeholder ∧ info.paramCount = text.gaps ∧
          ∀ (nested : Bool) (p : Page),
            let shifted := text.fill fun k ↦ d.placeholder (p.tally.paramCount + k)
            Printer.subQuery q.printer ⟨d, nested⟩ p = p.behindSubQuery shifted info ∧
              (∀ label, (SelectItem.sub q label).printer ⟨d, nested⟩ p =
                let after := p.behindSubQuery shifted info
                { after with text := after.text ++ Layout.label label }) ∧
              ∀ field operator, (Condition.sub field operator q).printer ⟨d, nested⟩ p =
                let before := { p with text := p.text ++ field.text ++ operator.text }
                before.behindSubQuery shifted info := by
  refine ⟨(q.template true).gapped, ?_, fun d ↦ ?_⟩
  · intro hitems
    rw [Select.template_eq, hitems]
    rfl
  · intro info
    obtain ⟨hsql, hcount, -⟩ := q.build_standalone d
    refine ⟨hsql, hcount.trans (Template.gaps_gapped _).symm, fun nested p ↦ ⟨?_, ?_, ?_⟩⟩
    · exact q.subQuery_apply d nested p
    · intro label
      rw [SelectItem.printer, Printer.append_apply, Select.subQuery_apply]
      rfl
    · intro field operator
      rw [Condition.printer, Printer.append_apply, Select.subQuery_apply]
      rfl

/-- A query without columns takes no parameter behind three others, although there is one in its
conditions. -/
theorem Select.subQuery_eq_shifted_unselected :
    let q : Select := { Select.new default with
      filter := ⟨[⟨none, .and, [.compare .eq "owner" "?"]⟩], true⟩ }
    Printer.subQuery q.printer ⟨.ofEngine .postgres, true⟩ ⟨"id IN ", .startingAt 3, []⟩ =
      ⟨"id IN (no fields to select)", .startingAt 3, []⟩ := by
  intro q
  obtain ⟨text, hunselected, hq⟩ := q.subQuery_eq_shifted
  obtain ⟨-, -, hsub⟩ := hq (.ofEngine .postgres)
  have htext := hunselected rfl
  subst htext
  exact (hsub true ⟨"id IN ", .startingAt 3, []⟩).1

end SqlStatement
