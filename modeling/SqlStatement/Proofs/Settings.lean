import SqlStatement.Proofs.Filter
import SqlStatement.Proofs.Query.Hole

/-!
# Settings of nested queries

The dialect of a query, the number of all rows and whether the query changes no data concern a whole
statement.  In a query that is nested in another statement they may be set to anything, and no build
tells the difference, not even in its events (`Kind.build_put_settings`): a query with other
settings writes the same template inside another statement, and this template is all that is seen of
it (`Kind.template_plug_congr`).
-/

namespace SqlStatement

/-- The query with other settings. -/
def Select.withSettings (q : Select) (d : Dialect) (counted readOnly : Bool) : Select :=
  { q with dialect := d, counted := counted, readOnly := readOnly }

/-- The settings of a query do not show inside another statement. -/
theorem Select.template_withSettings (q : Select) (d : Dialect) (counted readOnly : Bool) :
    (q.withSettings d counted readOnly).template true = q.template true := by
  rw [Select.template_eq, Select.template_eq]
  rfl

namespace Kind

/-- The sub-queries of a builder, but not those inside them. -/
def subqueries : (k : Kind) → k.Builder → List Select
  | select => Select.subqueries
  | insert => fun _ ↦ []
  | update => fun u ↦ (update.filter u).subqueries
  | delete => fun x ↦ (delete.filter x).subqueries
  | proc => fun p ↦ (proc.filter p).subqueries

/-- A query is nested in the statement of a builder, at any depth. -/
def Nests (k : Kind) (b : k.Builder) (s : Select) : Prop := ∃ q ∈ k.subqueries b, s.Nested q

/-- A builder without one of its sub-queries. An insertion has none. -/
def Hole : Kind → Type
  | select => Select.Hole
  | insert => Empty
  | update => Update × Where.Hole
  | delete => Delete × Where.Hole
  | proc => Proc × Where.Hole

/-- The builder with a sub-query in the hole. -/
def plug : (k : Kind) → k.Hole → Select → k.Builder
  | select => Select.Hole.plug
  | insert => fun h ↦ nomatch h
  | update => fun h s ↦ update.setFilter (h.2.plug s) h.1
  | delete => fun h s ↦ delete.setFilter (h.2.plug s) h.1
  | proc => fun h s ↦ proc.setFilter (h.2.plug s) h.1

/-- A place for a query in the statement of a builder: a hole of the builder and holes one inside
the other in the query that is there. -/
def Place (k : Kind) : Type := k.Hole × List Select.Hole

/-- The builder with a query in a place. -/
def put (k : Kind) (place : k.Place) (s : Select) : k.Builder :=
  k.plug place.1 (Select.plugAll place.2 s)

variable {k : Kind}

/-- The sub-queries of a clause are those that come out of a hole, if the clause is put into the
builder again. -/
theorem mem_subqueries_filter_iff (hk : k ≠ .insert) {b : k.Builder} {s : Select} :
    s ∈ (k.filter b).subqueries ↔
      ∃ h : k.Builder × Where.Hole, k.setFilter (h.2.plug s) h.1 = b := by
  rw [Where.mem_subqueries_iff]
  constructor
  · rintro ⟨h, hw⟩
    exact ⟨(b, h), by rw [hw, setFilter_filter]⟩
  · rintro ⟨⟨b', h⟩, rfl⟩
    exact ⟨h, (filter_setFilter hk _ _).symm⟩

/-- The sub-queries of a builder are those that come out of a hole. -/
theorem mem_subqueries_iff {b : k.Builder} {s : Select} :
    s ∈ k.subqueries b ↔ ∃ h : k.Hole, k.plug h s = b := by
  cases k with
  | select => exact Select.mem_subqueries_iff
  | insert =>
    constructor
    · intro h
      cases h
    · rintro ⟨h, -⟩
      cases h
  | update => exact mem_subqueries_filter_iff (k := .update) nofun
  | delete => exact mem_subqueries_filter_iff (k := .delete) nofun
  | proc => exact mem_subqueries_filter_iff (k := .proc) nofun

/-- The queries that are nested in a builder's statement are those that have a place in it. -/
theorem nests_iff {b : k.Builder} {s : Select} : k.Nests b s ↔ ∃ place, k.put place s = b := by
  constructor
  · rintro ⟨q, hq, hs⟩
    obtain ⟨h, rfl⟩ := mem_subqueries_iff.mp hq
    obtain ⟨holes, rfl⟩ := hs.exists_holes
    exact ⟨(h, holes), rfl⟩
  · rintro ⟨⟨h, holes⟩, rfl⟩
    refine ⟨Select.plugAll holes s, mem_subqueries_iff.mpr ⟨h, rfl⟩, ?_⟩
    induction holes with
    | nil => exact .self
    | cons hole holes ih => exact .inside (Select.mem_subqueries_iff.mpr ⟨hole, rfl⟩) ih

/-! ## What is seen of a query in a place -/

/-- What is said of a whole statement does not depend on the query in a hole. -/
theorem plug_frame (h : k.Hole) (s s' : Select) :
    k.dialect (k.plug h s') = k.dialect (k.plug h s) ∧ k.lack (k.plug h s') = k.lack (k.plug h s) ∧
      k.readOnly (k.plug h s') = k.readOnly (k.plug h s) ∧
      k.reportBuilt (k.plug h s') = k.reportBuilt (k.plug h s) := by
  cases k with
  | select =>
    cases h with
    | item q label behind =>
      have hlack : ∀ s, Select.lack (Select.Hole.plug (.item q label behind) s) = none := by
        intro s
        simp [Select.lack, Select.Hole.plug]
      exact ⟨rfl, (hlack s').trans (hlack s).symm, rfl, rfl⟩
    | condition q filter => exact ⟨rfl, rfl, rfl, rfl⟩
  | insert => cases h
  | update | delete | proc => exact ⟨rfl, rfl, rfl, rfl⟩

/-- A statement shows of its clause no more than the template of this. -/
theorem template_setFilter_congr {w w' : Where} (hw : w'.spacedTemplate = w.spacedTemplate)
    (b : k.Builder) :
    k.template (k.setFilter w' b) (k.dialect b).engine =
      k.template (k.setFilter w b) (k.dialect b).engine := by
  obtain ⟨front, ending, -, htemplate⟩ := k.template_setFilter b
  rw [htemplate, htemplate, hw]

/-- A statement shows of a query in a hole no more than its template. -/
theorem template_plug_congr (h : k.Hole) {s s' : Select} (hs : s'.template true = s.template true) :
    k.template (k.plug h s') (k.dialect (k.plug h s)).engine =
      k.template (k.plug h s) (k.dialect (k.plug h s)).engine := by
  cases k with
  | select => exact Select.Hole.template_plug_congr h hs false
  | insert => cases h
  | update =>
    exact template_setFilter_congr (k := .update) (h.2.spacedTemplate_plug_congr hs) h.1
  | delete =>
    exact template_setFilter_congr (k := .delete) (h.2.spacedTemplate_plug_congr hs) h.1
  | proc =>
    exact template_setFilter_congr (k := .proc) (h.2.spacedTemplate_plug_congr hs) h.1

/-- A clause by itself shows of a query in a hole no more than its template. -/
theorem whereClause_plug_congr (h : k.Hole) {s s' : Select}
    (hs : s'.template true = s.template true) :
    k.whereClause? (k.plug h s') = k.whereClause? (k.plug h s) := by
  cases k with
  | select =>
    cases h with
    | item q label behind => rfl
    | condition q filter =>
      show some ((filter.plug s').printer.alone q.dialect).text =
        some ((filter.plug s).printer.alone q.dialect).text
      rw [Where.text_alone, Where.text_alone, filter.template_plug_congr hs]
  | insert => cases h
  | update | delete | proc => rfl

/-- Builders whose statements have the same template build the same if they agree in what is said of
the whole statement. -/
theorem build_congr {b b' : k.Builder}
    (htemplate : k.template b' (k.dialect b).engine = k.template b (k.dialect b).engine)
    (hdialect : k.dialect b' = k.dialect b) (hlack : k.lack b' = k.lack b)
    (hreadOnly : k.readOnly b' = k.readOnly b) (hreport : k.reportBuilt b' = k.reportBuilt b)
    (terminate : Bool) : k.build b' terminate = k.build b terminate := by
  have hpage : (k.printer b').alone (k.dialect b) = (k.printer b).alone (k.dialect b) := by
    rw [Printer.alone, Printer.alone, (k.printer_writes b' _).apply, (k.printer_writes b _).apply,
      htemplate]
  rw [build_eq, build_eq, hdialect, hlack, hreadOnly, hreport]
  unfold Printer.build
  rw [hpage]

/-- Whether a statement is said to change no data does not depend on the query in a hole. -/
theorem readOnly_build_plug (h : k.Hole) (s s' : Select) (terminate : Bool) :
    (k.build (k.plug h s') terminate).value.readOnly =
      (k.build (k.plug h s) terminate).value.readOnly := by
  obtain ⟨-, hlack, hreadOnly, -⟩ := plug_frame h s s'
  rw [build_value, build_value, hlack, hreadOnly]
  cases k.lack (k.plug h s) <;> rfl

/-- A nested query has a place in the statement around it, in which its settings may be set to
anything: the build answers and reports the same, and so does the clause by itself. Whether the
statement is said to change no data does not even depend on what query is in the place. -/
theorem build_put_settings (k : Kind) (s : Select) :
    (∀ b, k.Nests b s ↔ ∃ place, k.put place s = b) ∧
    ∀ (place : k.Place) (d : Dialect) (counted readOnly : Bool),
      let b := k.put place s
      let b' := k.put place (s.withSettings d counted readOnly)
      (∀ terminate, k.build b' terminate = k.build b terminate) ∧
      k.whereClause? b' = k.whereClause? b ∧
      ∀ s' terminate,
        (k.build (k.put place s') terminate).value.readOnly =
          (k.build b terminate).value.readOnly := by
  refine ⟨fun b ↦ nests_iff, fun place d counted readOnly ↦ ?_⟩
  intro b b'
  -- the templates are equal inside all the holes, and only the outermost hole is in the builder
  have hs : (Select.plugAll place.2 (s.withSettings d counted readOnly)).template true =
      (Select.plugAll place.2 s).template true :=
    Select.template_plugAll_congr place.2 (s.template_withSettings d counted readOnly)
  obtain ⟨hdialect, hlack, hreadOnly, hreport⟩ := plug_frame place.1 (Select.plugAll place.2 s)
    (Select.plugAll place.2 (s.withSettings d counted readOnly))
  refine ⟨fun terminate ↦ ?_, whereClause_plug_congr place.1 hs, fun s' terminate ↦ ?_⟩
  · exact build_congr (template_plug_congr place.1 hs) hdialect hlack hreadOnly hreport terminate
  · exact readOnly_build_plug place.1 _ _ terminate

end Kind

end SqlStatement
