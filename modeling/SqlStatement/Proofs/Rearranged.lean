import SqlStatement.Proofs.Settings

/-!
# The order of conditions in a group

The conditions of a group are rendered in the order of their fields, and those of one field in the
order in which they were given (`Group.pairwise_arranged`, `Group.filter_arranged`).  So it does not
matter how conditions of different fields are mixed (`Group.Rearranged.template_eq`): in any group
of any clause, in a builder or in a query that is nested in it, they may be put in another such
order, and the build answers the same (`Kind.build_rearranged`).
-/

namespace SqlStatement

/-! ## The order in which conditions are rendered -/

namespace Group

variable (g : Group)

/-- The conditions of a group are sorted by their fields. -/
theorem arranged_eq : g.arranged = g.conditions.mergeSort fun a b ↦ a.field ≤ b.field := by
  have hsort := List.map_mergeSort (l := g.conditions) (f := fun c : Condition ↦ (c.field, c))
    (r := fun a b ↦ decide (a.field ≤ b.field)) (s := fun a b ↦ decide (a.1 ≤ b.1))
    fun _ _ _ _ ↦ rfl
  rw [arranged, Layout.arranged, ← hsort, List.map_map]
  exact List.map_id _

/-- The test by which conditions are sorted is transitive. -/
theorem decide_field_le_trans (a b c : Condition) (hab : decide (a.field ≤ b.field) = true)
    (hbc : decide (b.field ≤ c.field) = true) : decide (a.field ≤ c.field) = true :=
  decide_eq_true (Std.le_trans (of_decide_eq_true hab) (of_decide_eq_true hbc))

/-- The test by which conditions are sorted is total. -/
theorem decide_field_le_total (a b : Condition) :
    (decide (a.field ≤ b.field) || decide (b.field ≤ a.field)) = true := by
  rw [Bool.or_eq_true, decide_eq_true_eq, decide_eq_true_eq]
  exact Std.le_total

/-- The fields of the conditions ascend. -/
theorem pairwise_arranged : g.arranged.Pairwise fun a b ↦ a.field ≤ b.field := by
  have hsorted := List.pairwise_mergeSort decide_field_le_trans decide_field_le_total g.conditions
  rw [arranged_eq]
  exact hsorted.imp of_decide_eq_true

/-- The conditions of one field are in the order in which they were given. -/
theorem filter_arranged (n : Name) :
    g.arranged.filter (·.field = n) = g.conditions.filter (·.field = n) := by
  have hequal : (g.conditions.filter (·.field = n)).Pairwise
      fun a b ↦ decide (a.field ≤ b.field) = true := by
    refine List.Pairwise.imp_of_mem (R := fun _ _ ↦ True) (fun {a b} ha hb _ ↦ ?_)
      (List.pairwise_of_forall fun _ _ ↦ trivial)
    have ha : a.field = n := of_decide_eq_true (List.mem_filter.mp ha).2
    have hb : b.field = n := of_decide_eq_true (List.mem_filter.mp hb).2
    rw [ha, hb]
    exact decide_eq_true (Std.le_refl n)
  -- They are a part of the list that ascends already, and sorting does not take such a part apart.
  have hsublist : (g.conditions.filter (·.field = n)).Sublist g.arranged := by
    rw [arranged_eq]
    exact List.sublist_mergeSort decide_field_le_trans decide_field_le_total hequal
      List.filter_sublist
  have hfiltered := hsublist.filter (·.field = n)
  simp only [List.filter_filter, Bool.and_self] at hfiltered
  exact (hfiltered.eq_of_length (g.arranged_perm.filter _).length_eq.symm).symm

end Group

/-- The lists have the same conditions of each field, in the same order. -/
def Condition.Rearranged (cs cs' : List Condition) : Prop :=
  ∀ n, cs.filter (·.field = n) = cs'.filter (·.field = n)

namespace Condition.Rearranged

variable {cs cs' : List Condition}

theorem refl (cs : List Condition) : Rearranged cs cs := fun _ ↦ rfl

/-- The lists have the same conditions. -/
theorem mem_iff (h : Rearranged cs cs') {c : Condition} : c ∈ cs ↔ c ∈ cs' := by
  have hfield : c ∈ cs.filter (·.field = c.field) ↔ c ∈ cs'.filter (·.field = c.field) := by
    rw [h c.field]
  simpa using hfield

/-- In front of the same condition, the others are in such an order as well. -/
theorem tail {c : Condition} (h : Rearranged (c :: cs) (c :: cs')) : Rearranged cs cs' := by
  intro n
  have hn := h n
  by_cases hc : c.field = n
  · rw [List.filter_cons_of_pos (by simpa using hc), List.filter_cons_of_pos (by simpa using hc)]
      at hn
    exact List.tail_eq_of_cons_eq hn
  · rwa [List.filter_cons_of_neg (by simpa using hc), List.filter_cons_of_neg (by simpa using hc)]
      at hn

/-- Two conditions of different fields may change places. -/
theorem swap {a b : Condition} (h : a.field ≠ b.field) (cs : List Condition) :
    Rearranged (a :: b :: cs) (b :: a :: cs) := by
  intro n
  by_cases ha : a.field = n
  · have hb : b.field ≠ n := fun hb ↦ h (ha.trans hb.symm)
    simp [ha, hb]
  · simp [List.filter_cons, ha]

/-- If the fields of the conditions ascend, the order of the conditions of each field tells the
order of all. -/
theorem eq_of_pairwise (h : Rearranged cs cs') (hcs : cs.Pairwise fun a b ↦ a.field ≤ b.field)
    (hcs' : cs'.Pairwise fun a b ↦ a.field ≤ b.field) : cs = cs' := by
  induction cs generalizing cs' with
  | nil =>
    refine (List.eq_nil_iff_forall_not_mem.mpr fun c hc ↦ ?_).symm
    cases h.mem_iff.mpr hc
  | cons a as ih =>
    cases cs' with
    | nil => cases h.mem_iff.mp List.mem_cons_self
    | cons b bs =>
      have hle : ∀ {c : Condition} {cs : List Condition},
          (c :: cs).Pairwise (fun a b ↦ a.field ≤ b.field) → ∀ d ∈ c :: cs, c.field ≤ d.field := by
        intro c cs hcs d hd
        rcases List.mem_cons.mp hd with rfl | hd
        · exact Std.le_refl _
        · exact List.rel_of_pairwise_cons hcs hd
      -- Each of the two lists has the first condition of the other, so their fields are the same.
      have hfield : b.field = a.field := Std.le_antisymm
        (hle hcs' a (h.mem_iff.mp List.mem_cons_self))
        (hle hcs b (h.mem_iff.mpr List.mem_cons_self))
      have hfirst := h a.field
      rw [List.filter_cons_of_pos (by simp), List.filter_cons_of_pos (by simpa using hfield)]
        at hfirst
      obtain rfl : a = b := List.head_eq_of_cons_eq hfirst
      rw [ih h.tail hcs.of_cons hcs'.of_cons]

end Condition.Rearranged

/-! ## Groups and clauses -/

/-- The groups are the same but for the order of their conditions. -/
structure Group.Rearranged (g g' : Group) : Prop where
  join : g.join = g'.join
  inner : g.inner = g'.inner
  conditions : Condition.Rearranged g.conditions g'.conditions

namespace Group.Rearranged

variable {g g' : Group}

theorem refl (g : Group) : Rearranged g g := ⟨rfl, rfl, .refl _⟩

/-- The conditions are rendered in the same order. -/
theorem arranged_eq (h : Rearranged g g') : g.arranged = g'.arranged := by
  have harranged : Condition.Rearranged g.arranged g'.arranged := fun n ↦ by
    rw [g.filter_arranged, g'.filter_arranged, h.conditions n]
  exact harranged.eq_of_pairwise g.pairwise_arranged g'.pairwise_arranged

theorem template_eq (h : Rearranged g g') : g.template = g'.template := by
  rw [Group.template_eq, Group.template_eq, h.arranged_eq, h.join, h.inner]

end Group.Rearranged

/-- Lists of conditions in another order are empty together. -/
theorem Condition.Rearranged.isEmpty_eq {cs cs' : List Condition} (h : Rearranged cs cs') :
    cs.isEmpty = cs'.isEmpty := by
  rw [Bool.eq_iff_iff, List.isEmpty_iff, List.isEmpty_iff, List.eq_nil_iff_forall_not_mem,
    List.eq_nil_iff_forall_not_mem]
  exact forall_congr' fun c ↦ not_congr h.mem_iff

/-- The clauses are the same but for the order of conditions in their groups. -/
structure Where.Rearranged (w w' : Where) : Prop where
  groups : List.Forall₂ Group.Rearranged w.groups w'.groups
  opened : w.opened = w'.opened

/-- The calls add the same conditions to a clause in another order. -/
structure Where.Call.Rearranged (f f' : Where.Call) : Prop where
  opens : f.opens = f'.opens
  join : f.join = f'.join
  inner : f.inner = f'.inner
  conditions : Condition.Rearranged f.conditions f'.conditions

theorem Where.Call.Rearranged.refl (f : Where.Call) : Rearranged f f := ⟨rfl, rfl, rfl, .refl _⟩

namespace Where.Rearranged

variable {w w' : Where}

theorem refl (w : Where) : Rearranged w w := ⟨List.forall₂_same.mpr fun g _ ↦ .refl g, rfl⟩

theorem isEmpty_eq (h : Rearranged w w') : w.groups.isEmpty = w'.groups.isEmpty := by
  rw [Bool.eq_iff_iff, List.isEmpty_iff_length_eq_zero, List.isEmpty_iff_length_eq_zero,
    h.groups.length_eq]

theorem template_eq (h : Rearranged w w') : w.template = w'.template := by
  have hgroups : w.groups.map Group.template = w'.groups.map Group.template := by
    rw [← List.forall₂_eq_eq_eq, List.forall₂_map_left_iff, List.forall₂_map_right_iff]
    exact h.groups.imp fun _ _ hg ↦ hg.template_eq
  obtain ⟨groups, opened⟩ := w
  obtain ⟨groups', opened'⟩ := w'
  rw [template, template, groupTemplates_eq_map, groupTemplates_eq_map, hgroups]

theorem spacedTemplate_eq (h : Rearranged w w') : w.spacedTemplate = w'.spacedTemplate := by
  rw [spacedTemplate, spacedTemplate, Template.spaced, Template.spaced, h.isEmpty_eq,
    h.template_eq]

/-- A call with the same conditions in another order does the same but for their order. -/
theorem next {f f' : Call} (h : Rearranged w w') (hf : f.Rearranged f') :
    (w.next f).Rearranged (w'.next f') := by
  have hpush : List.Forall₂ Group.Rearranged (w.push f.join f.inner f.conditions).groups
      (w'.push f'.join f'.inner f'.conditions).groups := by
    rw [push, push, hf.conditions.isEmpty_eq, h.isEmpty_eq, hf.join, hf.inner]
    split
    · exact h.groups
    · exact List.rel_append h.groups (.cons ⟨rfl, rfl, hf.conditions⟩ .nil)
  rw [next_eq, next_eq, h.opened, hf.opens]
  split
  · exact ⟨hpush, rfl⟩
  · exact h

/-- Calls with the same conditions in another order do the same but for their order. -/
theorem foldl {fs fs' : List Call} (h : Rearranged w w')
    (hfs : List.Forall₂ Call.Rearranged fs fs') :
    (fs.foldl Where.next w).Rearranged (fs'.foldl Where.next w') := by
  induction hfs generalizing w w' with
  | nil => exact h
  | cons hf _ ih => exact ih (h.next hf)

end Where.Rearranged

/-- A query shows nothing else of its clause. -/
theorem Select.template_rearranged {w w' : Where} (h : w.Rearranged w') (q : Select)
    (nested : Bool) :
    Select.template { q with filter := w' } nested =
      Select.template { q with filter := w } nested := by
  rw [Select.template_eq, Select.template_eq, h.spacedTemplate_eq]

/-! ## Groups in the statement of a builder -/

/-- A clause without the conditions of one of its groups. -/
structure Where.GroupHole where
  groupsBefore : List Group
  join : Option Conjunction
  inner : Conjunction
  groupsBehind : List Group
  opened : Bool

namespace Where.GroupHole

/-- The group with conditions. -/
def group (h : GroupHole) (cs : List Condition) : Group := ⟨h.join, h.inner, cs⟩

/-- The clause with conditions in the group. -/
def plug (h : GroupHole) (cs : List Condition) : Where where
  groups := h.groupsBefore ++ h.group cs :: h.groupsBehind
  opened := h.opened

/-- The groups of a clause are those that come out of a hole. -/
theorem exists_plug {w : Where} {g : Group} (hg : g ∈ w.groups) :
    ∃ h : GroupHole, h.group g.conditions = g ∧ h.plug g.conditions = w := by
  obtain ⟨groups, opened⟩ := w
  obtain ⟨join, inner, conditions⟩ := g
  obtain ⟨groupsBefore, groupsBehind, hgroups⟩ := List.append_of_mem hg
  have hgroups : groups = _ := hgroups
  refine ⟨⟨groupsBefore, join, inner, groupsBehind, opened⟩, rfl, ?_⟩
  rw [hgroups]
  rfl

/-- Conditions in another order make the same clause but for their order. -/
theorem rearranged_plug (h : GroupHole) {cs cs' : List Condition}
    (hcs : Condition.Rearranged cs cs') : (h.plug cs).Rearranged (h.plug cs') := by
  have hrefl : ∀ gs : List Group, List.Forall₂ Group.Rearranged gs gs :=
    fun gs ↦ List.forall₂_same.mpr fun g _ ↦ .refl g
  exact ⟨List.rel_append (hrefl _) (.cons ⟨rfl, rfl, hcs⟩ (hrefl _)), rfl⟩

end Where.GroupHole

namespace Kind

/-- A group is in the clause of a builder, or in that of a query nested in its statement. -/
def HasGroup (k : Kind) (b : k.Builder) (g : Group) : Prop :=
  g ∈ (k.filter b).groups ∨ ∃ q, k.Nests b q ∧ g ∈ q.filter.groups

/-- The place of a group in the statement of a builder. -/
inductive GroupPlace (k : Kind)
  /-- The group is in the clause of the builder. -/
  | own (b : k.Builder) (hole : Where.GroupHole)
  /-- The group is in the clause of a query that has a place in the statement. -/
  | nested (place : k.Place) (q : Select) (hole : Where.GroupHole)

/-- The group with conditions in a place. -/
def GroupPlace.group {k : Kind} : k.GroupPlace → List Condition → Group
  | own _ hole | nested _ _ hole => hole.group

/-- The builder with conditions in the group of a place. -/
def putGroup (k : Kind) : k.GroupPlace → List Condition → k.Builder
  | .own b hole, cs => k.setFilter (hole.plug cs) b
  | .nested place q hole, cs => k.put place { q with filter := hole.plug cs }

variable {k : Kind}

/-- Every group of a statement has a place in it. -/
theorem exists_groupPlace {b : k.Builder} {g : Group} (h : k.HasGroup b g) :
    ∃ place : k.GroupPlace, place.group g.conditions = g ∧ k.putGroup place g.conditions = b := by
  rcases h with hg | ⟨q, hq, hg⟩
  · obtain ⟨hole, hgroup, hfilter⟩ := Where.GroupHole.exists_plug hg
    refine ⟨.own b hole, hgroup, ?_⟩
    rw [putGroup, hfilter, setFilter_filter]
  · obtain ⟨place, hput⟩ := nests_iff.mp hq
    obtain ⟨hole, hgroup, hfilter⟩ := Where.GroupHole.exists_plug hg
    refine ⟨.nested place q hole, hgroup, ?_⟩
    rw [putGroup, hfilter, ← hput]
    cases q
    rfl

/-! ## Builds -/

/-- What is said of a whole statement does not depend on its clause. -/
theorem setFilter_frame (w : Where) (b : k.Builder) :
    k.lack (k.setFilter w b) = k.lack b ∧ k.readOnly (k.setFilter w b) = k.readOnly b ∧
      k.reportBuilt (k.setFilter w b) = k.reportBuilt b := by
  cases k <;> exact ⟨rfl, rfl, rfl⟩

/-- A build shows nothing of the order of conditions of different fields in a clause. -/
theorem build_setFilter_rearranged {w w' : Where} (h : w.Rearranged w') (b : k.Builder)
    (terminate : Bool) :
    k.build (k.setFilter w' b) terminate = k.build (k.setFilter w b) terminate := by
  obtain ⟨hlack, hreadOnly, hreport⟩ := setFilter_frame w b
  obtain ⟨hlack', hreadOnly', hreport'⟩ := setFilter_frame w' b
  refine build_congr ?_ ?_ (hlack'.trans hlack.symm) (hreadOnly'.trans hreadOnly.symm)
    (hreport'.trans hreport.symm) terminate
  · rw [dialect_setFilter]
    exact template_setFilter_congr h.spacedTemplate_eq.symm b
  · rw [dialect_setFilter, dialect_setFilter]

/-- A clause by itself shows nothing of it either. -/
theorem whereClause_setFilter_rearranged {w w' : Where} (h : w.Rearranged w') (b : k.Builder) :
    k.whereClause? (k.setFilter w' b) = k.whereClause? (k.setFilter w b) := by
  cases k with
  | select =>
    show some (w'.printer.alone (Select.dialect b)).text =
      some (w.printer.alone (Select.dialect b)).text
    rw [Where.text_alone, Where.text_alone, h.template_eq]
  | insert | update | delete | proc => rfl

/-- A build shows of a query in a place no more than its template. -/
theorem build_put_congr {s s' : Select} (hs : s'.template true = s.template true)
    (place : k.Place) :
    (∀ terminate, k.build (k.put place s') terminate = k.build (k.put place s) terminate) ∧
      k.whereClause? (k.put place s') = k.whereClause? (k.put place s) := by
  have hplugged := Select.template_plugAll_congr place.2 hs
  obtain ⟨hdialect, hlack, hreadOnly, hreport⟩ :=
    plug_frame place.1 (Select.plugAll place.2 s) (Select.plugAll place.2 s')
  exact ⟨build_congr (template_plug_congr place.1 hplugged) hdialect hlack hreadOnly hreport,
    whereClause_plug_congr place.1 hplugged⟩

/-- A build shows nothing of the order of conditions of different fields in a group, wherever this
is. -/
theorem build_putGroup_congr {cs cs' : List Condition} (h : Condition.Rearranged cs cs')
    (place : k.GroupPlace) :
    (∀ terminate,
        k.build (k.putGroup place cs') terminate = k.build (k.putGroup place cs) terminate) ∧
      k.whereClause? (k.putGroup place cs') = k.whereClause? (k.putGroup place cs) := by
  cases place with
  | own b hole =>
    have hfilter := hole.rearranged_plug h
    exact ⟨build_setFilter_rearranged hfilter b, whereClause_setFilter_rearranged hfilter b⟩
  | nested place q hole =>
    exact build_put_congr (q.template_rearranged (hole.rearranged_plug h) true) place

/-! ## Calls -/

/-- The calls are the same, or they add the same conditions to the clause in another order. -/
inductive Rearranged (k : Kind) : k.Call → k.Call → Prop
  | same (c : k.Call) : Rearranged k c c
  | filter {c c' : k.Call} {f f' : Where.Call} (hc : k.filterCall? c = some f)
      (hc' : k.filterCall? c' = some f') (h : f.Rearranged f') : Rearranged k c c'

theorem family_of_filterCall_some {c : k.Call} {f : Where.Call} (h : k.filterCall? c = some f) :
    k.family c = .filter := by
  cases k with
  | insert => cases h
  | select | update | delete | proc =>
    cases c with
    | filter call => rfl
    | _ => cases h

/-- The clause belongs to its own family alone. -/
theorem cut_setFilter {f : Family} (hf : f ≠ .filter) (w : Where) (b : k.Builder) :
    k.cut f (k.setFilter w b) = k.cut f b := by
  cases k with
  | select =>
    simp only [cut, setFilter, Select.cut, if_neg hf]
    rfl
  | insert => rfl
  | update =>
    simp only [cut, setFilter, Update.cut, if_neg hf]
    rfl
  | delete =>
    simp only [cut, setFilter, Delete.cut, if_neg hf]
    rfl
  | proc =>
    simp only [cut, setFilter, Proc.cut, if_neg hf]
    rfl

/-- Of a builder that is cut down to the clause, the clause is left. -/
theorem cut_filter_eq (b : k.Builder) :
    k.cut .filter b = k.setFilter (k.filter b) (k.new (k.dialect b)) := by
  cases k <;> rfl

variable {calls calls' : List k.Call}

/-- Other calls than those of the clause are the same. -/
theorem ofFamily_rearranged (h : List.Forall₂ k.Rearranged calls calls') {f : Family}
    (hf : f ≠ .filter) : k.ofFamily f calls = k.ofFamily f calls' := by
  induction h with
  | nil => rfl
  | @cons c c' cs cs' hc _ ih =>
    have ih : cs.filter (fun c ↦ k.family c = f) = cs'.filter (fun c ↦ k.family c = f) := ih
    rw [ofFamily, ofFamily, List.filter_cons, List.filter_cons, ih]
    cases hc with
    | same => rfl
    | filter hc hc' _ =>
      rw [family_of_filterCall_some hc, family_of_filterCall_some hc']
      simp [hf.symm]

/-- The calls of the clause add the same conditions. -/
theorem filterCalls_rearranged (h : List.Forall₂ k.Rearranged calls calls') :
    List.Forall₂ Where.Call.Rearranged (calls.filterMap k.filterCall?)
      (calls'.filterMap k.filterCall?) := by
  induction h with
  | nil => exact .nil
  | @cons c c' cs cs' hc _ ih =>
    rw [List.filterMap_cons, List.filterMap_cons]
    cases hc with
    | same =>
      cases k.filterCall? c with
      | none => exact ih
      | some f => exact .cons (.refl f) ih
    | filter hc hc' hf =>
      rw [hc, hc']
      exact .cons hf ih

/-- Calls that add conditions in another order leave the same builder behind but for the clause, and
the same clause but for the order. -/
theorem run_rearranged (d : Dialect) (h : List.Forall₂ k.Rearranged calls calls') :
    let b := (k.run (k.new d) calls).value
    let b' := (k.run (k.new d) calls').value
    (k.filter b).Rearranged (k.filter b') ∧ b' = k.setFilter (k.filter b') b := by
  intro b b'
  constructor
  · rw [filter_run, filter_run]
    exact (Where.Rearranged.refl _).foldl (filterCalls_rearranged h)
  · -- all parts but the clause come from the same calls
    refine eq_of_cut fun f ↦ ?_
    by_cases hf : f = .filter
    · have hfilter : k.filter (k.setFilter (k.filter b') b) = k.filter b' := by
        by_cases hk : k = .insert
        · subst hk
          rfl
        · exact filter_setFilter hk _ b
      have hdialect : k.dialect b' = k.dialect b :=
        (k.dialect_run d calls').trans (k.dialect_run d calls).symm
      rw [hf, cut_filter_eq, cut_filter_eq, hfilter, dialect_setFilter, hdialect]
    · rw [cut_setFilter hf, cut_run, cut_run, ofFamily_rearranged h hf]

/-- A group renders its conditions in brackets, each of them once, joined by its conjunction. The
bytes of their fields ascend, and conditions of the same field are in the order in which they were
given. Every group in the statement of a builder, also in a query that is nested in it at any depth,
has a place, in which its conditions may be put in any order that keeps the conditions of each
field in theirs: the build answers and reports the same, and so does the clause by itself. A builder
whose calls were given their conditions in another such order builds the same, too. -/
theorem build_rearranged (k : Kind) :
    (∀ g : Group,
      g.printer = .text (Layout.joining g.join) ++
        .bracketed (.separated g.inner.withinGroup (g.arranged.map Condition.printer)) ∧
      g.arranged.Perm g.conditions ∧
      (g.arranged.Pairwise fun a b ↦ a.field.octets ≤ b.field.octets) ∧
      ∀ n, g.arranged.filter (·.field = n) = g.conditions.filter (·.field = n)) ∧
    (∀ b g, k.HasGroup b g →
      ∃ place : k.GroupPlace, place.group g.conditions = g ∧ k.putGroup place g.conditions = b) ∧
    (∀ (place : k.GroupPlace) cs cs', Condition.Rearranged cs cs' →
      (∀ terminate,
        k.build (k.putGroup place cs') terminate = k.build (k.putGroup place cs) terminate) ∧
      k.whereClause? (k.putGroup place cs') = k.whereClause? (k.putGroup place cs)) ∧
    ∀ d calls calls', List.Forall₂ k.Rearranged calls calls' → ∀ terminate,
      k.build (k.run (k.new d) calls').value terminate =
        k.build (k.run (k.new d) calls).value terminate := by
  refine ⟨fun g ↦ ⟨g.printer_eq, g.arranged_perm, g.pairwise_arranged, g.filter_arranged⟩,
    fun b g h ↦ exists_groupPlace h, fun place cs cs' h ↦ build_putGroup_congr h place,
    fun d calls calls' h terminate ↦ ?_⟩
  obtain ⟨hfilter, hrun⟩ := run_rearranged d h
  have hbuild := build_setFilter_rearranged hfilter (k.run (k.new d) calls).value terminate
  rwa [← hrun, setFilter_filter] at hbuild

/-- Two conditions of a nested query change places, and the parameters of all others keep their
ordinals. -/
theorem build_rearranged_nested :
    let x := Condition.compare .gt "x" "?"
    let y := Condition.compare .lt "y" "?"
    let around : Where.Hole :=
      ⟨[], none, .and, [.compare .eq "a" "?"], .ofString "b", .eq, [.compare .eq "c" "?"], [], true⟩
    let query : Select := (Select.new (.ofEngine .postgres)).select ["id"]
    let start := { Delete.new (.ofEngine .postgres) with table := .ofString "t" }
    let place : delete.GroupPlace :=
      .nested ((start, around), []) query ⟨[], none, .or, [], true⟩
    Condition.Rearranged [x, y] [y, x] ∧
      (delete.build (delete.putGroup place [x, y]) false).value.sql =
        "delete from t where (a=$1 and b=(select id where (x>$2 or y<$3)) and c=$4)" ∧
      delete.build (delete.putGroup place [y, x]) false =
        delete.build (delete.putGroup place [x, y]) false := by
  intro x y around query start place
  have hxy : Condition.Rearranged [x, y] [y, x] := .swap (by decide) []
  refine ⟨hxy, ?_, ((build_rearranged delete).2.2.1 place _ _ hxy).1 false⟩
  cbv

end Kind

end SqlStatement
