import SqlStatement.Proofs.RawText.Values

/-!
# Lists of quoted texts

In brackets, a list of texts reads as literals in single quotes, with commas between them.  The
quotes around a value come from what is around the whole list and from the separators.  So a list of
texts without single quotes is read back value by value (`InList.literals?_quoted`), but a list
without values is not told from the one whose only value is empty (`InList.render_texts_eq_iff`).
-/

namespace SqlStatement

namespace InList

/-! ## Reading literals -/

/-- The literals that are read from behind an opening quote on, separated by commas. A doubled quote
stands for a quote in a literal. -/
def literalsFrom : List Char → Option (List (List Char))
  | [] => none
  | ['\''] => some [[]]
  | '\'' :: ',' :: '\'' :: r => (literalsFrom r).map ([] :: ·)
  | '\'' :: '\'' :: r => (literalsFrom r).map (List.modifyHead ('\'' :: ·))
  | '\'' :: _ => none
  | c :: r => (literalsFrom r).map (List.modifyHead (c :: ·))

/-- The single-quoted literals of which a text consists, separated by commas. -/
def literals? (text : String) : Option (List String) :=
  match text.toList with
  | [] => some []
  | '\'' :: r => (literalsFrom r).map (List.map String.ofList)
  | _ => none

/-- A character other than the quote belongs to the first literal. -/
theorem literalsFrom_cons {c : Char} (h : c ≠ '\'') (r : List Char) :
    literalsFrom (c :: r) = (literalsFrom r).map (List.modifyHead (c :: ·)) := by
  simp [literalsFrom, h]

/-- The last literal ends with its quote. -/
theorem literalsFrom_closed {v : List Char} (h : '\'' ∉ v) :
    literalsFrom (v ++ ['\'']) = some [v] := by
  induction v with
  | nil => rfl
  | cons c v ih =>
    rw [List.mem_cons, not_or] at h
    rw [List.cons_append, literalsFrom_cons (Ne.symm h.1), ih h.2]
    rfl

/-- Behind a literal and a comma, the next literal is opened. -/
theorem literalsFrom_separated {v : List Char} (h : '\'' ∉ v) (r : List Char) :
    literalsFrom (v ++ '\'' :: ',' :: '\'' :: r) = (literalsFrom r).map (v :: ·) := by
  induction v with
  | nil => rw [List.nil_append, literalsFrom]
  | cons c v ih =>
    rw [List.mem_cons, not_or] at h
    rw [List.cons_append, literalsFrom_cons (Ne.symm h.1), ih h.2, Option.map_map]
    rfl

/-- Values without quotes are read back from between the outer quotes, value by value. -/
theorem literalsFrom_intercalate {vs : List String} (hne : vs ≠ [])
    (h : ∀ v ∈ vs, '\'' ∉ v.toList) :
    literalsFrom (("','".intercalate vs).toList ++ ['\'']) = some (vs.map String.toList) := by
  induction vs with
  | nil => exact absurd rfl hne
  | cons v vs ih =>
    have hv := h v List.mem_cons_self
    cases vs with
    | nil =>
      rw [String.intercalate_singleton]
      exact literalsFrom_closed hv
    | cons u us =>
      have hsep : "','".toList = ['\'', ',', '\''] := rfl
      have hrest := ih (List.cons_ne_nil u us) fun x hx ↦ h x (List.mem_cons_of_mem v hx)
      rw [String.intercalate_cons_cons, String.toList_append, String.toList_append, hsep,
        List.append_assoc, List.append_assoc]
      exact (literalsFrom_separated hv _).trans (congrArg (Option.map _) hrest)

/-! ## Lists of texts in brackets -/

/-- The values that a list of texts shows in brackets. A list without values shows an empty one. -/
def shownTexts (vs : List String) : List String := if vs = [] then [""] else vs

/-- Different lists show the same values only if one has no values and the only value of the other
is empty. -/
theorem shownTexts_eq_iff {vs ws : List String} :
    shownTexts vs = shownTexts ws ↔
      vs = ws ∨ vs = [] ∧ ws = [""] ∨ vs = [""] ∧ ws = [] := by
  unfold shownTexts
  by_cases hv : vs = [] <;> by_cases hw : ws = []
  · simp [hv, hw]
  · simp [hv, hw, eq_comm]
  · simp [hv, hw]
  · simp [hv, hw]

/-- The values in quotes, as they stand in the brackets. -/
def quoted (vs : List String) : String := "'" ++ "','".intercalate vs ++ "'"

theorem render_texts (column : String) (vs : List String) :
    render .list column (.texts vs) = column ++ " IN (" ++ quoted vs ++ ")" := by
  have hopening : " IN ('" = " IN (" ++ "'" := rfl
  have hclosing : "')" = "'" ++ ")" := rfl
  rw [render, hopening, hclosing, quoted]
  simp only [String.append_assoc]

/-- What is read from the brackets are the values that are shown. -/
theorem literals?_quoted {vs : List String} (h : ∀ v ∈ vs, '\'' ∉ v.toList) :
    literals? (quoted vs) = some (shownTexts vs) := by
  have hchars : (quoted vs).toList = '\'' :: (("','".intercalate vs).toList ++ ['\'']) := by
    simp [quoted]
  have hread : literals? (quoted vs) =
      (literalsFrom (("','".intercalate vs).toList ++ ['\''])).map (List.map String.ofList) := by
    rw [literals?, hchars]
    rfl
  rw [hread, shownTexts]
  by_cases hne : vs = []
  · subst hne
    rfl
  · rw [if_neg hne, literalsFrom_intercalate hne h, Option.map_some, List.map_map]
    simp [Function.comp_def]

/-- In quotes, a list stands as the values that it shows. -/
theorem quoted_shownTexts (vs : List String) : quoted (shownTexts vs) = quoted vs := by
  rw [shownTexts]
  split
  · next hvs =>
    subst hvs
    rfl
  · rfl

/-- Lists of texts without quotes are rendered alike if they show the same values, and only then. -/
theorem render_texts_inj (column : String) {vs ws : List String}
    (hvs : ∀ v ∈ vs, '\'' ∉ v.toList) (hws : ∀ w ∈ ws, '\'' ∉ w.toList) :
    render .list column (.texts vs) = render .list column (.texts ws) ↔
      shownTexts vs = shownTexts ws := by
  rw [render_texts, render_texts, String.append_left_inj, String.append_right_inj]
  constructor
  · intro hquoted
    have hread := literals?_quoted hvs
    rw [hquoted, literals?_quoted hws] at hread
    exact (Option.some.inj hread).symm
  · intro hshown
    rw [← quoted_shownTexts, hshown, quoted_shownTexts]

/-- In brackets, texts without single quotes read as literals between commas, which are the values in
their order; only if there are no values, an empty one is read all the same. So two such lists are
rendered alike exactly if they are equal, or if one has no values and the only value of the other is
empty; and so are the predicates of conditions with these lists. -/
theorem render_texts_eq_iff (column : String) {vs ws : List String}
    (hvs : ∀ v ∈ vs, '\'' ∉ v.toList) (hws : ∀ w ∈ ws, '\'' ∉ w.toList) :
    (∃ inside, render .list column (.texts vs) = column ++ " IN (" ++ inside ++ ")" ∧
      literals? inside = some (if vs = [] then [""] else vs)) ∧
    (render .list column (.texts vs) = render .list column (.texts ws) ↔
      vs = ws ∨ vs = [] ∧ ws = [""] ∨ vs = [""] ∧ ws = []) ∧
    (Condition.oneOf .list column (.texts vs) = Condition.oneOf .list column (.texts ws) ↔
      vs = ws ∨ vs = [] ∧ ws = [""] ∨ vs = [""] ∧ ws = []) := by
  have hrender : render .list column (.texts vs) = render .list column (.texts ws) ↔
      vs = ws ∨ vs = [] ∧ ws = [""] ∨ vs = [""] ∧ ws = [] :=
    (render_texts_inj column hvs hws).trans shownTexts_eq_iff
  refine ⟨⟨quoted vs, render_texts column vs, literals?_quoted hvs⟩, hrender, ?_⟩
  rw [← hrender, Condition.oneOf, Condition.oneOf, Condition.raw, Condition.raw,
    Condition.plain.injEq]
  exact and_iff_right rfl

/-- Values that are empty or look like separators, against the same values joined by commas. -/
theorem render_texts_eq_iff_commas :
    let vs := ["a", "b,c", "", " "]
    let ws := ["a,b", "c,", " "]
    (∃ inside, render .list "name" (.texts vs) = "name IN (" ++ inside ++ ")" ∧
      literals? inside = some vs) ∧
      render .list "name" (.texts vs) ≠ render .list "name" (.texts ws) ∧
      Condition.oneOf .list "name" (.texts vs) ≠ Condition.oneOf .list "name" (.texts ws) := by
  intro vs ws
  have hvs : ∀ v ∈ vs, '\'' ∉ v.toList := by decide
  have hws : ∀ w ∈ ws, '\'' ∉ w.toList := by decide
  obtain ⟨⟨inside, hrender, hread⟩, hiff, hcondition⟩ := render_texts_eq_iff "name" hvs hws
  have hne : ¬ (vs = ws ∨ vs = [] ∧ ws = [""] ∨ vs = [""] ∧ ws = []) := by decide
  exact ⟨⟨inside, hrender, hread⟩, fun h ↦ hne (hiff.mp h), fun h ↦ hne (hcondition.mp h)⟩

/-- A list of texts without values is rendered like the one whose only value is empty, while a list
of numbers without values has nothing in its brackets. -/
theorem render_texts_nil :
    render .list "name" (.texts []) = "name IN ('')" ∧
      render .list "name" (.texts [""]) = "name IN ('')" ∧
      render .list "name" (.ints []) = "name IN ()" ∧
      Condition.oneOf .list "name" (.texts []) = Condition.oneOf .list "name" (.texts [""]) ∧
      ¬ ∀ vs ws : List String, (∀ v ∈ vs, '\'' ∉ v.toList) → (∀ w ∈ ws, '\'' ∉ w.toList) →
        render .list "name" (.texts vs) = render .list "name" (.texts ws) → vs = ws := by
  refine ⟨rfl, rfl, rfl, rfl, fun h ↦ ?_⟩
  have hlists := h [] [""] nofun (List.forall_mem_singleton.mpr nofun) rfl
  exact List.cons_ne_nil _ _ hlists.symm

end InList

end SqlStatement
