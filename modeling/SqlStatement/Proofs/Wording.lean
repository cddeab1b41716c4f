import SqlStatement.Proofs.Assignments
import SqlStatement.Proofs.Lists
import SqlStatement.Proofs.Overwrites

/-!
# The wording of a statement

A statement is a row of phrases and of lists with their items (`Kind.sql_build`).  A list that a
statement shows has one item for each entry that calls have given to it, and none of the items is
empty but for the placeholders of a dialect that has none (`Kind.lists_build`).  The first phrase
tells a statement from a diagnostic (`Kind.sql_eq_message_iff`).
-/

namespace SqlStatement

/-- Items behind a text, with commas between them, if there are any items. -/
def Layout.listed (opening : String) (items : List String) : String :=
  if items.isEmpty then "" else opening ++ commas items

/-- The column that tells the number of all rows, if it is told. -/
def Layout.rowCountText (counted : Bool) : String :=
  if counted then ", count(*) over() as " ++ rowCount.text else ""

/-- A placeholder is empty in a dialect that marks parameters with an empty sigil and nothing
else. -/
theorem Dialect.placeholder_eq_empty_iff (d : Dialect) {ordinal : Nat} :
    d.placeholder ordinal = "" ↔ d.numbered = false ∧ d.sigil = "" := by
  rw [placeholder]
  cases d.numbered <;> simp

/-- A passage of the text of a statement. -/
inductive Passage
  | phrase (s : String)
  /-- A list with its items, behind a text if there are any. -/
  | list (ℓ : NameList) (opening : String) (items : List String)

namespace Passage

/-- The text of a passage. -/
def text : Passage → String
  | phrase s => s
  | list _ opening items => Layout.listed opening items

/-- The text of passages, one after the other. -/
def textOf : List Passage → String
  | [] => ""
  | p :: ps => p.text ++ textOf ps

/-- An item shows an entry of a list: it has the name of the entry in it, and for a sub-query it has
round brackets. -/
def Shows : Option Name → String → Prop
  | some n, item => ∃ before behind, item = before ++ n.text ++ behind
  | none, item => ∃ query label, item = "(" ++ query ++ ")" ++ label

/-- The output list of an engine, if there is one. -/
def output (e : Engine) (image : RowImage) (columns : List Name) : List Passage :=
  if e = .mssql then
    [list .returning " output " (columns.map fun c ↦ image.word ++ "." ++ c.text)]
  else []

/-- The returning list of an engine behind everything else, if there is one. -/
def trailing (e : Engine) (columns : List Name) : List Passage :=
  if e = .postgres then [list .returning " returning " (columns.map Name.text)] else []

/-- Order and limit. -/
def ordering (order : List (Name × Direction)) (rows : Nat) : List Passage :=
  [list .order " order by " (order.map fun o ↦ o.1.text ++ " " ++ o.2.word),
    phrase (Layout.limit rows)]

end Passage

/-- The texts of selected items, if `start` parameters come before them. -/
def Select.itemTexts (d : Dialect) (start : Nat) : List SelectItem → List String
  | [] => []
  | .column n :: r => n.text :: itemTexts d start r
  | .sub q label :: r =>
    ("(" ++ (q.template true).render d start ++ ")" ++ Layout.label label) ::
      itemTexts d (start + (q.template true).slots) r

/-- The placeholders of the arguments. -/
def Proc.placeholders (p : Proc) : List String :=
  p.arguments.mapIdx fun i _ ↦ p.dialect.placeholder (i + 1)

section Passages

open Passage (phrase list)

/-- The passages of a query. -/
def Select.passages (q : Select) : List Passage :=
  [phrase "select ", list .columns "" (itemTexts q.dialect 0 q.items),
    phrase (Layout.rowCountText q.counted), phrase (Layout.tables q.tables),
    phrase (q.filter.spaced.textFrom q.dialect (q.items.flatMap SelectItem.credits).length),
    list .groups " group by " (q.groups.map Name.text)] ++ Passage.ordering q.order q.limit

/-- The passages of an insertion. -/
def Insert.passages (i : Insert) : List Passage :=
  [phrase ("insert into " ++ i.table.text), phrase "(",
    list .columns "" (i.columns.map Name.text), phrase ")"] ++
    Passage.output i.dialect.engine .inserted i.returning ++
    [phrase " values", phrase "(",
      phrase (Layout.commas (i.columns.mapIdx fun n _ ↦ i.dialect.placeholder (n + 1))),
      phrase ")"] ++
    Passage.trailing i.dialect.engine i.returning

/-- The passages of an update. -/
def Update.passages (u : Update) : List Passage :=
  [phrase ("update " ++ u.table.text ++ " set "),
    list .columns "" (u.columns.mapIdx fun i c ↦ c.text ++ "=" ++ u.dialect.placeholder (i + 1)),
    list .calculated (if u.columns.isEmpty then "" else ", ")
      (calculatedTexts u.dialect u.columns.length u.calculated.entries)] ++
    Passage.output u.dialect.engine .inserted u.returning ++
    [phrase (u.filter.spaced.textFrom u.dialect u.assignedParams)] ++
    Passage.trailing u.dialect.engine u.returning

/-- The passages of a deletion. -/
def Delete.passages (x : Delete) : List Passage :=
  [phrase ("delete from " ++ x.table.text)] ++
    Passage.output x.dialect.engine .deleted x.returning ++
    [phrase (x.filter.spaced.textFrom x.dialect 0)] ++ Passage.trailing x.dialect.engine x.returning

namespace Proc

/-- The passages of the call on the engine with a statement of its own. -/
def execPassages (p : Proc) (name : Name) : List Passage :=
  [phrase ("exec " ++ name.text), list .arguments " " p.placeholders]

/-- The passages of the call for the effect alone. -/
def performPassages (p : Proc) (name : Name) : List Passage :=
  [phrase ("perform " ++ name.text), phrase "(", list .arguments "" p.placeholders, phrase ")"]

/-- The passages of the call for the columns of its rows. -/
def rowsPassages (p : Proc) (name : Name) : List Passage :=
  [phrase "select ", list .columns "" (p.columns.map Name.text),
    phrase (Layout.rowCountText p.counted), phrase (" from " ++ name.text), phrase "(",
    list .arguments "" p.placeholders, phrase ")",
    phrase (p.filter.spaced.textFrom p.dialect p.arguments.length)] ++
    Passage.ordering p.order p.limit

/-- The passages of a procedure call. -/
def passages (p : Proc) : List Passage :=
  let (name, mode) := p.target.getD (.empty, .rows)
  match p.dialect.engine, mode with
  | .mssql, _ => p.execPassages name
  | _, .perform => p.performPassages name
  | _, .rows => p.rowsPassages name

end Proc

end Passages

/-- The passages of a builder's statement. -/
def Kind.passages : (k : Kind) → k.Builder → List Passage
  | select => Select.passages
  | insert => Insert.passages
  | update => Update.passages
  | delete => Delete.passages
  | proc => Proc.passages

/-! ## Lists with their items -/

theorem isEmpty_mapIdx {α β : Type} (f : Nat → α → β) (xs : List α) :
    (xs.mapIdx f).isEmpty = xs.isEmpty := by
  cases xs with
  | nil => rfl
  | cons x r => rw [List.mapIdx_cons, List.isEmpty_cons, List.isEmpty_cons]

namespace Layout

@[simp] theorem listed_nil (opening : String) : listed opening [] = "" := rfl

/-- Without a text in front, nothing stands for an empty list. -/
@[simp] theorem listed_empty (items : List String) : listed "" items = commas items := by
  cases items with
  | nil => rfl
  | cons s r => exact String.empty_append

/-- Items in two lists have a comma between the lists if there are any in both. -/
theorem commas_append (items items' : List String) :
    commas (items ++ items') =
      commas items ++ listed (if items.isEmpty then "" else ", ") items' := by
  cases items with
  | nil => exact (listed_empty items').symm.trans String.empty_append.symm
  | cons s r =>
    cases items' with
    | nil => rw [List.append_nil, listed, List.isEmpty_nil, if_pos rfl, String.append_empty]
    | cons t r' =>
      exact (String.intercalate_append_of_ne_nil (List.cons_ne_nil s r)
        (List.cons_ne_nil t r')).trans String.append_assoc

theorem groupBy_eq_listed (columns : List Name) :
    groupBy columns = listed " group by " (columns.map Name.text) := by
  cases columns <;> rfl

theorem orderBy_eq_listed (order : List (Name × Direction)) :
    orderBy order = listed " order by " (order.map fun o ↦ o.1.text ++ " " ++ o.2.word) := by
  cases order <;> rfl

end Layout

namespace Passage

@[simp] theorem textOf_nil : textOf [] = "" := rfl

@[simp] theorem textOf_cons (p : Passage) (ps : List Passage) :
    textOf (p :: ps) = p.text ++ textOf ps := rfl

@[simp] theorem textOf_append (ps ps' : List Passage) :
    textOf (ps ++ ps') = textOf ps ++ textOf ps' := by
  induction ps with
  | nil => exact String.empty_append.symm
  | cons p ps ih => rw [List.cons_append, textOf, textOf, ih, String.append_assoc]

@[simp] theorem text_phrase (s : String) : (phrase s).text = s := rfl

@[simp] theorem text_list (ℓ : NameList) (opening : String) (items : List String) :
    (list ℓ opening items).text = Layout.listed opening items := rfl

end Passage

/-! ## Templates and their passages -/

namespace Template

variable {d : Dialect} {start : Nat}

theorem slots_text (s : String) : slots [.text s] = 0 := rfl

theorem slots_output (e : Engine) (image : RowImage) (columns : List Name) :
    (output e image columns).slots = 0 :=
  congrArg List.length (credits_output e image columns)

theorem slots_rowCountColumn (counted : Bool) : (rowCountColumn counted).slots = 0 :=
  congrArg List.length (credits_rowCountColumn counted)

theorem render_text (s : String) : render d start [.text s] = s := String.append_empty

theorem render_rowCountColumn (counted : Bool) :
    render d start (rowCountColumn counted) = Layout.rowCountText counted := by
  cases counted with
  | false => rfl
  | true => simp [rowCountColumn, Layout.rowCountText, render]

theorem render_output_eq_textOf (image : RowImage) (columns : List Name) :
    render d start (output d.engine image columns) =
      Passage.textOf (Passage.output d.engine image columns) := by
  by_cases h : columns = []
  · rw [h, Passage.output]
    cases d.engine <;> rfl
  · rw [render_output h, Passage.output]
    split <;> simp [Layout.listed, h]

theorem render_trailing_eq_textOf (columns : List Name) :
    render d start (trailing d.engine columns) =
      Passage.textOf (Passage.trailing d.engine columns) := by
  by_cases h : columns = []
  · rw [h, Passage.trailing]
    cases d.engine <;> rfl
  · rw [render_trailing h, Passage.trailing]
    split <;> simp [Layout.listed, h]

theorem render_spacedTemplate (w : Where) :
    render d start w.spacedTemplate = w.spaced.textFrom d start :=
  (w.text_spaced d start).symm

end Template

namespace Select

/-- The texts of selected items. -/
theorem renderEach_items (items : List SelectItem) (d : Dialect) (start : Nat) :
    Template.renderEach d start (items.map fun i ↦ i.template false) =
      itemTexts d start items := by
  induction items generalizing start with
  | nil => rfl
  | cons i r ih =>
    rw [List.map_cons, Template.renderEach, ih]
    cases i with
    | column n =>
      have hslots : (SelectItem.template (.column n) false).slots = 0 := by
        rw [SelectItem.template]
        rfl
      have htext : (SelectItem.template (.column n) false).render d start = n.text := by
        rw [SelectItem.template]
        simp [Template.render]
      rw [hslots, htext, itemTexts, Nat.add_zero]
    | sub q label =>
      have hslots : (SelectItem.template (.sub q label) false).slots = (q.template true).slots := by
        rw [SelectItem.template]
        simp [Template.slots]
      have htext : (SelectItem.template (.sub q label) false).render d start =
          "(" ++ (q.template true).render d start ++ ")" ++ Layout.label label := by
        rw [SelectItem.template, Template.render_append, Template.render_bracketed,
          Template.render_text]
      rw [hslots, htext, itemTexts]

/-- The text of a query that selects something. -/
theorem render_template {q : Select} (h : q.lack = none) :
    (q.template false).render q.dialect 0 = Passage.textOf q.passages := by
  have hitems : ¬ q.items.isEmpty = true := Bool.eq_false_iff.mp (isEmpty_items_of_lack h)
  have hslots : Template.slots (Template.joined ", " (q.items.map fun i ↦ i.template false)) =
      (q.items.flatMap SelectItem.credits).length := by
    have hcredits : ∀ i ∈ q.items, (i.template false).credits = i.credits :=
      fun i _ ↦ i.credits_template (fun q _ ↦ q.credits_template) false
    rw [Template.slots, Template.credits_joined, List.flatMap_map, List.flatMap_congr hcredits]
  rw [template_eq, if_neg hitems, Template.query]
  simp only [Template.render_append, Template.slots_append, hslots, Template.slots_text,
    Template.slots_rowCountColumn, Template.render_text, Template.render_joined_eq_intercalate,
    renderEach_items,
    Template.render_rowCountColumn, Template.render_spacedTemplate, Bool.false_eq_true, if_false,
    Nat.zero_add, Nat.add_zero]
  simp [passages, Passage.ordering, Layout.tail, Layout.groupBy_eq_listed, Layout.orderBy_eq_listed,
    Layout.commas, String.append_assoc]

end Select

/-- The text of an insertion. -/
theorem Insert.render_template (i : Insert) :
    (i.template i.dialect.engine).render i.dialect 0 = Passage.textOf i.passages := by
  have hslots : ∀ c : Name, Template.slots [.field c, .slot c] = 1 := fun _ ↦ rfl
  have hvalue : ∀ n (c : Name), Template.render i.dialect (0 + n * 1) [.field c, .slot c] =
      i.dialect.placeholder (n + 1) := by
    intro n c
    simp [Template.render]
  have hvalues := Template.render_joined hslots ", " i.columns i.dialect 0
  simp only [hvalue] at hvalues
  have hbracketed : Template.slots
      (Template.bracketed [.text (Layout.commas (i.columns.map Name.text))]) = 0 := rfl
  rw [template]
  simp only [Template.render_append, Template.slots_append, Template.slots_text, hbracketed,
    Template.slots_output, Template.render_text, Template.render_bracketed, hvalues,
    Template.render_output_eq_textOf, Template.render_trailing_eq_textOf, Nat.add_zero]
  simp [passages, Layout.commas, String.append_assoc]

/-- The text of an update. -/
theorem Update.render_template (u : Update) :
    (u.template u.dialect.engine).render u.dialect 0 = Passage.textOf u.passages := by
  rw [template]
  simp only [Template.render_append, Template.slots_append, Template.slots_text,
    Template.slots_output, u.slots_assignments, Template.render_text, u.render_assignments,
    Template.render_output_eq_textOf, Template.render_spacedTemplate,
    Template.render_trailing_eq_textOf, Layout.commas_append, isEmpty_mapIdx,
    Nat.zero_add, Nat.add_zero]
  simp [passages, String.append_assoc]

/-- The text of a deletion. -/
theorem Delete.render_template (x : Delete) :
    (x.template x.dialect.engine).render x.dialect 0 = Passage.textOf x.passages := by
  rw [template]
  simp only [Template.render_append, Template.slots_append, Template.slots_text,
    Template.slots_output, Template.render_text, Template.render_output_eq_textOf,
    Template.render_spacedTemplate, Template.render_trailing_eq_textOf, Nat.zero_add, Nat.add_zero]
  simp [passages, String.append_assoc]

namespace Proc

/-- The arguments take the first parameters. -/
theorem render_argumentTemplate (p : Proc) :
    p.argumentTemplate.render p.dialect 0 = Layout.commas p.placeholders := by
  have hslots : ∀ a : Name, Template.slots [.slot a] = 1 := fun _ ↦ rfl
  rw [argumentTemplate, Template.render_joined hslots]
  simp [Template.render, placeholders, Layout.commas]

theorem render_execTemplate (p : Proc) (name : Name) :
    (p.execTemplate name).render p.dialect 0 = Passage.textOf (p.execPassages name) := by
  have hfields : ∀ start, Template.render p.dialect start
      (p.columns.flatMap fun c ↦ [Piece.field c]) = "" := by
    intro start
    induction p.columns generalizing start with
    | nil => rfl
    | cons c r ih => exact (String.empty_append).trans (ih _)
  have harguments : Template.render p.dialect 0
      (if p.arguments.isEmpty then [] else .text " " :: p.argumentTemplate) =
        Layout.listed " " p.placeholders := by
    rw [Layout.listed, placeholders, isEmpty_mapIdx]
    split
    · rfl
    · exact congrArg (" " ++ ·) p.render_argumentTemplate
  rw [execTemplate]
  simp only [Template.render_append, Template.slots_text, Template.render_text, harguments, hfields]
  simp [execPassages]

theorem render_performTemplate (p : Proc) (name : Name) :
    (p.performTemplate name).render p.dialect 0 = Passage.textOf (p.performPassages name) := by
  rw [performTemplate]
  simp only [Template.render_append, Template.slots_text, Template.render_text,
    Template.render_bracketed, p.render_argumentTemplate]
  simp [performPassages, String.append_assoc]

theorem render_rowsTemplate (p : Proc) (name : Name) :
    (p.rowsTemplate name).render p.dialect 0 = Passage.textOf (p.rowsPassages name) := by
  have hslots : ∀ c : Name, Template.slots [.text c.text, .field c] = 0 := fun _ ↦ rfl
  have hcolumn : ∀ n (c : Name), Template.render p.dialect (0 + n * 0) [.text c.text, .field c] =
      c.text := by
    intro n c
    simp [Template.render]
  have hcolumns := Template.render_joined hslots ", " p.columns p.dialect 0
  have hnames : (p.columns.mapIdx fun _ c ↦ c.text) = p.columns.map Name.text :=
    List.ext_getElem (by simp) (by simp)
  simp only [hcolumn, hnames] at hcolumns
  have hfields : Template.slots
      (Template.joined ", " (p.columns.map fun c ↦ [.text c.text, .field c])) = 0 := by
    simp [Template.slots, List.flatMap_map]
  have harguments : p.argumentTemplate.bracketed.slots = p.arguments.length := by
    rw [Template.slots, Template.credits_bracketed, credits_argumentTemplate]
  rw [rowsTemplate]
  simp only [Template.render_append, Template.slots_append, Template.slots_text,
    Template.slots_rowCountColumn, hfields, harguments, Template.render_text, hcolumns,
    Template.render_rowCountColumn, Template.render_bracketed, p.render_argumentTemplate,
    Template.render_spacedTemplate, Nat.zero_add]
  simp [rowsPassages, Passage.ordering, Layout.tail, Layout.groupBy_eq_listed,
    Layout.orderBy_eq_listed, Layout.commas, String.append_assoc]

/-- The text of a procedure call. -/
theorem render_template (p : Proc) :
    (p.template p.dialect.engine).render p.dialect 0 = Passage.textOf p.passages := by
  rw [template, passages]
  obtain ⟨name, mode⟩ := p.target.getD (.empty, .rows)
  cases p.dialect.engine with
  | mssql => exact p.render_execTemplate name
  | postgres | mysql =>
    cases mode with
    | rows => exact p.render_rowsTemplate name
    | perform => exact p.render_performTemplate name

end Proc

/-! ## What lists show -/

namespace Passage

variable {ℓ : NameList} {opening : String} {items : List String}

/-- An item that shows an entry is not empty, if the name of the entry is not. -/
theorem Shows.ne_empty {entry : Option Name} {item : String} (h : Shows entry item)
    (hentry : ∀ n ∈ entry, n.text ≠ "") : item ≠ "" := by
  intro hitem
  cases entry with
  | some n =>
    obtain ⟨before, behind, h⟩ := h
    have hn := (String.append_eq_empty_iff.mp (h.symm.trans hitem)).1
    exact hentry n rfl (String.append_eq_empty_iff.mp hn).2
  | none =>
    obtain ⟨query, label, h⟩ := h
    have hquery := (String.append_eq_empty_iff.mp (h.symm.trans hitem)).1
    have hopened := (String.append_eq_empty_iff.mp hquery).1
    exact absurd (String.append_eq_empty_iff.mp hopened).1 (by decide)

/-- If the names of a list are not empty, its items are not either. -/
theorem ne_empty_of_forall₂ {entries : List (Option Name)} (h : List.Forall₂ Shows entries items)
    (hentries : ∀ n, some n ∈ entries → n.text ≠ "") : ∀ item ∈ items, item ≠ "" := by
  induction h with
  | nil => exact List.forall_mem_nil _
  | cons hitem _ ih =>
    refine List.forall_mem_cons.mpr ⟨hitem.ne_empty fun n hn ↦ ?_, ih fun n hn ↦ ?_⟩
    · exact hentries n (Option.mem_def.mp hn ▸ List.mem_cons_self)
    · exact hentries n (List.mem_cons_of_mem _ hn)

theorem shows_text (n : Name) : Shows (some n) n.text :=
  ⟨"", "", String.append_empty.symm.trans (congrArg (· ++ "") String.empty_append.symm)⟩

/-- A list of names has an item for each of them. -/
theorem forall₂_shows_map {α : Type} {name : α → Name} {f : α → String}
    (h : ∀ x, Shows (some (name x)) (f x)) (xs : List α) :
    List.Forall₂ Shows (xs.map fun x ↦ some (name x)) (xs.map f) := by
  rw [List.forall₂_map_left_iff, List.forall₂_map_right_iff, List.forall₂_same]
  exact fun x _ ↦ h x

theorem forall₂_shows_mapIdx {f : Nat → Name → String} (h : ∀ i n, Shows (some n) (f i n))
    (names : List Name) : List.Forall₂ Shows (names.map some) (names.mapIdx f) := by
  induction names generalizing f with
  | nil => exact .nil
  | cons n r ih =>
    rw [List.map_cons, List.mapIdx_cons]
    exact .cons (h 0 n) (ih fun i ↦ h (i + 1))

theorem of_mem_output {e : Engine} {image : RowImage} {columns : List Name}
    (h : list ℓ opening items ∈ output e image columns) :
    ℓ = .returning ∧ List.Forall₂ Shows (columns.map some) items := by
  rw [output] at h
  split at h
  · obtain ⟨rfl, -, rfl⟩ := list.inj (List.mem_singleton.mp h)
    have hshows : ∀ n : Name, Shows (some n) (image.word ++ "." ++ n.text) :=
      fun n ↦ ⟨image.word ++ ".", "", String.append_empty.symm⟩
    exact ⟨rfl, forall₂_shows_map hshows columns⟩
  · cases h

theorem of_mem_trailing {e : Engine} {columns : List Name}
    (h : list ℓ opening items ∈ trailing e columns) :
    ℓ = .returning ∧ List.Forall₂ Shows (columns.map some) items := by
  rw [trailing] at h
  split at h
  · obtain ⟨rfl, -, rfl⟩ := list.inj (List.mem_singleton.mp h)
    exact ⟨rfl, forall₂_shows_map shows_text columns⟩
  · cases h

theorem of_mem_ordering {order : List (Name × Direction)} {rows : Nat}
    (h : list ℓ opening items ∈ ordering order rows) :
    ℓ = .order ∧ List.Forall₂ Shows (order.map fun o ↦ some o.1) items := by
  rw [ordering, List.mem_pair, or_iff_left nofun] at h
  obtain ⟨rfl, -, rfl⟩ := list.inj h
  refine ⟨rfl, forall₂_shows_map (fun o ↦ ⟨"", " " ++ o.2.word, ?_⟩) order⟩
  rw [String.empty_append, String.append_assoc]

end Passage

/-- Each selected item is shown. -/
theorem Select.forall₂_itemTexts (d : Dialect) (start : Nat) (items : List SelectItem) :
    List.Forall₂ Passage.Shows (items.map SelectItem.column?) (itemTexts d start items) := by
  induction items generalizing start with
  | nil => exact .nil
  | cons i r ih =>
    cases i with
    | column n => exact .cons (Passage.shows_text n) (ih start)
    | sub q label => exact .cons ⟨_, _, rfl⟩ (ih _)

/-- Each calculated column is shown. -/
theorem Update.forall₂_calculatedTexts (d : Dialect) (start : Nat)
    (entries : List (Name × String)) :
    List.Forall₂ Passage.Shows ((entries.map (·.1)).map some)
      (calculatedTexts d start entries) := by
  induction entries generalizing start with
  | nil => exact .nil
  | cons e r ih =>
    refine .cons ⟨"", "=" ++ RawText.numbered d start e.2, ?_⟩ (ih _)
    simp [String.append_assoc]

namespace Kind

variable {k : Kind} {b : k.Builder} {ℓ : NameList} {opening : String} {items : List String}

/-- The text of a builder's statement. -/
theorem render_template (h : k.lack b = none) :
    (k.template b (k.dialect b).engine).render (k.dialect b) 0 = Passage.textOf (k.passages b) := by
  cases k with
  | select => exact Select.render_template h
  | insert => exact Insert.render_template b
  | update => exact Update.render_template b
  | delete => exact Delete.render_template b
  | proc => exact Proc.render_template b

/-- The text of a statement that is built. -/
theorem sql_build {terminate : Bool} (h : (k.build b terminate).value.diagnostic = false) :
    (k.build b terminate).value.sql =
      Passage.textOf (k.passages b) ++ if terminate then ";" else "" := by
  have hinfo := build_value_of_not_diagnostic h
  rw [hinfo, ← render_template (lack_of_not_diagnostic h)]
  rfl

end Kind

/-! ### The lists of each statement -/

section Lists

variable {ℓ : NameList} {opening : String} {items : List String}

theorem Select.forall₂_shows {q : Select} (h : .list ℓ opening items ∈ q.passages) :
    List.Forall₂ Passage.Shows (Kind.select.entries ℓ q) items := by
  rw [passages, List.mem_append] at h
  rcases h with h | h
  · simp only [List.mem_cons, List.not_mem_nil, reduceCtorEq, Passage.list.injEq, false_or,
      or_false] at h
    rcases h with ⟨rfl, -, rfl⟩ | ⟨rfl, -, rfl⟩
    · exact forall₂_itemTexts q.dialect 0 q.items
    · exact Passage.forall₂_shows_map Passage.shows_text q.groups
  · obtain ⟨rfl, hitems⟩ := Passage.of_mem_ordering h
    exact hitems

theorem Insert.forall₂_shows {i : Insert} (h : .list ℓ opening items ∈ i.passages) :
    List.Forall₂ Passage.Shows (Kind.insert.entries ℓ i) items := by
  simp only [passages, List.mem_append, List.mem_cons, List.not_mem_nil, reduceCtorEq,
    Passage.list.injEq, false_or, or_false] at h
  rcases h with (⟨rfl, -, rfl⟩ | h) | h
  · exact Passage.forall₂_shows_map Passage.shows_text i.columns
  · obtain ⟨rfl, hitems⟩ := Passage.of_mem_output h
    exact hitems
  · obtain ⟨rfl, hitems⟩ := Passage.of_mem_trailing h
    exact hitems

theorem Update.forall₂_shows {u : Update} (h : .list ℓ opening items ∈ u.passages) :
    List.Forall₂ Passage.Shows (Kind.update.entries ℓ u) items := by
  simp only [passages, List.mem_append, List.mem_cons, List.not_mem_nil, reduceCtorEq,
    Passage.list.injEq, false_or, or_false] at h
  rcases h with ((⟨rfl, -, rfl⟩ | ⟨rfl, -, rfl⟩) | h) | h
  · refine Passage.forall₂_shows_mapIdx (fun i n ↦ ⟨"", "=" ++ u.dialect.placeholder (i + 1), ?_⟩)
      u.columns
    rw [String.empty_append, String.append_assoc]
  · exact forall₂_calculatedTexts u.dialect u.columns.length u.calculated.entries
  · obtain ⟨rfl, hitems⟩ := Passage.of_mem_output h
    exact hitems
  · obtain ⟨rfl, hitems⟩ := Passage.of_mem_trailing h
    exact hitems

theorem Delete.forall₂_shows {x : Delete} (h : .list ℓ opening items ∈ x.passages) :
    List.Forall₂ Passage.Shows (Kind.delete.entries ℓ x) items := by
  simp only [passages, List.mem_append, List.mem_singleton, reduceCtorEq, false_or, or_false] at h
  rcases h with h | h
  · obtain ⟨rfl, hitems⟩ := Passage.of_mem_output h
    exact hitems
  · obtain ⟨rfl, hitems⟩ := Passage.of_mem_trailing h
    exact hitems

/-- The passages of a procedure call are those of one of its forms. -/
theorem Proc.passages_eq (p : Proc) :
    ∃ name, p.passages = p.execPassages name ∨ p.passages = p.performPassages name ∨
      p.passages = p.rowsPassages name := by
  rw [passages]
  obtain ⟨name, mode⟩ := p.target.getD (.empty, .rows)
  refine ⟨name, ?_⟩
  cases p.dialect.engine with
  | mssql => exact .inl rfl
  | postgres | mysql =>
    cases mode with
    | rows => exact .inr (.inr rfl)
    | perform => exact .inr (.inl rfl)

/-- There is a placeholder for each argument. -/
theorem Proc.placeholders_eq (p : Proc) :
    p.placeholders =
      (Kind.proc.entries .arguments p).mapIdx fun i _ ↦ p.dialect.placeholder (i + 1) := by
  have hentries : Kind.proc.entries .arguments p = p.arguments.map some := rfl
  rw [hentries, placeholders]
  exact List.ext_getElem (by simp) (by simp)

/-- A procedure call shows the placeholders of its arguments in their list. -/
theorem Proc.forall₂_shows {p : Proc} (h : .list ℓ opening items ∈ p.passages) :
    if ℓ = .arguments then items = p.placeholders
    else List.Forall₂ Passage.Shows (Kind.proc.entries ℓ p) items := by
  obtain ⟨name, hpassages | hpassages | hpassages⟩ := p.passages_eq
  · rw [hpassages] at h
    simp only [execPassages, List.mem_cons, List.not_mem_nil, reduceCtorEq, Passage.list.injEq,
      false_or, or_false] at h
    rw [if_pos h.1]
    exact h.2.2
  · rw [hpassages] at h
    simp only [performPassages, List.mem_cons, List.not_mem_nil, reduceCtorEq, Passage.list.injEq,
      false_or, or_false] at h
    rw [if_pos h.1]
    exact h.2.2
  · rw [hpassages] at h
    simp only [rowsPassages, List.mem_append, List.mem_cons, List.not_mem_nil, reduceCtorEq,
      Passage.list.injEq, false_or, or_false] at h
    rcases h with (⟨rfl, -, rfl⟩ | ⟨rfl, -, rfl⟩) | h
    · rw [if_neg nofun]
      exact Passage.forall₂_shows_map Passage.shows_text p.columns
    · rw [if_pos rfl]
    · obtain ⟨rfl, hitems⟩ := Passage.of_mem_ordering h
      rw [if_neg nofun]
      exact hitems

end Lists

namespace Kind

variable {k : Kind} {b : k.Builder} {ℓ : NameList} {opening : String} {items : List String}

/-- A statement shows an item for each entry of a list; for the arguments, their placeholders. -/
theorem forall₂_shows (hℓ : ℓ ≠ .arguments) (h : .list ℓ opening items ∈ k.passages b) :
    List.Forall₂ Passage.Shows (k.entries ℓ b) items := by
  cases k with
  | select => exact Select.forall₂_shows h
  | insert => exact Insert.forall₂_shows h
  | update => exact Update.forall₂_shows h
  | delete => exact Delete.forall₂_shows h
  | proc =>
    have hshows := Proc.forall₂_shows h
    rwa [if_neg hℓ] at hshows

/-- Of the arguments a statement shows the placeholders. -/
theorem placeholders_of_mem_passages (h : .list .arguments opening items ∈ k.passages b) :
    items = (k.entries .arguments b).mapIdx fun i _ ↦ (k.dialect b).placeholder (i + 1) := by
  cases k with
  | proc =>
    have hshows := Proc.forall₂_shows h
    rw [if_pos rfl] at hshows
    exact hshows.trans (Proc.placeholders_eq b)
  | select => exact List.forall₂_nil_left_iff.mp (Select.forall₂_shows h)
  | insert => exact List.forall₂_nil_left_iff.mp (Insert.forall₂_shows h)
  | update => exact List.forall₂_nil_left_iff.mp (Update.forall₂_shows h)
  | delete => exact List.forall₂_nil_left_iff.mp (Delete.forall₂_shows h)

/-! ## Statements and diagnostics -/

/-- The words with which a statement begins. -/
def openings : List String :=
  ["select ", "insert into ", "update ", "delete from ", "exec ", "perform "]

/-- A statement begins with one of its words. -/
theorem exists_opening (b : k.Builder) :
    ∃ word ∈ openings, ∃ rest, Passage.textOf (k.passages b) = word ++ rest := by
  have hmem : ∀ {word}, decide (word ∈ openings) = true → word ∈ openings := of_decide_eq_true
  cases k with
  | select => exact ⟨"select ", hmem rfl, _, rfl⟩
  | insert => exact ⟨"insert into ", hmem rfl, _, String.append_assoc⟩
  | update => exact ⟨"update ", hmem rfl, _, by
      show ("update " ++ (Update.table b).text ++ " set ") ++ _ = _
      rw [String.append_assoc, String.append_assoc]⟩
  | delete => exact ⟨"delete from ", hmem rfl, _, String.append_assoc⟩
  | proc =>
    obtain ⟨name, hpassages | hpassages | hpassages⟩ := Proc.passages_eq b
    · exact ⟨"exec ", hmem rfl, _, (congrArg Passage.textOf hpassages).trans String.append_assoc⟩
    · exact ⟨"perform ", hmem rfl, _, (congrArg Passage.textOf hpassages).trans String.append_assoc⟩
    · exact ⟨"select ", hmem rfl, _, congrArg Passage.textOf hpassages⟩

/-- No diagnostic begins with a word of a statement, whatever is behind the word. -/
theorem message_ne_append (reason : Diagnostic) {word : String} (h : word ∈ openings)
    (rest : String) : reason.message ≠ word ++ rest := by
  intro heq
  have hmessage : reason.message.toList.head? = some 'n' := by cases reason <;> rfl
  have hopenings : ∀ word ∈ openings,
      word.toList.head?.map (fun c ↦ decide (c = 'n')) = some false := by decide
  obtain ⟨c, hc, hne⟩ := Option.map_eq_some_iff.mp (hopenings word h)
  rw [heq, String.toList_append, List.head?_append, hc, Option.some_or] at hmessage
  exact of_decide_eq_false hne (Option.some.inj hmessage)

/-- A build answers the wording of a diagnostic exactly if this is what is lacking, whatever the
texts are that callers have given. -/
theorem sql_eq_message_iff {terminate : Bool} {reason : Diagnostic} :
    (k.build b terminate).value.sql = reason.message ↔ k.lack b = some reason := by
  have hinjective : ∀ r : Diagnostic, r.message = reason.message ↔ some r = some reason := by
    intro r
    cases r <;> cases reason <;> decide
  cases hlack : k.lack b with
  | some r =>
    rw [build_value, hlack]
    exact hinjective r
  | none =>
    have hdiagnostic : (k.build b terminate).value.diagnostic = false := by
      rw [diagnostic_build, hlack]
      rfl
    obtain ⟨word, hword, rest, htext⟩ := exists_opening b
    rw [sql_build hdiagnostic, htext, String.append_assoc]
    exact iff_of_false (message_ne_append reason hword _).symm nofun

/-! ## The lists of configured builders -/

/-- The names in the lists of a builder are those that calls have given, in the order of the calls;
the calculated columns are in the order of their names, each once. A name has characters, but no
blank at either end, and between its ends it is as it was given. No table of a query is empty, and
the value of a calculated column is trimmed. A statement that is built shows of a list one item for
each entry, in their order, which is not empty; of an argument it shows the placeholder, which has
no characters in a dialect that has a marker without any. Calls that give nothing but blank names
may be left out. -/
theorem lists_build (k : Kind) (d : Dialect) (calls : List k.Call) :
    let start := k.new d
    let b := (k.run start calls).value
    (∀ ℓ, k.entries ℓ b = k.givenByAll ℓ calls) ∧
    (∀ ℓ n, some n ∈ k.entries ℓ b →
      n.text ≠ "" ∧ ∃ c ∈ calls, ∃ t ∈ k.texts ℓ c, Text.Trims n.text t) ∧
    (∀ n v, (n, v) ∈ (k.kept b).entries →
      (k = .select → v ≠ "") ∧ (k = .update → Text.trim v = v)) ∧
    (∀ terminate, (k.build b terminate).value.diagnostic = false →
      (k.build b terminate).value.sql =
        Passage.textOf (k.passages b) ++ if terminate then ";" else "") ∧
    (∀ ℓ opening items, .list ℓ opening items ∈ k.passages b →
      items.length = (k.entries ℓ b).length ∧
      (ℓ ≠ .arguments →
        List.Forall₂ Passage.Shows (k.entries ℓ b) items ∧ ∀ item ∈ items, item ≠ "") ∧
      (ℓ = .arguments →
        ∀ item ∈ items, item = "" ↔ d.numbered = false ∧ d.sigil = "")) ∧
    k.run start (calls.filter fun c ↦ !k.isIdle c) = k.run start calls := by
  intro start b
  have hnames : ∀ ℓ n, some n ∈ k.entries ℓ b →
      n.text ≠ "" ∧ ∃ c ∈ calls, ∃ t ∈ k.texts ℓ c, Text.Trims n.text t := by
    intro ℓ n hn
    rw [entries_run] at hn
    exact trims_of_mem_givenByAll hn
  refine ⟨fun ℓ ↦ entries_run ℓ d calls, hnames, fun n v hv ↦ ?_, fun terminate ↦ sql_build,
    fun ℓ opening items h ↦ ⟨?_, fun hℓ ↦ ⟨forall₂_shows hℓ h, ?_⟩, ?_⟩,
    run_filter_isIdle start calls⟩
  · obtain ⟨c, -, hc⟩ := exists_write_of_mem_kept hv
    constructor
    · rintro rfl
      exact ne_empty_of_write? hc
    · rintro rfl
      exact trim_of_calculation? hc
  · by_cases hℓ : ℓ = .arguments
    · subst hℓ
      rw [placeholders_of_mem_passages h, List.length_mapIdx]
    · exact (forall₂_shows hℓ h).length_eq.symm
  · exact Passage.ne_empty_of_forall₂ (forall₂_shows hℓ h) fun n hn ↦ (hnames ℓ n hn).1
  · rintro rfl item hitem
    rw [placeholders_of_mem_passages h] at hitem
    obtain ⟨i, hi, rfl⟩ := List.mem_mapIdx.mp hitem
    rw [dialect_run]
    exact d.placeholder_eq_empty_iff

/-- Calls for an update in which names are blank, doubled or not trimmed. -/
theorem lists_build_blank :
    let calls : List Update.Call := [.table "posts", .columns [" title ", "\t"],
      .calculate " " "?", .calculate " hits " "hits+?", .returning [" id", ""],
      .calculate "hits" " ? ", .columns [" "]]
    let start := update.new (.ofEngine .postgres)
    let b := (update.run start calls).value
    update.entries .columns b = [some (.ofString "title")] ∧
      update.run start (calls.filter fun c ↦ !update.isIdle c) = update.run start calls ∧
      (update.build b true).value.sql = "update posts set title=$1, hits=$2 returning id;" := by
  intro calls start b
  obtain ⟨hentries, -, -, hsql, -, hidle⟩ := lists_build update (.ofEngine .postgres) calls
  have hb : b = { Update.new (.ofEngine .postgres) with
      table := .ofString "posts"
      columns := [.ofString "title"]
      calculated := NameMap.empty.insert (.ofString "hits") "?"
      returning := [.ofString "id"] } := rfl
  have htext : Passage.textOf (update.passages b) =
      "update posts set title=$1, hits=$2 returning id" :=
    (congrArg (fun u ↦ Passage.textOf (Update.passages u)) hb).trans (by cbv)
  exact ⟨(hentries .columns).trans rfl, hidle, (hsql true rfl).trans (congrArg (· ++ ";") htext)⟩

/-- In a dialect that marks parameters with nothing, the arguments of a procedure call are shown by
items without characters. -/
theorem arguments_shown_empty :
    let calls : List Proc.Call := [.call .perform "p", .arguments ["a", "b"]]
    let b := (proc.run (proc.new ⟨.postgres, "", false⟩) calls).value
    proc.entries .arguments b = [some (.ofString "a"), some (.ofString "b")] ∧
      (proc.build b false).value.sql = "perform p(, )" ∧
      ¬ ∀ ℓ opening items, .list ℓ opening items ∈ proc.passages b → ∀ item ∈ items, item ≠ "" := by
  intro calls b
  refine ⟨rfl, rfl, fun h ↦ ?_⟩
  have hpassages : proc.passages b = [.phrase ("perform " ++ "p"), .phrase "(",
    .list .arguments "" ["", ""], .phrase ")"] := rfl
  have hmem : .list .arguments "" ["", ""] ∈ proc.passages b := by
    rw [hpassages]
    simp
  exact h .arguments "" ["", ""] hmem "" List.mem_cons_self rfl

end Kind

end SqlStatement
