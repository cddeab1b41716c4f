import Mathlib
import SqlStatement.Stored.Dialect
import SqlStatement.Stored.Info

/-!
# Reading back what is stored

A document holds a record if it lists the values of the fields, or if it has a member for each of
them; whatever else it has does not matter (`Document.Holds`).  These documents are read, and no
others (`Info.ofDocument?_eq_some_iff`, `Dialect.ofDocument?_eq_some_iff`), so a document is refused
if a field is missing in it or has a value of a wrong sort, and for no other reason
(`Document.Unfit`).  An answer is read back from what is stored of it, but for the mark of a
diagnostic, and a dialect is read back as it was (`stored_read_back`).
-/

namespace SqlStatement

namespace Document

/-- The document holds a record whose fields have the given names and values. -/
def Holds (names : List String) (values : List Document) : Document → Prop
  | array elements => elements = values
  | object members =>
    List.Forall₂ (fun name value ↦ members.lookup name = some value) names values
  | null | bool _ | whole _ | real _ | text _ => False

/-- The documents in which a record may be stored: the list of its values, or an object with a
member for each field and any members of other names, in any order. -/
inductive Stores (names : List String) (values : List Document) : Document → Prop
  | array : Stores names values (array values)
  | object {members : List (String × Document)} (extra : List (String × Document))
      (others : ∀ m ∈ extra, m.1 ∉ names) (reordered : members.Perm (names.zip values ++ extra)) :
      Stores names values (object members)

/-- The sorts of the fields of stored records. -/
inductive FieldSort
  | text
  /-- A whole number that fits into 64 bits without a sign. -/
  | count
  | flag
  /-- The name of an engine, by itself or with an object around it. -/
  | engine

/-- The documents of a sort of fields. -/
def FieldSort.Admits : FieldSort → Document → Prop
  | text, x => ∃ s, x = .text s
  | count, x => ∃ n : Nat, n < 2 ^ 64 ∧ x = .whole n
  | flag, x => ∃ b, x = .bool b
  | engine, x => ∃ e : Engine, x = .text e.storedName ∨ x = .object [(e.storedName, .null)]

/-- The reasons for which a document does not hold a record whose fields have the given names and
sorts. -/
inductive Unfit (layout : List (String × FieldSort)) : Document → Prop
  /-- It is neither an array nor an object. -/
  | single {x : Document} (noArray : ∀ elements, x ≠ array elements)
      (noObject : ∀ members, x ≠ object members) : Unfit layout x
  /-- It has another number of values. -/
  | length {elements : List Document} (h : elements.length ≠ layout.length) :
      Unfit layout (array elements)
  /-- A field is missing. -/
  | missing {members : List (String × Document)} {field : String × FieldSort}
      (hfield : field ∈ layout) (h : members.lookup field.1 = none) : Unfit layout (object members)
  /-- A value in an array is not of the sort of its field. -/
  | element {elements : List Document} {n : Nat} {field : String × FieldSort} {value : Document}
      (hfield : layout[n]? = some field) (hvalue : elements[n]? = some value)
      (h : ¬field.2.Admits value) : Unfit layout (array elements)
  /-- A value in an object is not of the sort of its field. -/
  | member {members : List (String × Document)} {field : String × FieldSort} {value : Document}
      (hfield : field ∈ layout) (hvalue : members.lookup field.1 = some value)
      (h : ¬field.2.Admits value) : Unfit layout (object members)

variable {names : List String} {values : List Document} {x : Document}

/-! ## Single values -/

theorem text?_eq_some_iff {s : String} : x.text? = some s ↔ x = .text s := by
  cases x <;> simp [text?]

theorem bool?_eq_some_iff {b : Bool} : x.bool? = some b ↔ x = .bool b := by
  cases x <;> simp [bool?]

theorem count?_eq_some_iff {n : Nat} : x.count? = some n ↔ n < 2 ^ 64 ∧ x = .whole n := by
  cases x with
  | whole m =>
    rw [count?]
    split
    · next hm =>
      rw [Option.some_inj, whole.injEq]
      omega
    · next hm =>
      rw [whole.injEq]
      constructor
      · intro h
        cases h
      · intro h
        omega
  | null | bool b | real bits | text s | array xs | object ms => simp [count?]

/-- A choice without further data is told by its name, with or without an object around it. -/
theorem choice?_eq_some_iff {name : String} :
    x.choice? = some name ↔ x = .text name ∨ x = .object [(name, .null)] := by
  constructor
  · intro h
    unfold choice? at h
    split at h
    · exact .inl (congrArg _ (Option.some.inj h))
    · obtain rfl := Option.some.inj h
      exact .inr rfl
    · cases h
  · rintro (rfl | rfl) <;> rfl

/-! ## Fields of records -/

/-- All results of a function that may fail are found if each of them is. -/
theorem mapM_eq_some_iff {α β : Type} {f : α → Option β} {as : List α} {bs : List β} :
    as.mapM f = some bs ↔ List.Forall₂ (fun a b ↦ f a = some b) as bs := by
  induction as generalizing bs with
  | nil =>
    rw [List.forall₂_nil_left_iff, List.mapM_nil]
    exact Option.some_inj.trans eq_comm
  | cons a as ih =>
    rw [List.mapM_cons, List.forall₂_cons_left_iff]
    simp only [Option.bind_eq_bind, Option.bind_eq_some_iff, ih, Option.pure_def, Option.some_inj]
    constructor
    · rintro ⟨b, hb, bs, hbs, rfl⟩
      exact ⟨b, bs, hb, hbs, rfl⟩
    · rintro ⟨b, bs, hb, hbs, rfl⟩
      exact ⟨b, hb, bs, hbs, rfl⟩

/-- The fields of a record are found in the documents that hold it. -/
theorem fields?_eq_some_iff (h : values.length = names.length) :
    x.fields? names = some values ↔ x.Holds names values := by
  cases x with
  | array elements =>
    show (if elements.length = names.length then some elements else none) = some values ↔
      elements = values
    constructor
    · intro he
      split at he
      · exact Option.some.inj he
      · cases he
    · rintro rfl
      exact if_pos h
  | object members => exact mapM_eq_some_iff
  | null | bool b | whole n | real bits | text s => exact ⟨nofun, False.elim⟩

/-- There are as many fields as names of them. -/
theorem length_of_fields? (h : x.fields? names = some values) : values.length = names.length := by
  cases x with
  | array elements =>
    have h : (if elements.length = names.length then some elements else none) = some values := h
    split at h
    · next hlength => rwa [← Option.some.inj h]
    · cases h
  | object members => exact (mapM_eq_some_iff.mp h).length_eq.symm
  | null | bool b | whole n | real bits | text s => cases h

/-- A name has the value that all members of this name have. -/
theorem lookup_eq_some_of_forall {members : List (String × Document)} {name : String}
    (hmem : (name, x) ∈ members) (h : ∀ y, (name, y) ∈ members → y = x) :
    members.lookup name = some x := by
  induction members with
  | nil => cases hmem
  | cons m ms ih =>
    obtain ⟨key, y⟩ := m
    by_cases hkey : name = key
    · subst hkey
      rw [List.lookup_cons_self, h y List.mem_cons_self]
    · have hmem : (name, x) ∈ ms := by
        refine (List.mem_cons.mp hmem).resolve_left fun he ↦ hkey ?_
        exact (Prod.mk.inj he).1
      rw [List.lookup_cons, beq_false_of_ne hkey]
      exact ih hmem fun y hy ↦ h y (List.mem_cons_of_mem _ hy)

/-- An object holds a record whatever the order of its members and whatever further members of other
names there are. -/
theorem Stores.holds (hnames : names.Nodup) (hlength : names.length = values.length)
    (h : Stores names values x) : x.Holds names values := by
  cases h with
  | array => rfl
  | @object members extra others reordered =>
    have hkeys : ((names.zip values).map (·.1)).Nodup := by
      rwa [List.map_fst_zip hlength.le]
    refine List.forall₂_iff_zip.mpr ⟨hlength, fun {name x} hmem ↦ ?_⟩
    have hmember : (name, x) ∈ members := reordered.mem_iff.mpr (List.mem_append_left _ hmem)
    refine lookup_eq_some_of_forall hmember fun y hy ↦ ?_
    rcases List.mem_append.mp (reordered.mem_iff.mp hy) with hy | hy
    · exact (Prod.mk.inj (List.inj_on_of_nodup_map hkeys hy hmem rfl)).2
    · exact absurd (List.of_mem_zip hmem).1 (others _ hy)

/-- The values are of the sorts of the fields. -/
def Suited (layout : List (String × FieldSort)) (values : List Document) : Prop :=
  List.Forall₂ (fun field value ↦ field.2.Admits value) layout values

section Layout

variable {layout : List (String × FieldSort)}

theorem Suited.length_eq (h : Suited layout values) : values.length = layout.length :=
  (List.Forall₂.length_eq h).symm

/-- The value of a field is of its sort. -/
theorem Suited.admits (h : Suited layout values) {n : Nat} {field : String × FieldSort}
    {value : Document} (hfield : layout[n]? = some field) (hvalue : values[n]? = some value) :
    field.2.Admits value := by
  obtain ⟨hn, rfl⟩ := List.getElem?_eq_some_iff.mp hfield
  obtain ⟨hn', rfl⟩ := List.getElem?_eq_some_iff.mp hvalue
  exact List.Forall₂.get h hn hn'

/-- If values are not of the sorts of the fields although there are as many of them, then one of
them is not. -/
theorem exists_not_admits (hlength : values.length = layout.length) (h : ¬Suited layout values) :
    ∃ (n : Nat) (field : _) (value : _), layout[n]? = some field ∧ values[n]? = some value ∧
      ¬field.2.Admits value := by
  by_contra hnone
  refine h (List.forall₂_iff_get.mpr ⟨hlength.symm, fun n hn hn' ↦ ?_⟩)
  by_contra hadmits
  exact hnone ⟨n, _, _, List.getElem?_eq_getElem hn, List.getElem?_eq_getElem hn', hadmits⟩

/-- The members of an object that holds a record have the values of the fields. -/
theorem lookup_field {members : List (String × Document)}
    (h : (object members).Holds (layout.map (·.1)) values) {n : Nat} {field : String × FieldSort}
    (hfield : layout[n]? = some field) : members.lookup field.1 = values[n]? := by
  obtain ⟨hn, rfl⟩ := List.getElem?_eq_some_iff.mp hfield
  have hvalues := List.forall₂_map_left_iff.mp h
  have hlength : n < values.length := hvalues.length_eq ▸ hn
  rw [List.getElem?_eq_getElem hlength]
  exact hvalues.get hn hlength

/-- An unfit document holds no record with values of the sorts of the fields. -/
theorem Unfit.not_suited (h : x.Unfit layout) (hx : x.Holds (layout.map (·.1)) values) :
    ¬Suited layout values := by
  intro hvalues
  cases h with
  | single noArray noObject =>
    cases x with
    | array elements => exact noArray elements rfl
    | object members => exact noObject members rfl
    | null | bool b | whole n | real bits | text s => exact hx
  | length h =>
    obtain rfl := hx
    exact h hvalues.length_eq
  | missing hfield h =>
    obtain ⟨n, hfield⟩ := List.mem_iff_getElem?.mp hfield
    have hn : n < values.length := by
      rw [hvalues.length_eq]
      exact (List.getElem?_eq_some_iff.mp hfield).1
    have hlookup := lookup_field hx hfield
    rw [h, List.getElem?_eq_getElem hn] at hlookup
    cases hlookup
  | element hfield hvalue h =>
    obtain rfl := hx
    exact h (hvalues.admits hfield hvalue)
  | member hfield hvalue h =>
    obtain ⟨n, hfield⟩ := List.mem_iff_getElem?.mp hfield
    exact h (hvalues.admits hfield ((lookup_field hx hfield).symm.trans hvalue))

/-- A document is unfit exactly if it holds no record with values of the sorts of the fields. -/
theorem unfit_iff :
    x.Unfit layout ↔ ∀ values, x.Holds (layout.map (·.1)) values → ¬Suited layout values := by
  refine ⟨fun h values hx ↦ h.not_suited hx, fun h ↦ ?_⟩
  cases x with
  | null | bool b | whole n | real bits | text s => exact .single nofun nofun
  | array elements =>
    by_cases hlength : elements.length = layout.length
    · obtain ⟨n, field, value, hfield, hvalue, hadmits⟩ :=
        exists_not_admits hlength (h elements rfl)
      exact .element hfield hvalue hadmits
    · exact .length hlength
  | object members =>
    by_cases hmissing : ∃ field ∈ layout, members.lookup field.1 = none
    · obtain ⟨field, hfield, hnone⟩ := hmissing
      exact .missing hfield hnone
    · have hpresent : ∀ field ∈ layout, ∃ value, members.lookup field.1 = some value :=
        fun field hfield ↦ Option.ne_none_iff_exists'.mp fun hnone ↦ hmissing ⟨field, hfield, hnone⟩
      have hx : (object members).Holds (layout.map (·.1))
          (layout.map fun field ↦ (members.lookup field.1).getD null) := by
        refine List.forall₂_map_left_iff.mpr (List.forall₂_map_right_iff.mpr ?_)
        refine List.forall₂_same.mpr fun field hfield ↦ ?_
        obtain ⟨value, hvalue⟩ := hpresent field hfield
        rw [hvalue]
        rfl
      obtain ⟨n, field, value, hfield, hvalue, hadmits⟩ :=
        exists_not_admits (by rw [List.length_map]) (h _ hx)
      have hmem : field ∈ layout := List.mem_of_getElem? hfield
      exact .member hmem ((lookup_field hx hfield).trans hvalue) hadmits

/-- If a record is read from the documents that hold it, and the values of records are those of the
sorts of the fields, then none is read from unfit documents and from no others. -/
theorem eq_none_iff_unfit {α : Type} {read : Option α} {stored : α → List Document → Prop}
    (hread : ∀ a, read = some a ↔ ∃ values, stored a values ∧ x.Holds (layout.map (·.1)) values)
    (hstored : ∀ values, (∃ a, stored a values) ↔ Suited layout values) :
    read = none ↔ x.Unfit layout := by
  rw [unfit_iff, Option.eq_none_iff_forall_ne_some]
  constructor
  · intro h values hx hvalues
    obtain ⟨a, ha⟩ := (hstored values).mpr hvalues
    exact h a ((hread a).mpr ⟨values, ha, hx⟩)
  · intro h a ha
    obtain ⟨values, ha, hx⟩ := (hread a).mp ha
    exact h values hx ((hstored values).mp ⟨a, ha⟩)

end Layout

end Document

/-! ## Answers -/

namespace Info

open Document

/-- The names and the sorts of the fields of a stored answer. -/
def storedLayout : List (String × FieldSort) :=
  [("sql", .text), ("fields", .text), ("fields_count", .count), ("param_fields", .text),
    ("param_count", .count), ("returning_fields", .text), ("read_only", .flag)]

/-- The values of the fields of a stored answer. -/
def values (i : Info) : List Document :=
  [.text i.sql, .text i.fields, .whole i.fieldsCount, .text i.paramFields, .whole i.paramCount,
    .text i.returningFields, .bool i.readOnly]

variable {i : Info} {x : Document}

/-- The documents from which an answer is read are those that hold it. The answer that is read is no
diagnostic. -/
theorem ofDocument?_eq_some_iff :
    ofDocument? x = some i ↔
      (i.diagnostic = false ∧ i.fieldsCount < 2 ^ 64 ∧ i.paramCount < 2 ^ 64) ∧
        x.Holds storedFields i.values := by
  have hlength : i.values.length = storedFields.length := rfl
  rw [← fields?_eq_some_iff hlength]
  cases hfields : x.fields? storedFields with
  | none => simp [ofDocument?, hfields]
  | some found =>
    match found, length_of_fields? hfields with
    | [sql, fields, fieldsCount, paramFields, paramCount, returning, readOnly], _ =>
      obtain ⟨sql', fields', fieldsCount', paramFields', paramCount', returning', readOnly',
        diagnostic⟩ := i
      simp only [ofDocument?, hfields, Option.bind_eq_bind, Option.bind_some,
        Option.bind_eq_some_iff, text?_eq_some_iff, count?_eq_some_iff, bool?_eq_some_iff,
        Option.pure_def, Option.some_inj, mk.injEq, values, List.cons.injEq, and_true]
      constructor
      · rintro ⟨_, rfl, _, rfl, _, ⟨hfield, rfl⟩, _, rfl, _, ⟨hparam, rfl⟩, _, rfl, _, rfl,
          rfl, rfl, rfl, rfl, rfl, rfl, rfl, rfl⟩
        exact ⟨⟨rfl, hfield, hparam⟩, rfl, rfl, rfl, rfl, rfl, rfl, rfl⟩
      · rintro ⟨⟨rfl, hfield, hparam⟩, rfl, rfl, rfl, rfl, rfl, rfl, rfl⟩
        exact ⟨_, rfl, _, rfl, _, ⟨hfield, rfl⟩, _, rfl, _, ⟨hparam, rfl⟩, _, rfl, _, rfl,
          rfl, rfl, rfl, rfl, rfl, rfl, rfl, rfl⟩

/-- The values that an answer may have are those of the sorts of its fields. -/
theorem exists_values_iff {found : List Document} :
    (∃ i : Info, (i.diagnostic = false ∧ i.fieldsCount < 2 ^ 64 ∧ i.paramCount < 2 ^ 64) ∧
      found = i.values) ↔ Suited storedLayout found := by
  constructor
  · rintro ⟨i, ⟨-, hfields, hparams⟩, rfl⟩
    exact .cons ⟨_, rfl⟩ (.cons ⟨_, rfl⟩ (.cons ⟨_, hfields, rfl⟩ (.cons ⟨_, rfl⟩
      (.cons ⟨_, hparams, rfl⟩ (.cons ⟨_, rfl⟩ (.cons ⟨_, rfl⟩ .nil))))))
  · intro h
    simp only [Suited, storedLayout, List.forall₂_cons_left_iff, List.forall₂_nil_left_iff] at h
    obtain ⟨_, _, ⟨sql, rfl⟩, ⟨_, _, ⟨fields, rfl⟩, ⟨_, _, ⟨fieldsCount, hfields, rfl⟩,
      ⟨_, _, ⟨params, rfl⟩, ⟨_, _, ⟨paramCount, hparams, rfl⟩, ⟨_, _, ⟨returning, rfl⟩,
      ⟨_, _, ⟨readOnly, rfl⟩, rfl, rfl⟩, rfl⟩, rfl⟩, rfl⟩, rfl⟩, rfl⟩, rfl⟩ := h
    exact ⟨⟨sql, fields, fieldsCount, params, paramCount, returning, readOnly, false⟩,
      ⟨rfl, hfields, hparams⟩, rfl⟩

/-- No answer is read from unfit documents, and from no others. -/
theorem ofDocument?_eq_none_iff : ofDocument? x = none ↔ x.Unfit storedLayout := by
  refine eq_none_iff_unfit (fun i ↦ ?_) fun _ ↦ exists_values_iff
  rw [ofDocument?_eq_some_iff]
  constructor
  · rintro ⟨hi, hx⟩
    exact ⟨_, ⟨hi, rfl⟩, hx⟩
  · rintro ⟨_, ⟨hi, rfl⟩, hx⟩
    exact ⟨hi, hx⟩

end Info

/-! ## Dialects -/

/-- An engine is read from its name alone, which is told by its letters in their case. -/
theorem Engine.ofDocument?_eq_some_iff {x : Document} {e : Engine} :
    ofDocument? x = some e ↔ x = .text e.storedName ∨ x = .object [(e.storedName, .null)] := by
  have hfind : ∀ name, (all.find? fun e ↦ e.storedName = name) = some e ↔ name = e.storedName := by
    intro name
    constructor
    · intro h
      have hname := List.find?_some h
      exact (of_decide_eq_true hname).symm
    · rintro rfl
      cases e <;> decide
  simp only [ofDocument?, Option.bind_eq_some_iff, hfind, Document.choice?_eq_some_iff]
  constructor
  · rintro ⟨name, h, rfl⟩
    exact h
  · intro h
    exact ⟨_, h, rfl⟩

namespace Dialect

open Document

/-- The names and the sorts of the fields of a stored dialect. -/
def storedLayout : List (String × FieldSort) :=
  [("kind", .engine), ("prefix", .text), ("numbered", .flag)]

/-- The values of the fields of a stored dialect whose engine is stored in the given document. -/
def values (d : Dialect) (engine : Document) : List Document :=
  [engine, .text d.sigil, .bool d.numbered]

variable {d : Dialect} {x : Document}

/-- The documents from which a dialect is read are those that hold it, with its engine in any
form. -/
theorem ofDocument?_eq_some_iff :
    ofDocument? x = some d ↔
      ∃ engine, Engine.ofDocument? engine = some d.engine ∧
        x.Holds storedFields (d.values engine) := by
  have hlength : ∀ engine, (d.values engine).length = storedFields.length := fun _ ↦ rfl
  simp only [← fields?_eq_some_iff (hlength _)]
  cases hfields : x.fields? storedFields with
  | none => simp [ofDocument?, hfields]
  | some found =>
    match found, length_of_fields? hfields with
    | [engine, sigil, numbered], _ =>
      obtain ⟨engine', sigil', numbered'⟩ := d
      simp only [ofDocument?, hfields, Option.bind_eq_bind, Option.bind_some,
        Option.bind_eq_some_iff, text?_eq_some_iff, bool?_eq_some_iff, Option.pure_def,
        Option.some_inj, mk.injEq, values, List.cons.injEq, and_true]
      constructor
      · rintro ⟨_, hengine, _, rfl, _, rfl, rfl, rfl, rfl⟩
        exact ⟨engine, hengine, rfl, rfl, rfl⟩
      · rintro ⟨_, hengine, rfl, rfl, rfl⟩
        exact ⟨_, hengine, _, rfl, _, rfl, rfl, rfl, rfl⟩

/-- The values that a dialect may have are those of the sorts of its fields. -/
theorem exists_values_iff {found : List Document} :
    (∃ (d : Dialect) (engine : Document), Engine.ofDocument? engine = some d.engine ∧
      found = d.values engine) ↔ Suited storedLayout found := by
  constructor
  · rintro ⟨d, engine, hengine, rfl⟩
    have he := Engine.ofDocument?_eq_some_iff.mp hengine
    exact .cons ⟨_, he⟩ (.cons ⟨_, rfl⟩ (.cons ⟨_, rfl⟩ .nil))
  · intro h
    simp only [Suited, storedLayout, List.forall₂_cons_left_iff, List.forall₂_nil_left_iff] at h
    obtain ⟨engine, _, ⟨e, he⟩, ⟨_, _, ⟨sigil, rfl⟩, ⟨_, _, ⟨numbered, rfl⟩, rfl, rfl⟩, rfl⟩,
      rfl⟩ := h
    exact ⟨⟨e, sigil, numbered⟩, engine, Engine.ofDocument?_eq_some_iff.mpr he, rfl⟩

/-- No dialect is read from unfit documents, and from no others. -/
theorem ofDocument?_eq_none_iff : ofDocument? x = none ↔ x.Unfit storedLayout := by
  refine eq_none_iff_unfit (fun d ↦ ?_) fun _ ↦ exists_values_iff
  rw [ofDocument?_eq_some_iff]
  constructor
  · rintro ⟨engine, hengine, hx⟩
    exact ⟨_, ⟨engine, hengine, rfl⟩, hx⟩
  · rintro ⟨_, ⟨engine, hengine, rfl⟩, hx⟩
    exact ⟨engine, hengine, hx⟩

end Dialect

/-! ## Reading back -/

/-- An answer whose numbers fit is read from every document in which it may be stored, but for the
mark of a diagnostic. -/
theorem Info.ofDocument?_of_stores {i : Info} {x : Document} (hfields : i.fieldsCount < 2 ^ 64)
    (hparams : i.paramCount < 2 ^ 64) (h : Document.Stores storedFields i.values x) :
    ofDocument? x = some { i with diagnostic := false } :=
  ofDocument?_eq_some_iff.mpr ⟨⟨rfl, hfields, hparams⟩, h.holds (by decide) rfl⟩

/-- A dialect is read from every document in which it may be stored. -/
theorem Dialect.ofDocument?_of_stores {d : Dialect} {engine x : Document}
    (hengine : Engine.ofDocument? engine = some d.engine)
    (h : Document.Stores storedFields (d.values engine) x) : ofDocument? x = some d :=
  ofDocument?_eq_some_iff.mpr ⟨engine, hengine, h.holds (by decide) rfl⟩

/-- Fields that are stored in their order under their names are stored. -/
theorem Document.Stores.zip {names : List String} {values : List Document} :
    Stores names values (.object (names.zip values)) :=
  .object [] nofun (by rw [List.append_nil])

/-- Answers and dialects are read back from what is stored of them. An answer whose numbers fit into
64 bits is read from its object, from that object with its members in any order and with any members
of other names, and from the array of its fields; it has lost its mark if it is a diagnostic, is
stored like the answer that it comes from, and is the same if that is no diagnostic. A dialect is
read in the same ways, its engine by its name or by an object around the name, and marks parameters
as before. A document is refused if it is neither an object nor an array, if a field is missing in
the object, if the array has another length, or if a field is null or anything else that is not of
its sort; it is not refused for any other reason. -/
theorem stored_read_back :
    (∀ i : Info, i.fieldsCount < 2 ^ 64 → i.paramCount < 2 ^ 64 →
      let back := { i with diagnostic := false }
      Info.ofDocument? i.toDocument = some back ∧
      (Info.ofDocument? i.toDocument = some i ↔ i.diagnostic = false) ∧
      back.toDocument = i.toDocument ∧
      ∀ x, Document.Stores Info.storedFields i.values x → Info.ofDocument? x = some back) ∧
    (∀ x, Info.ofDocument? x = none ↔ x.Unfit Info.storedLayout) ∧
    (∀ d : Dialect,
      Dialect.ofDocument? d.toDocument = some d ∧
      (∀ back, Dialect.ofDocument? d.toDocument = some back →
        ∀ ordinal, back.placeholder ordinal = d.placeholder ordinal) ∧
      ∀ engine x,
        (engine = .text d.engine.storedName ∨ engine = .object [(d.engine.storedName, .null)]) →
        Document.Stores Dialect.storedFields (d.values engine) x →
          Dialect.ofDocument? x = some d) ∧
    (∀ x, Dialect.ofDocument? x = none ↔ x.Unfit Dialect.storedLayout) ∧
    ∀ x e, Engine.ofDocument? x = some e ↔
      x = .text e.storedName ∨ x = .object [(e.storedName, .null)] := by
  refine ⟨fun i hfields hparams ↦ ?_, fun x ↦ Info.ofDocument?_eq_none_iff, fun d ↦ ?_,
    fun x ↦ Dialect.ofDocument?_eq_none_iff, fun x e ↦ Engine.ofDocument?_eq_some_iff⟩
  · intro back
    have hback : Info.ofDocument? i.toDocument = some back :=
      Info.ofDocument?_of_stores hfields hparams .zip
    refine ⟨hback, ?_, rfl, fun x hx ↦ Info.ofDocument?_of_stores hfields hparams hx⟩
    rw [hback, Option.some_inj]
    constructor
    · intro h
      exact (congrArg Info.diagnostic h).symm
    · intro h
      obtain ⟨sql, fields, fieldsCount, params, paramCount, returning, readOnly, diagnostic⟩ := i
      obtain rfl : diagnostic = false := h
      rfl
  · have hengine {engine : Document} (h : engine = .text d.engine.storedName ∨
        engine = .object [(d.engine.storedName, .null)]) :
        Engine.ofDocument? engine = some d.engine :=
      Engine.ofDocument?_eq_some_iff.mpr h
    have hback : Dialect.ofDocument? d.toDocument = some d :=
      Dialect.ofDocument?_of_stores (hengine (.inl rfl)) .zip
    refine ⟨hback, fun back h ordinal ↦ ?_,
      fun engine x h hx ↦ Dialect.ofDocument?_of_stores (hengine h) hx⟩
    rw [hback, Option.some_inj] at h
    rw [h]

/-- A diagnostic is read from an object with its members the other way around and with its mark
among them. -/
theorem reversed_diagnostic_read_back :
    let i := Diagnostic.info .nothingSelected
    Info.ofDocument? (.object
        (("diagnostic", .bool true) :: (Info.storedFields.zip i.values).reverse)) =
      some { i with diagnostic := false } := by
  refine (stored_read_back.1 (Diagnostic.info .nothingSelected) (by decide) (by decide)).2.2.2 _ ?_
  refine .object [("diagnostic", .bool true)] (by decide) ?_
  exact (((List.reverse_perm _).cons _).trans (List.perm_append_singleton _ _).symm)

end SqlStatement
