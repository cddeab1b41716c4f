import Mathlib
import SqlStatement.Builder.Statement
import SqlStatement.Proofs.RawText.Modes
import SqlStatement.Query.Condition

/-!
# Value lists in conditions

The values of a list are written into the predicate of a condition, and the predicate is then
scanned for parameter markers like all raw text.  Numbers have no question marks, and texts stand in
quotes; but these are not kept closed, since a quote in a text is written as it is.  So a list takes
as many parameters as a reader finds in its texts who starts behind an opening quote
(`InList.exposed`): none if the quotes in all texts are doubled, and possibly some otherwise.
-/

namespace SqlStatement

theorem Fixed.isDigit_of_mem_lastDigits {count n : Nat} {c : Char} (h : c ∈ Fixed.lastDigits count n) :
    c.isDigit = true := by
  induction count generalizing n with
  | zero => exact absurd h List.not_mem_nil
  | succ count ih =>
    have hdigit : ∀ d : Fin 10, (Nat.digitChar d).isDigit = true := by decide
    rw [Fixed.lastDigits, List.mem_append, List.mem_singleton] at h
    rcases h with h | rfl
    · exact ih h
    · exact hdigit ⟨n % 10, Nat.mod_lt n (by decide)⟩

namespace InList

/-! ## The parts of a rendered list -/

/-- The text between the field and the values. -/
def opening : Form → InList → String
  | .array, _ => "=ANY('\x7b"
  | .list, texts _ => " IN ('"
  | .list, _ => " IN ("

/-- The text between two values. -/
def separator : Form → InList → String
  | .list, texts _ => "','"
  | _, _ => ","

/-- The text behind the values. -/
def closing : Form → InList → String
  | .array, values => "\x7d'::" ++ values.elementType ++ "[])"
  | .list, texts _ => "')"
  | .list, _ => ")"

/-- The values with the separators between them. -/
def middle (form : Form) (values : InList) : String :=
  (values.separator form).intercalate values.items

theorem render_eq (form : Form) (field : String) (values : InList) :
    values.render form field =
      field ++ values.opening form ++ values.middle form ++ values.closing form := by
  cases form <;> cases values <;>
    simp [render, opening, middle, separator, closing, items, String.append_assoc]

/-- The texts among the values; numbers are none. -/
def textValues : InList → List String
  | texts values => values
  | ints _ | floats _ => []

/-- The number of parameter markers among the values, if these are read from behind an opening
single quote. -/
def exposed (form : Form) (values : InList) : Nat :=
  RawText.markersFrom (.quoted '\'') (values.middle form).toList

/-! ## Numbers have no question marks -/

/-- A character that is in no text of a list and not in the separator is not in the joined text. -/
theorem notMem_intercalate {c : Char} {sep : String} {ts : List String} (hsep : c ∉ sep.toList)
    (h : ∀ t ∈ ts, c ∉ t.toList) : c ∉ (sep.intercalate ts).toList := by
  induction ts with
  | nil => simp
  | cons t ts ih =>
    have ht := h t List.mem_cons_self
    have hts := ih fun u hu ↦ h u (List.mem_cons_of_mem t hu)
    cases ts with
    | nil => simpa using ht
    | cons u us =>
      rw [String.intercalate_cons_cons]
      simp only [String.toList_append, List.mem_append, not_or]
      exact ⟨⟨ht, hsep⟩, hts⟩

theorem notMem_natText (n : Nat) : '?' ∉ (toString n).toList := by
  intro h
  rw [Nat.toString_eq_ofList_toDigits, String.toList_ofList] at h
  exact absurd (Nat.isDigit_of_mem_toDigits (by decide) (by decide) h) (by decide)

theorem notMem_intText (n : Int) : '?' ∉ (toString n).toList := by
  rw [Int.toString_eq_repr, Int.repr_eq_if]
  split
  · exact notMem_natText n.toNat
  · simp only [String.toList_append, List.mem_append, not_or]
    exact ⟨by decide, notMem_natText (-n).toNat⟩

theorem notMem_floatText (x : Binary64) : '?' ∉ (Fixed.ofBinary64 floatPlaces x).toList := by
  cases x with
  | finite negative units =>
    simp only [Fixed.ofBinary64, Fixed.text, String.toList_append, String.toList_ofList,
      List.mem_append, not_or]
    refine ⟨?_, ⟨notMem_natText _, by decide⟩, fun h ↦ ?_⟩
    · cases negative <;> decide
    · exact absurd (Fixed.isDigit_of_mem_lastDigits h) (by decide)
  | infinite negative => cases negative <;> decide
  | nan => decide

theorem notMem_item {values : InList} (h : values.textValues = []) :
    ∀ item ∈ values.items, '?' ∉ item.toList := by
  intro item hitem
  cases values with
  | ints ns =>
    obtain ⟨n, -, rfl⟩ := List.mem_map.mp hitem
    exact notMem_intText n
  | floats bs =>
    obtain ⟨b, -, rfl⟩ := List.mem_map.mp hitem
    exact notMem_floatText _
  | texts ts =>
    obtain rfl : ts = [] := h
    exact absurd hitem List.not_mem_nil

/-- Values are separated by commas, with or without quotes around these. -/
theorem separator_eq (form : Form) (values : InList) :
    values.separator form = "','" ∨ values.separator form = "," := by
  cases form <;> cases values <;> simp [separator]

theorem notMem_separator (form : Form) (values : InList) :
    '?' ∉ (values.separator form).toList := by
  rcases separator_eq form values with h | h <;> rw [h] <;> decide

/-! ## Texts with doubled quotes -/

/-- Single quotes stand in pairs only. -/
def quotesDoubled : List Char → Bool
  | [] => true
  | '\'' :: '\'' :: r => quotesDoubled r
  | c :: r => c != '\'' && quotesDoubled r

/-- Characters in which single quotes are doubled are without markers in quoted text, and behind
them the text is still quoted. -/
theorem quoted_of_quotesDoubled {cs : List Char} (h : quotesDoubled cs) :
    RawText.markersFrom (.quoted '\'') cs = 0 ∧
      (RawText.Mode.quoted '\'').behind cs = .quoted '\'' := by
  fun_induction quotesDoubled cs with
  | case1 => exact ⟨rfl, rfl⟩
  | case2 r ih =>
    rw [RawText.markersFrom_cons_of_not rfl, RawText.markersFrom_cons_of_not rfl]
    exact ih h
  | case3 c r hpair ih =>
    simp only [Bool.and_eq_true, bne_iff_ne] at h
    have hnext : (RawText.Mode.quoted '\'').next c r = .quoted '\'' := by
      simp [RawText.Mode.next, h.1]
    rw [RawText.markersFrom_cons_of_not rfl, RawText.Mode.behind, hnext]
    exact ih h.2

/-- A separator leads from quoted text to quoted text. -/
theorem behind_separator (form : Form) (values : InList) :
    (RawText.Mode.quoted '\'').behind (values.separator form).toList = .quoted '\'' := by
  rcases separator_eq form values with h | h <;> rw [h] <;> decide

/-- What stands in front of a separator is read without it. -/
theorem apart_separator (form : Form) (values : InList) (cs rest : List Char) :
    RawText.Apart cs ((values.separator form).toList ++ rest) := by
  intro _ c hc
  rcases separator_eq form values with h | h
  · rw [h] at hc
    obtain rfl : '\'' = c := Option.some.inj hc
    decide
  · rw [h] at hc
    obtain rfl : ',' = c := Option.some.inj hc
    decide

/-- Texts with doubled quotes expose nothing. -/
theorem exposed_eq_zero {form : Form} {values : InList}
    (h : ∀ t ∈ values.textValues, quotesDoubled t.toList) : values.exposed form = 0 := by
  cases values with
  | ints ns =>
    exact RawText.markersFrom_of_notMem
      (notMem_intercalate (notMem_separator _ _) (notMem_item rfl)) _
  | floats bs =>
    exact RawText.markersFrom_of_notMem
      (notMem_intercalate (notMem_separator _ _) (notMem_item rfl)) _
  | texts all =>
    -- the separator does not depend on the texts, of which the induction takes the first
    suffices hts : ∀ ts : List String, (∀ t ∈ ts, quotesDoubled t.toList) →
        RawText.markersFrom (.quoted '\'') (((texts all).separator form).intercalate ts).toList = 0
      from hts all h
    intro ts hts
    induction ts with
    | nil => rfl
    | cons t ts ih =>
      obtain ⟨hmarkers, hquoted⟩ := quoted_of_quotesDoubled (hts t List.mem_cons_self)
      have hrest := ih fun u hu ↦ hts u (List.mem_cons_of_mem t hu)
      cases ts with
      | nil => rwa [String.intercalate_singleton]
      | cons u us =>
        have hsep := notMem_separator form (texts all)
        rw [String.intercalate_cons_cons, String.toList_append, String.toList_append,
          List.append_assoc, RawText.markersFrom_append (apart_separator _ _ _ _), hmarkers,
          hquoted, RawText.markersFrom_append (RawText.apart_of_notMem hsep _),
          RawText.markersFrom_of_notMem hsep, behind_separator, hrest]

/-! ## The markers of a rendered list -/

theorem notMem_opening (form : Form) (values : InList) : '?' ∉ (values.opening form).toList := by
  cases form <;> cases values <;> (simp only [opening]; decide)

theorem notMem_closing (form : Form) (values : InList) : '?' ∉ (values.closing form).toList := by
  cases form <;> cases values <;> simp [closing, elementType]

/-- The values are read without what closes them. -/
theorem apart_closing (form : Form) (values : InList) (cs : List Char) :
    RawText.Apart cs (values.closing form).toList := by
  have hhead : ∀ c ∈ (values.closing form).toList.head?, c ≠ '?' ∧ c ≠ '&' ∧ c ≠ '|' := by
    cases form <;> cases values <;> simp [closing, elementType]
  exact fun _ ↦ hhead

/-- Texts start behind an opening quote. -/
theorem behind_opening (form : Form) (ts : List String) :
    RawText.Mode.outside.behind ((texts ts).opening form).toList = .quoted '\'' := by
  cases form <;> (simp only [opening]; decide)

/-- In a rendered list, the markers are those that are exposed among the values. -/
theorem markers_render {column : String}
    (h : ∀ c ∈ column.toList, c ≠ '?' ∧ c ≠ '\'' ∧ c ≠ '"') (form : Form) (values : InList) :
    RawText.markers (values.render form column) = values.exposed form := by
  have hcolumn : '?' ∉ column.toList := fun hmem ↦ (h '?' hmem).1 rfl
  have hopening := notMem_opening form values
  have hmiddle : ∀ m, RawText.markersFrom m
      ((values.middle form).toList ++ (values.closing form).toList) =
        RawText.markersFrom m (values.middle form).toList := by
    intro m
    rw [RawText.markersFrom_append (apart_closing form values _),
      RawText.markersFrom_of_notMem (notMem_closing form values), Nat.add_zero]
  rw [render_eq, RawText.markers_eq]
  simp only [String.toList_append, List.append_assoc]
  rw [RawText.markersFrom_append (RawText.apart_of_notMem hcolumn _),
    RawText.markersFrom_of_notMem hcolumn, RawText.Mode.behind_outside h,
    RawText.markersFrom_append (RawText.apart_of_notMem hopening _),
    RawText.markersFrom_of_notMem hopening, hmiddle, Nat.zero_add, Nat.zero_add]
  by_cases htexts : values.textValues = []
  · have hnone : '?' ∉ (values.middle form).toList :=
      notMem_intercalate (notMem_separator form values) (notMem_item htexts)
    rw [RawText.markersFrom_of_notMem hnone, exposed, RawText.markersFrom_of_notMem hnone]
  · cases values with
    | ints ns => exact absurd rfl htexts
    | floats bs => exact absurd rfl htexts
    | texts ts => rw [behind_opening, exposed]

end InList

/-! ## Conditions with value lists -/

/-- A condition that a column has one of some values takes the parameters that are exposed among the
values, all credited to the column, and changes nothing else in the tally. It is written as the
rendered list, and takes no parameter, exactly if nothing is exposed; which holds of numbers, and of
texts in which single quotes are doubled. -/
theorem Condition.printer_oneOf {column : String}
    (h : ∀ c ∈ column.toList, c ≠ '?' ∧ c ≠ '\'' ∧ c ≠ '"') (form : InList.Form)
    (values : InList) :
    let taken := values.exposed form
    (∀ (s : Setting) (p : Page),
      let page := (Condition.oneOf form column values).printer s p
      (page = { p with text := p.text ++ values.render form column } ↔ taken = 0) ∧
        page.events = p.events ∧
        page.tally = { p.tally with
          paramCount := p.tally.paramCount + taken
          params := Listing.add p.tally.params
            (Name.commaList (List.replicate taken (.ofString column))) }) ∧
      ((∀ t ∈ values.textValues, InList.quotesDoubled t.toList) → taken = 0) := by
  intro taken
  have hmarkers : RawText.markers (values.render form column) = taken :=
    InList.markers_render h form values
  refine ⟨fun s p ↦ ?_, InList.exposed_eq_zero⟩
  intro page
  have hpage : page = Printer.raw (.ofString column) (values.render form column) s p := by
    show (Condition.oneOf form column values).printer s p = _
    rw [Condition.oneOf, Condition.raw, Condition.printer]
  have happly := (Printer.raw_writes (.ofString column) (values.render form column) s).apply p
  have hplain := Template.plain_ofRaw (.ofString column) (values.render form column)
  refine ⟨?_, ?_, ?_⟩
  · rw [hpage, Printer.raw_eq_text_iff, hmarkers]
  · rw [hpage, happly, hplain.events_eq_nil, List.append_nil]
  · rw [hpage, happly]
    simp [Template.count, Template.slots, hplain.fields_eq_nil, hplain.returnedColumns_eq_nil,
      Name.present, hmarkers]

/-- Two texts, one with a question mark behind a doubled quote, take no parameter. -/
theorem Condition.printer_oneOf_doubled :
    let values : InList := .texts ["?", "it''s ?"]
    (Condition.oneOf .list "name" values).printer.alone (.ofEngine .postgres) =
      ⟨"name IN ('?','it''s ?')", .startingAt 0, []⟩ := by
  intro values
  have hcolumn : ∀ c ∈ "name".toList, c ≠ '?' ∧ c ≠ '\'' ∧ c ≠ '"' := by simp
  obtain ⟨hpage, hdoubled⟩ := Condition.printer_oneOf hcolumn .list values
  have htaken : values.exposed .list = 0 :=
    hdoubled (List.forall_mem_cons.mpr ⟨rfl, List.forall_mem_singleton.mpr rfl⟩)
  exact (hpage ⟨.ofEngine .postgres, false⟩ .blank).1.mpr htaken

/-- The quote in a text closes the literal in which the text stands, so the question mark behind it
takes a parameter. -/
theorem Condition.oneOf_exposed :
    let b : Select := { Select.new (.ofEngine .postgres) with
      items := [.column (.ofString "id")]
      filter := ⟨[⟨none, .and, [.oneOf .list "name" (.texts ["it's ?"])]⟩], true⟩ }
    let info := (Kind.select.build b false).value
    (Kind.select.run (Kind.select.new (.ofEngine .postgres))
      [.select ["id"], .filter (.require [.oneOf .list "name" (.texts ["it's ?"])])]).value = b ∧
      InList.render .list "name" (.texts ["it's ?"]) = "name IN ('it's ?')" ∧
      info.sql = "select id where (name IN ('it's $1'))" ∧ info.paramCount = 1 ∧
      info.paramFields = "name" := by
  intro b info
  exact ⟨rfl, by cbv, by cbv, by cbv, by cbv⟩

end SqlStatement
