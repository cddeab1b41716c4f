import SqlStatement.Proofs.RawText.Characters

/-!
# Reading raw text in parts

Where a reader of raw text is behind some characters follows from where he was before them, one
character after the other (`RawText.Mode.behind`).  So a text may be read in two parts
(`RawText.marked_append`), provided that the seam does not run through an operator: a question mark
in front of it would otherwise be judged by characters behind it.
-/

namespace SqlStatement.RawText

/-- Whether a character is a marker, from where the reader is and what comes behind it. -/
def isMarker (m : Mode) (c : Char) (rest : List Char) : Bool :=
  decide (m = .outside ∧ c = '?') && !continuesOperator rest

namespace Mode

/-- Where the reader is behind a character. -/
def next (m : Mode) (c : Char) (rest : List Char) : Mode :=
  match m with
  | outside =>
    if c = '\'' ∨ c = '"' then quoted c
    else if c = '?' ∧ continuesOperator rest then operator
    else outside
  | operator => outside
  | quoted q => if c = q then outside else quoted q

/-- Where the reader is behind characters. -/
def behind (m : Mode) : List Char → Mode
  | [] => m
  | c :: cs => (m.next c cs).behind cs

end Mode

/-- A character is marked by itself, and those behind it from where the reader then is. -/
theorem marked_cons (m : Mode) (c : Char) (r : List Char) :
    marked m (c :: r) = (c, isMarker m c r) :: marked (m.next c r) r := by
  cases m with
  | outside =>
    by_cases hquote : c = '\'' ∨ c = '"'
    · have hc : c ≠ '?' := by rcases hquote with rfl | rfl <;> decide
      simp [marked, isMarker, Mode.next, hquote, hc]
    · by_cases hc : c = '?'
      · cases hop : continuesOperator r <;> simp [marked, isMarker, Mode.next, hc, hop]
      · simp [marked, isMarker, Mode.next, hquote, hc]
  | operator => rfl
  | quoted q => simp [marked, isMarker, Mode.next]

/-- A question mark in front of a seam is judged without the characters behind the seam, if these do
not start like the rest of an operator. -/
def Apart (cs rest : List Char) : Prop :=
  '?' ∈ cs → ∀ c ∈ rest.head?, c ≠ '?' ∧ c ≠ '&' ∧ c ≠ '|'

/-- Characters without a question mark are apart from everything. -/
theorem apart_of_notMem {cs : List Char} (h : '?' ∉ cs) (rest : List Char) : Apart cs rest :=
  fun hmem ↦ absurd hmem h

theorem Apart.tail {c : Char} {cs rest : List Char} (h : Apart (c :: cs) rest) : Apart cs rest :=
  fun hmem ↦ h (List.mem_cons_of_mem c hmem)

/-- Characters that do not start like the rest of an operator do not make one. -/
theorem continuesOperator_append {rest : List Char}
    (h : ∀ c ∈ rest.head?, c ≠ '?' ∧ c ≠ '&' ∧ c ≠ '|') (cs : List Char) :
    continuesOperator (cs ++ rest) = continuesOperator cs := by
  cases rest with
  | nil => rw [List.append_nil]
  | cons d rest =>
    obtain ⟨h₁, h₂, h₃⟩ := h d rfl
    cases cs with
    | nil => simp [continuesOperator, h₁, h₂, h₃]
    | cons c cs =>
      cases cs with
      | nil =>
        have hbar : (some d != some '|') = true := by simpa using h₃
        have hend : ((none : Option Char) != some '|') = true := rfl
        simp [continuesOperator, hbar, hend]
      | cons e cs => rfl

/-- What is behind a seam does not change what a character in front of it is. -/
theorem Apart.next_eq {c : Char} {cs rest : List Char} (h : Apart (c :: cs) rest) (m : Mode) :
    isMarker m c (cs ++ rest) = isMarker m c cs ∧ m.next c (cs ++ rest) = m.next c cs := by
  by_cases hc : c = '?'
  · have hseam := continuesOperator_append (h (hc ▸ List.mem_cons_self)) cs
    cases m <;> simp [isMarker, Mode.next, hseam]
  · cases m <;> simp [isMarker, Mode.next, hc]

/-- A text may be read in two parts. -/
theorem marked_append {cs rest : List Char} (h : Apart cs rest) (m : Mode) :
    marked m (cs ++ rest) = marked m cs ++ marked (m.behind cs) rest := by
  induction cs generalizing m with
  | nil => cases m <;> rfl
  | cons c cs ih =>
    obtain ⟨hmarker, hnext⟩ := h.next_eq m
    rw [List.cons_append, marked_cons, marked_cons, hmarker, hnext, ih h.tail]
    rfl

/-! ## Counting markers -/

/-- The number of markers among characters, from where the reader is. -/
def markersFrom (m : Mode) (cs : List Char) : Nat := (marked m cs).countP (·.2)

/-- The markers of a text are those that a reader finds who starts outside quoted text. -/
theorem markers_eq (s : String) : markers s = markersFrom .outside s.toList := rfl

theorem markersFrom_append {cs rest : List Char} (h : Apart cs rest) (m : Mode) :
    markersFrom m (cs ++ rest) = markersFrom m cs + markersFrom (m.behind cs) rest := by
  rw [markersFrom, marked_append h, List.countP_append]
  rfl

/-- A character that is no marker is passed over. -/
theorem markersFrom_cons_of_not {m : Mode} {c : Char} {cs : List Char}
    (h : isMarker m c cs = false) : markersFrom m (c :: cs) = markersFrom (m.next c cs) cs := by
  rw [markersFrom, marked_cons, h, List.countP_cons_of_neg (by simp), markersFrom]

/-- Only question marks are markers. -/
theorem markersFrom_of_notMem {cs : List Char} (h : '?' ∉ cs) (m : Mode) :
    markersFrom m cs = 0 := by
  induction cs generalizing m with
  | nil => cases m <;> rfl
  | cons c cs ih =>
    simp only [List.mem_cons, not_or] at h
    have hc : isMarker m c cs = false := by simp [isMarker, Ne.symm h.1]
    rw [markersFrom_cons_of_not hc]
    exact ih h.2 _

/-- Outside quoted text, characters that open none and are no question marks leave the reader where
he is. -/
theorem Mode.behind_outside {cs : List Char}
    (h : ∀ c ∈ cs, c ≠ '?' ∧ c ≠ '\'' ∧ c ≠ '"') : outside.behind cs = outside := by
  induction cs with
  | nil => rfl
  | cons c cs ih =>
    obtain ⟨hmark, hsingle, hdouble⟩ := h c List.mem_cons_self
    have hnext : outside.next c cs = outside := by simp [next, hmark, hsingle, hdouble]
    rw [behind, hnext]
    exact ih fun d hd ↦ h d (List.mem_cons_of_mem c hd)

/-! ## Text without markers -/

/-- Marked characters are the characters of the text. -/
theorem map_fst_marked (m : Mode) (cs : List Char) : (marked m cs).map (·.1) = cs := by
  induction cs generalizing m with
  | nil => cases m <;> rfl
  | cons c cs ih => rw [marked_cons, List.map_cons, ih]

/-- Without markers there is one span, with all characters. -/
theorem assemble_of_countP_eq_zero (credit : Name) {marks : List (Char × Bool)}
    (h : marks.countP (·.2) = 0) (span : List Char) :
    assemble credit span marks =
      if span ++ marks.map (·.1) = [] then [] else [.text (.ofList (span ++ marks.map (·.1)))] := by
  induction marks generalizing span with
  | nil => simp [assemble]
  | cons x marks ih =>
    obtain ⟨c, isMarker⟩ := x
    cases isMarker with
    | true => simp at h
    | false =>
      rw [assemble, ih (by simpa using h)]
      simp

end RawText

/-- Raw text takes no parameter and is written as it is exactly if there is no marker in it. -/
theorem Printer.raw_eq_text_iff (credit : Name) (s : String) (w : Setting) (p : Page) :
    Printer.raw credit s w p = { p with text := p.text ++ s } ↔ RawText.markers s = 0 := by
  have happly := (Printer.raw_writes credit s w).apply p
  have hplain := Template.plain_ofRaw credit s
  constructor
  · intro h
    have hcount := congrArg (fun q : Page ↦ q.tally.paramCount) (happly.symm.trans h)
    simp only [Template.count, Template.slots, Template.credits_ofRaw,
      List.length_replicate] at hcount
    omega
  · intro h
    have hrender : (Template.ofRaw credit s).render w.dialect p.tally.paramCount = s := by
      rw [Template.ofRaw_eq, RawText.assemble_of_countP_eq_zero credit h, RawText.map_fst_marked]
      split
      · next hnil =>
        have hs : s = "" := by simpa using hnil
        rw [hs]
        rfl
      · simp [Template.render]
    have hcredits : (Template.ofRaw credit s).credits = [] := by
      rw [Template.credits_ofRaw, h, List.replicate_zero]
    have htally : (Template.ofRaw credit s).count p.tally = p.tally := by
      simp [Template.count, Template.slots, hcredits, hplain.fields_eq_nil,
        hplain.returnedColumns_eq_nil, Name.present]
    rw [happly, hrender, htally, hplain.events_eq_nil, List.append_nil]

end SqlStatement
