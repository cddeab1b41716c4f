import Mathlib
import SqlStatement.Proofs.RawText.Modes

/-!
# Which question marks are markers

The markers of raw text can be told without reading operators off the text from left to right.
Quoted text is what lies between a quote and the next quote of the same sort; a doubled quote needs
no mention, since it closes the quoted text and opens it again.  Of the bare question marks, which
are not quoted, those in a row are paired off from the left (`RawText.Told`), so that one is left
over if their number is odd: the last one, which is a marker unless it makes an operator with what
comes behind it (`RawText.MarkRun.mem_markerOffsets_iff`).  The text is written with these question
marks replaced, and with nothing else changed (`Printer.raw_replaces_markers`).
-/

namespace SqlStatement

namespace RawText

/-! ## Quotes and question marks -/

/-- In which quotes a character of a text is. -/
inductive Quoting
  | outside
  | single
  | double
  deriving DecidableEq

/-- Outside quoted text a quote opens it, and inside the same quote closes it. -/
def Quoting.next (q : Quoting) (c : Char) : Quoting :=
  match q with
  | outside => if c = '\'' then single else if c = '"' then double else outside
  | single => if c = '\'' then outside else single
  | double => if c = '"' then outside else double

/-- In which quotes the character at an offset is. Offsets count characters. -/
def quotingAt (cs : List Char) (i : Nat) : Quoting := (cs.take i).foldl Quoting.next .outside

/-- At an offset there is a question mark that is not quoted. -/
def BareMark (cs : List Char) (i : Nat) : Prop := cs[i]? = some '?' ∧ quotingAt cs i = .outside

instance (cs : List Char) (i : Nat) : Decidable (BareMark cs i) :=
  inferInstanceAs (Decidable (_ ∧ _))

/-- All bare question marks in a row: their number is `n`, and the first one is at `start`. -/
structure MarkRun (cs : List Char) (start n : Nat) : Prop where
  pos : 0 < n
  marks : ∀ i < n, BareMark cs (start + i)
  front : ∀ i, i + 1 = start → ¬BareMark cs i
  behind : ¬BareMark cs (start + n)

/-- The characters at an offset make an operator of a single question mark in front of them. -/
def OperatorAt (cs : List Char) (i : Nat) : Prop :=
  cs[i]? = some '&' ∨ cs[i]? = some '|' ∧ cs[i + 1]? ≠ some '|'

/-- A text whose characters at some offsets are replaced by placeholders, in their order, of which
the first one comes behind `start` parameters. -/
def replaced (d : Dialect) (start : Nat) (offsets : List Nat) (cs : List Char) : String :=
  String.join <| cs.mapIdx fun i c ↦
    if i ∈ offsets then d.placeholder (start + offsets.idxOf i + 1) else .singleton c

variable {cs : List Char} {i : Nat} {c : Char}

theorem quotingAt_succ (h : cs[i]? = some c) :
    quotingAt cs (i + 1) = (quotingAt cs i).next c := by
  rw [quotingAt, List.take_add_one, h, Option.toList_some, List.foldl_append]
  rfl

/-- An operator is made by what is the rest of one, which may be a question mark as well. -/
theorem continuesOperator_drop :
    continuesOperator (cs.drop i) = true ↔ cs[i]? = some '?' ∨ OperatorAt cs i := by
  have h₀ : cs[i]? = (cs.drop i)[0]? := by rw [List.getElem?_drop, Nat.add_zero]
  have h₁ : cs[i + 1]? = (cs.drop i)[1]? := by rw [List.getElem?_drop]
  rw [OperatorAt, h₀, h₁]
  cases cs.drop i with
  | nil => simp [continuesOperator]
  | cons c r => simp [continuesOperator, List.head?_eq_getElem?, or_assoc]

/-! ## Question marks in a row -/

/-- The number of bare question marks in a row that end in front of an offset. -/
def marksBefore (cs : List Char) : Nat → Nat
  | 0 => 0
  | i + 1 => if BareMark cs i then marksBefore cs i + 1 else 0

theorem marksBefore_succ_of_bare (h : BareMark cs i) :
    marksBefore cs (i + 1) = marksBefore cs i + 1 := if_pos h

theorem marksBefore_succ_of_not (h : ¬BareMark cs i) : marksBefore cs (i + 1) = 0 := if_neg h

/-- The bare question marks in front of an offset are in a row, and there is none in front of
them. -/
theorem exists_start (cs : List Char) (i : Nat) :
    ∃ start, start + marksBefore cs i = i ∧
      (∀ j < marksBefore cs i, BareMark cs (start + j)) ∧
      ∀ j, j + 1 = start → ¬BareMark cs j := by
  induction i with
  | zero => exact ⟨0, rfl, nofun, nofun⟩
  | succ i ih =>
    by_cases h : BareMark cs i
    · obtain ⟨start, hstart, hmarks, hfront⟩ := ih
      rw [marksBefore_succ_of_bare h]
      refine ⟨start, by omega, fun j hj ↦ ?_, hfront⟩
      rcases Nat.lt_succ_iff_lt_or_eq.mp hj with hj | rfl
      · exact hmarks j hj
      · rwa [hstart]
    · rw [marksBefore_succ_of_not h]
      refine ⟨i + 1, rfl, nofun, fun j hj ↦ ?_⟩
      rwa [Nat.succ.inj hj]

/-- A bare question mark with none behind it is the last one in a row. -/
theorem exists_markRun (h : BareMark cs i) (hbehind : ¬BareMark cs (i + 1)) :
    ∃ start n, MarkRun cs start n ∧ start + n = i + 1 := by
  obtain ⟨start, hstart, hmarks, hfront⟩ := exists_start cs (i + 1)
  have hpos : 0 < marksBefore cs (i + 1) := by
    rw [marksBefore_succ_of_bare h]
    exact Nat.succ_pos _
  exact ⟨start, _, ⟨hpos, hmarks, hfront, by rwa [hstart]⟩, hstart⟩

/-- Within a row, the bare question marks are counted from its start on. -/
theorem MarkRun.marksBefore_eq {start n : Nat} (h : MarkRun cs start n) (hi : i ≤ n) :
    marksBefore cs (start + i) = i := by
  induction i with
  | zero =>
    cases start with
    | zero => rfl
    | succ s => exact marksBefore_succ_of_not (h.front s rfl)
  | succ i ih =>
    have hmark : marksBefore cs (start + i + 1) = _ := marksBefore_succ_of_bare (h.marks i hi)
    rw [← Nat.add_assoc, hmark, ih (Nat.le_of_succ_le hi)]

/-! ## Where the reader is -/

/-- Where a reader of raw text is at an offset. -/
def modeAt : Mode → List Char → Nat → Mode
  | m, _, 0 => m
  | m, [], _ + 1 => m
  | m, c :: cs, i + 1 => modeAt (m.next c cs) cs i

theorem modeAt_succ (m : Mode) (h : cs[i]? = some c) :
    modeAt m cs (i + 1) = (modeAt m cs i).next c (cs.drop (i + 1)) := by
  induction cs generalizing m i with
  | nil => cases h
  | cons d cs ih =>
    cases i with
    | zero =>
      obtain rfl : d = c := Option.some.inj h
      cases cs <;> rfl
    | succ i => exact ih (m.next d cs) h

/-- Whether a character is marked depends on where the reader is and on what is behind it. -/
theorem getElem?_marked (m : Mode) (cs : List Char) (i : Nat) :
    (marked m cs)[i]? =
      cs[i]?.map fun c ↦ (c, isMarker (modeAt m cs i) c (cs.drop (i + 1))) := by
  induction cs generalizing m i with
  | nil => cases m <;> rfl
  | cons d cs ih =>
    rw [marked_cons]
    cases i with
    | zero => rfl
    | succ i => exact ih (m.next d cs) i

/-- What the place of the reader tells of the characters in front of him: outside quoted text, the
question marks are paired off, if another one follows. -/
def Told (cs : List Char) (i : Nat) : Mode → Prop
  | .outside => quotingAt cs i = .outside ∧ (cs[i]? = some '?' → marksBefore cs i % 2 = 0)
  | .operator => quotingAt cs i = .outside ∧ marksBefore cs i % 2 = 1 ∧
      continuesOperator (cs.drop i) = true
  | .quoted q => q = '\'' ∧ quotingAt cs i = .single ∨ q = '"' ∧ quotingAt cs i = .double

/-- A character other than the quotes and the question mark leaves a reader outside. -/
theorem told_outside_of_ne (hout : quotingAt cs i = .outside) (hc : cs[i]? = some c)
    (hmark : c ≠ '?') (hsingle : c ≠ '\'') (hdouble : c ≠ '"') : Told cs (i + 1) .outside := by
  have hbare : ¬BareMark cs i := fun h ↦ hmark (Option.some.inj (hc.symm.trans h.1))
  refine ⟨?_, fun _ ↦ ?_⟩
  · rw [quotingAt_succ hc, hout]
    simp [Quoting.next, hsingle, hdouble]
  · rw [marksBefore_succ_of_not hbare]

/-- Reading one more character keeps what the place of the reader tells. -/
theorem Told.next {m : Mode} (h : Told cs i m) (hc : cs[i]? = some c) :
    Told cs (i + 1) (m.next c (cs.drop (i + 1))) := by
  cases m with
  | outside =>
    obtain ⟨hout, heven⟩ := h
    have hquoting := (quotingAt_succ hc).trans (congrArg (Quoting.next · c) hout)
    by_cases hquote : c = '\'' ∨ c = '"'
    · rw [Mode.next, if_pos hquote]
      rcases hquote with rfl | rfl
      · exact .inl ⟨rfl, hquoting⟩
      · exact .inr ⟨rfl, hquoting⟩
    · rw [Mode.next, if_neg hquote]
      by_cases hmark : c = '?'
      · subst hmark
        have hsucc := marksBefore_succ_of_bare ⟨hc, hout⟩
        have hpaired := heven hc
        split
        · next hop => exact ⟨hquoting, by omega, hop.2⟩
        · next hop =>
          -- A question mark behind this one would have made it an operator.
          refine ⟨hquoting, fun hnext ↦ absurd ⟨rfl, ?_⟩ hop⟩
          exact continuesOperator_drop.mpr (.inl hnext)
      · rw [if_neg fun hop ↦ hmark hop.1]
        rw [not_or] at hquote
        exact told_outside_of_ne hout hc hmark hquote.1 hquote.2
  | operator =>
    obtain ⟨hout, hodd, hcontinues⟩ := h
    show Told cs (i + 1) .outside
    rcases continuesOperator_drop.mp hcontinues with hmark | hamp | ⟨hbar, -⟩
    · have hsucc := marksBefore_succ_of_bare ⟨hmark, hout⟩
      rw [Told, quotingAt_succ hmark, hout]
      exact ⟨rfl, fun _ ↦ by omega⟩
    · exact told_outside_of_ne hout hamp (by decide) (by decide) (by decide)
    · exact told_outside_of_ne hout hbar (by decide) (by decide) (by decide)
  | quoted q =>
    have hbare : ¬BareMark cs i := by
      intro hmark
      rcases h with ⟨-, h⟩ | ⟨-, h⟩ <;> cases hmark.2.symm.trans h
    have hnone := marksBefore_succ_of_not hbare
    have hquoting := quotingAt_succ hc
    rw [Mode.next]
    split
    · next hclose =>
      subst hclose
      refine ⟨?_, fun _ ↦ by omega⟩
      rw [hquoting]
      rcases h with ⟨rfl, h⟩ | ⟨rfl, h⟩ <;> rw [h] <;> rfl
    · next hopen =>
      rcases h with ⟨rfl, h⟩ | ⟨rfl, h⟩
      · exact .inl ⟨rfl, by rw [hquoting, h, Quoting.next, if_neg hopen]⟩
      · exact .inr ⟨rfl, by rw [hquoting, h, Quoting.next, if_neg hopen]⟩

/-- The place of the reader tells this everywhere in a text. -/
theorem told_modeAt (h : i ≤ cs.length) : Told cs i (modeAt .outside cs i) := by
  induction i with
  | zero =>
    have hstart : modeAt .outside cs 0 = .outside := by cases cs <;> rfl
    rw [hstart]
    exact ⟨rfl, fun _ ↦ rfl⟩
  | succ i ih =>
    have hc := List.getElem?_eq_getElem (Nat.lt_of_succ_le h)
    rw [modeAt_succ _ hc]
    exact (ih (Nat.le_of_succ_le h)).next hc

/-! ## Which question marks are markers -/

/-- The offsets of the markers of a text. -/
def markerOffsets (cs : List Char) : List Nat := (marked .outside cs).findIdxs (·.2)

/-- The offsets of the markers are those at which the reader finds one. -/
theorem mem_markerOffsets :
    i ∈ markerOffsets cs ↔ modeAt .outside cs i = .outside ∧ cs[i]? = some '?' ∧
      continuesOperator (cs.drop (i + 1)) = false := by
  have hmem : i ∈ markerOffsets cs ↔ (marked .outside cs)[i]?.map (·.2) = some true := by
    rw [markerOffsets, List.mem_findIdxs_iff_exists_getElem_pos, Option.map_eq_some_iff]
    simp [List.getElem?_eq_some_iff]
  rw [hmem, getElem?_marked, Option.map_map]
  cases cs[i]? with
  | none => simp
  | some c => simp [isMarker, and_assoc]

/-- A marker is a bare question mark, and the last one in its row. -/
theorem exists_markRun_of_mem (h : i ∈ markerOffsets cs) :
    ∃ start n, MarkRun cs start n ∧ start + n = i + 1 := by
  obtain ⟨hmode, hmark, hcontinues⟩ := mem_markerOffsets.mp h
  have hlt : i < cs.length := (List.getElem?_eq_some_iff.mp hmark).1
  have htold := told_modeAt hlt.le
  rw [hmode] at htold
  refine exists_markRun ⟨hmark, htold.1⟩ fun hnext ↦ ?_
  rw [continuesOperator_drop.mpr (.inl hnext.1)] at hcontinues
  cases hcontinues

/-- Of bare question marks in a row, at most the last one is a marker. It is one if their number is
odd and it makes no operator with what is behind it. -/
theorem MarkRun.mem_markerOffsets_iff {start n : Nat} (h : MarkRun cs start n) (hi : i < n) :
    start + i ∈ markerOffsets cs ↔ n % 2 = 1 ∧ i + 1 = n ∧ ¬OperatorAt cs (start + n) := by
  obtain ⟨hmark, hout⟩ := h.marks i hi
  have hlt : start + i < cs.length := (List.getElem?_eq_some_iff.mp hmark).1
  have htold := told_modeAt hlt.le
  have hbefore := h.marksBefore_eq hi.le
  rw [mem_markerOffsets, ← Bool.not_eq_true, continuesOperator_drop, not_or]
  rcases Nat.lt_or_eq_of_le (Nat.succ_le_of_lt hi) with hlast | hlast
  · have hnext : cs[start + i + 1]? = some '?' := (h.marks (i + 1) hlast).1
    constructor
    · rintro ⟨-, -, hno, -⟩
      exact absurd hnext hno
    · rintro ⟨-, hlast', -⟩
      exact absurd hlast' hlast.ne
  · obtain rfl : n = i + 1 := hlast.symm
    have hnext : cs[start + i + 1]? ≠ some '?' := fun hnext ↦
      h.behind ⟨hnext, by rw [← Nat.add_assoc, quotingAt_succ hmark, hout]; rfl⟩
    cases hmode : modeAt .outside cs (start + i) with
    | outside =>
      rw [hmode] at htold
      have heven := htold.2 hmark
      exact ⟨fun ⟨_, _, _, hop⟩ ↦ ⟨by omega, rfl, hop⟩, fun ⟨_, _, hop⟩ ↦ ⟨rfl, hmark, hnext, hop⟩⟩
    | operator =>
      rw [hmode] at htold
      have hodd := htold.2.1
      exact ⟨nofun, fun ⟨_, _, _⟩ ↦ by omega⟩
    | quoted q =>
      rw [hmode] at htold
      rcases htold with ⟨-, hin⟩ | ⟨-, hin⟩ <;> cases hout.symm.trans hin

/-! ## The text with placeholders -/

/-- Marked characters are written with placeholders at the offsets of the markers, the offset of the
first character being `first`. -/
theorem substituted_eq_join (d : Dialect) (marks : List (Char × Bool)) (start first : Nat) :
    substituted d start marks =
      String.join (marks.mapIdx fun i m ↦
        if i + first ∈ marks.findIdxs (·.2) first then
          d.placeholder (start + (marks.findIdxs (·.2) first).idxOf (i + first) + 1)
        else .singleton m.1) := by
  induction marks generalizing start first with
  | nil => rfl
  | cons m marks ih =>
    obtain ⟨c, isMarker⟩ := m
    have hshift : ∀ i, i + 1 + first = i + (first + 1) := fun i ↦ by omega
    rw [List.mapIdx_cons, String.join_cons, List.findIdxs_cons]
    simp only [Nat.zero_add, hshift]
    cases isMarker with
    | false =>
      have hfirst : first ∉ marks.findIdxs (·.2) (first + 1) := fun hmem ↦
        absurd (List.ge_of_mem_findIdxs first hmem) (Nat.not_succ_le_self first)
      rw [substituted, ih start (first + 1), if_neg Bool.false_ne_true, if_neg hfirst]
    | true =>
      have hne : ∀ i, i + (first + 1) ≠ first := fun i ↦ by omega
      have hidx : ∀ i, (first :: marks.findIdxs (·.2) (first + 1)).idxOf (i + (first + 1)) =
          (marks.findIdxs (·.2) (first + 1)).idxOf (i + (first + 1)) + 1 := fun i ↦
        List.idxOf_cons_ne _ (hne i).symm
      rw [substituted, ih (start + 1) (first + 1), if_pos rfl, if_pos List.mem_cons_self,
        List.idxOf_cons_self]
      simp only [List.mem_cons, hne, false_or, hidx]
      congr 3
      funext i m
      rw [Nat.add_assoc start 1, Nat.add_comm 1]

/-- Raw text is written with placeholders in the places of its markers. -/
theorem numbered_eq_replaced (d : Dialect) (start : Nat) (s : String) :
    numbered d start s = replaced d start (markerOffsets s.toList) s.toList := by
  rw [numbered, substituted_eq_join d _ start 0, replaced]
  refine congrArg String.join (List.ext_getElem? fun i ↦ ?_)
  rw [List.getElem?_mapIdx, List.getElem?_mapIdx, getElem?_marked, Option.map_map]
  rfl

/-- The last of three question marks, one in front of two bars and one at the end are markers; those
of operators and those in quotes are none. -/
example : numbered ⟨.postgres, "$", true⟩ 4 "a ??? '?''?' b ?|| c ?| ?" =
    "a ??$5 '?''?' b $6|| c ?| $7" := by cbv

/-- If a question mark stands for every parameter, replacing question marks changes nothing. -/
theorem replaced_eq_self {d : Dialect} (hsigil : d.sigil = "?") (hnumbered : d.numbered = false)
    {offsets : List Nat} (h : ∀ i ∈ offsets, cs[i]? = some '?') (start : Nat) :
    replaced d start offsets cs = .ofList cs := by
  have hplaceholder : ∀ n, d.placeholder n = .singleton '?' := fun n ↦ by
    rw [Dialect.placeholder, hnumbered, hsigil]
    rfl
  have hsame : (cs.mapIdx fun i c ↦
      if i ∈ offsets then d.placeholder (start + offsets.idxOf i + 1) else .singleton c) =
        cs.map String.singleton := by
    refine List.ext_getElem? fun i ↦ ?_
    rw [List.getElem?_mapIdx, List.getElem?_map]
    by_cases hi : i ∈ offsets
    · rw [h i hi, Option.map_some, Option.map_some, if_pos hi, hplaceholder]
    · simp only [if_neg hi]
  have hsingle : String.toList ∘ String.singleton = fun c ↦ [c] :=
    funext fun c ↦ by rw [Function.comp_apply, String.toList_singleton]
  rw [replaced, hsame, String.join_eq, List.map_map, hsingle, ← List.flatMap_def,
    List.flatMap_singleton']

end RawText

/-- Parameters that are credited to the same name are counted and listed one by one. -/
theorem Tally.iterate_param (credit : Name) (n : Nat) (t : Tally) :
    (fun t : Tally ↦ t.param credit)^[n] t =
      { t with
        paramCount := t.paramCount + n
        params := Listing.add t.params (Name.commaList (List.replicate n credit)) } := by
  induction n generalizing t with
  | zero => rfl
  | succ n ih =>
    rw [Function.iterate_succ_apply, ih, List.replicate_succ, Name.commaList_cons, Tally.param,
      Listing.add_assoc, Nat.add_assoc, Nat.add_comm 1]

/-- Of raw text, the tally counts the markers and credits them. -/
theorem Template.count_ofRaw (credit : Name) (s : String) (t : Tally) :
    (ofRaw credit s).count t = (fun t : Tally ↦ t.param credit)^[RawText.markers s] t := by
  have hplain := plain_ofRaw credit s
  rw [Tally.iterate_param, count, slots, credits_ofRaw, hplain.fields_eq_nil,
    hplain.returnedColumns_eq_nil, List.length_replicate]
  simp [Name.present]

/-- Raw text is written with its markers replaced and nothing else changed. The markers are told by
the bare question marks in a row: none of these is a marker if their number is even; otherwise the
last one is, unless an ampersand comes behind it, or a bar that is not the first of two. The marker
behind `k` others has the placeholder of the `k + 1`st parameter behind those on the page, and each
one is counted and credited to the given name. Where a question mark without an ordinal stands for
each parameter, the text is written as it is. -/
theorem Printer.raw_replaces_markers (credit : Name) (s : String) (w : Setting) (p : Page) :
    ∃ offsets : List Nat, offsets.Pairwise (· < ·) ∧
      (∀ i ∈ offsets, ∃ start n, RawText.MarkRun s.toList start n ∧ start + n = i + 1) ∧
      (∀ start n, RawText.MarkRun s.toList start n → ∀ i < n,
        (start + i ∈ offsets ↔
          n % 2 = 1 ∧ i + 1 = n ∧ ¬RawText.OperatorAt s.toList (start + n))) ∧
      Printer.raw credit s w p =
        ⟨p.text ++ RawText.replaced w.dialect p.tally.paramCount offsets s.toList,
          (fun t : Tally ↦ t.param credit)^[offsets.length] p.tally, p.events⟩ ∧
      (w.dialect.sigil = "?" → w.dialect.numbered = false →
        (Printer.raw credit s w p).text = p.text ++ s) := by
  have happly := (Printer.raw_writes credit s w).apply p
  have hevents := (Template.plain_ofRaw credit s).events_eq_nil
  have htext : (Template.ofRaw credit s).render w.dialect p.tally.paramCount =
      RawText.replaced w.dialect p.tally.paramCount (RawText.markerOffsets s.toList) s.toList := by
    rw [← RawText.numbered_eq_replaced, Template.ofRaw_eq, RawText.render_assemble]
    exact String.empty_append
  refine ⟨RawText.markerOffsets s.toList, List.pairwise_findIdxs,
    fun i hi ↦ RawText.exists_markRun_of_mem hi, fun start n hrun i hi ↦
    hrun.mem_markerOffsets_iff hi, ?_, fun hsigil hnumbered ↦ ?_⟩
  · rw [happly, Template.count_ofRaw, hevents, List.append_nil, htext, RawText.markerOffsets,
      List.length_findIdxs]
    rfl
  · rw [happly]
    refine congrArg (p.text ++ ·) ?_
    rw [htext, RawText.replaced_eq_self hsigil hnumbered]
    · exact String.ofList_toList
    · exact fun i hi ↦ (RawText.mem_markerOffsets.mp hi).2.1

end SqlStatement
