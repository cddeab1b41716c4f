import Mathlib
import SqlStatement.Dialect

/-!
# The names of engines

An engine goes by one or more names.  A text spells an engine if it is one of its names, with blanks
at the ends and in whatever case the ASCII letters are (`Engine.Spells`); exactly such a text is
understood, and every other one is refused as it stands (`Engine.parse_spelling`).
-/

namespace SqlStatement

/-! ## Letters -/

namespace Text

/-- Characters that are equal, or the capital and the small form of one ASCII letter. -/
def SameLetter (c d : Char) : Prop :=
  c = d ∨ c.isUpper ∧ d.toNat = c.toNat + 32 ∨ d.isUpper ∧ c.toNat = d.toNat + 32

theorem isUpper_iff {c : Char} : c.isUpper = true ↔ 65 ≤ c.toNat ∧ c.toNat ≤ 90 := by
  simp [Char.isUpper, UInt32.le_iff_toNat_le]

theorem isAlpha_iff {c : Char} :
    c.isAlpha = true ↔ 65 ≤ c.toNat ∧ c.toNat ≤ 90 ∨ 97 ≤ c.toNat ∧ c.toNat ≤ 122 := by
  simp [Char.isAlpha, Char.isUpper, Char.isLower, UInt32.le_iff_toNat_le]

theorem toNat_toLower (c : Char) :
    c.toLower.toNat = if c.isUpper then c.toNat + 32 else c.toNat := by
  split
  · next h =>
    have hbound := isUpper_iff.mp h
    rw [Char.toLower_eq_of_isUpper h, Char.toNat_ofNat, if_pos (by left; omega)]
  · next h => rw [Char.toLower_eq_of_not_isUpper h]

/-- Characters are the same letter if their lower-case forms are equal. -/
theorem sameLetter_iff {c d : Char} : SameLetter c d ↔ c.toLower = d.toLower := by
  rw [← Char.toNat_inj, toNat_toLower, toNat_toLower, SameLetter, ← Char.toNat_inj]
  have hc := @isUpper_iff c
  have hd := @isUpper_iff d
  split <;> split <;> simp_all <;> omega

/-- A character is the same letter as its lower-case form. -/
theorem sameLetter_toLower (c : Char) : SameLetter c c.toLower :=
  sameLetter_iff.mpr (Char.toLower_toLower_eq_toLower c).symm

/-- Only ASCII letters are the same letter as an ASCII letter. -/
theorem SameLetter.isAlpha {c d : Char} (h : SameLetter c d) (hd : d.isAlpha = true) :
    c.isAlpha = true := by
  rw [← Char.isAlpha_toLower_eq_isAlpha, sameLetter_iff.mp h, Char.isAlpha_toLower_eq_isAlpha, hd]

/-- ASCII letters are no blanks. -/
theorem isBlank_of_isAlpha {c : Char} (h : c.isAlpha = true) : isBlank c = false := by
  rw [isAlpha_iff] at h
  rw [← Bool.not_eq_true, isBlank, inRanges_iff]
  rintro ⟨r, hr, hc⟩
  have hlow : ∀ r ∈ blankRanges, r.2 < 65 ∨ 122 < r.1 := by decide
  have hrange := hlow r hr
  omega

/-- Characters are, letter by letter, those of a lower-case word exactly if their lower-case form is
that word. -/
theorem forall₂_sameLetter_iff {cs ds : List Char} (hds : ds.map Char.toLower = ds) :
    List.Forall₂ SameLetter cs ds ↔ cs.map Char.toLower = ds := by
  have hsame : SameLetter = fun c d ↦ c.toLower = d.toLower := by
    ext c d
    exact sameLetter_iff
  have hlower : List.Forall₂ SameLetter cs ds ↔
      List.Forall₂ (· = ·) (cs.map Char.toLower) (ds.map Char.toLower) := by
    rw [hsame, List.forall₂_map_left_iff, List.forall₂_map_right_iff]
  rw [hlower, List.forall₂_eq_eq_eq, hds]

/-- What is, letter by letter, made of ASCII letters is made of ASCII letters. -/
theorem isAlpha_of_forall₂ {cs ds : List Char} (h : List.Forall₂ SameLetter cs ds)
    (hds : ∀ d ∈ ds, d.isAlpha = true) : ∀ c ∈ cs, c.isAlpha = true := by
  induction h with
  | nil => exact nofun
  | cons hcd _ ih =>
    rw [List.forall_mem_cons] at hds ⊢
    exact ⟨hcd.isAlpha hds.1, ih hds.2⟩

end Text

namespace Engine

/-- The names of engines. -/
def names : List (String × Engine) :=
  [("pgsql", postgres), ("postgres", postgres), ("postgresql", postgres), ("mssql", mssql),
    ("sqlserver", mssql), ("mysql", mysql)]

/-- Names are made of ASCII letters in lower case. -/
theorem lower_of_mem_names {name : String} {e : Engine} (h : (name, e) ∈ names) :
    name.toList.map Char.toLower = name.toList ∧ ∀ c ∈ name.toList, c.isAlpha = true := by
  simp only [names, List.mem_cons, List.not_mem_nil, or_false, Prod.mk.injEq] at h
  rcases h with ⟨rfl, rfl⟩ | ⟨rfl, rfl⟩ | ⟨rfl, rfl⟩ | ⟨rfl, rfl⟩ | ⟨rfl, rfl⟩ | ⟨rfl, rfl⟩ <;>
    exact ⟨rfl, List.all_eq_true.mp rfl⟩

theorem mem_names_iff {name : String} {e : Engine} : (name, e) ∈ names ↔ name ∈ e.spellings := by
  cases e <;> simp [names, spellings]

/-- No name is that of two engines. -/
theorem eq_of_mem_names {name : String} {e e' : Engine} (h : (name, e) ∈ names)
    (h' : (name, e') ∈ names) : e = e' := by
  have hnodup : (names.map Prod.fst).Nodup := by decide
  exact congrArg Prod.snd (List.inj_on_of_nodup_map hnodup h h' rfl)

/-- The word for an engine is one of its names. -/
theorem word_mem_names (e : Engine) : (e.word, e) ∈ names := by
  cases e <;> decide

/-- A text spells an engine: it has blanks, a name of the engine in any letter case, and blanks. -/
def Spells (s : String) (e : Engine) : Prop :=
  ∃ before word behind : List Char, s.toList = before ++ word ++ behind ∧
    (∀ c ∈ before, Text.isBlank c = true) ∧ (∀ c ∈ behind, Text.isBlank c = true) ∧
    ∃ name, (name, e) ∈ names ∧ List.Forall₂ Text.SameLetter word name.toList

/-- There are only blanks and ASCII letters in a text that spells an engine. -/
theorem Spells.isBlank_or_isAlpha {s : String} {e : Engine} (h : Spells s e) {c : Char}
    (hc : c ∈ s.toList) : Text.isBlank c = true ∨ c.isAlpha = true := by
  obtain ⟨before, word, behind, hs, hbefore, hbehind, name, hname, hword⟩ := h
  rw [hs, List.mem_append, List.mem_append] at hc
  rcases hc with (hc | hc) | hc
  · exact .inl (hbefore c hc)
  · exact .inr (Text.isAlpha_of_forall₂ hword (lower_of_mem_names hname).2 c hc)
  · exact .inl (hbehind c hc)

/-- A text spells an engine exactly if its trimmed form is, in lower case, a name of the engine. -/
theorem spells_iff {s : String} {e : Engine} :
    Spells s e ↔ (Text.asciiLower (Text.trim s), e) ∈ names := by
  constructor
  · rintro ⟨before, word, behind, hs, hbefore, hbehind, name, hname, hword⟩
    obtain ⟨hlower, hletters⟩ := lower_of_mem_names hname
    have hblank : ∀ c ∈ word, Text.isBlank c = false := fun c hc ↦
      Text.isBlank_of_isAlpha (Text.isAlpha_of_forall₂ hword hletters c hc)
    have htrims : Text.Trims (.ofList word) s := by
      constructor
      · exact ⟨before, behind, hbefore, hbehind, by rw [hs, String.toList_ofList]⟩
      · exact fun c hc ↦ hblank c (List.mem_of_mem_head? (by rwa [String.toList_ofList] at hc))
      · exact fun c hc ↦ hblank c (List.mem_of_getLast? (by rwa [String.toList_ofList] at hc))
    rw [← htrims.eq_trim, Text.asciiLower, String.toList_ofList,
      (Text.forall₂_sameLetter_iff hlower).mp hword, String.ofList_toList]
    exact hname
  · intro h
    obtain ⟨before, behind, hbefore, hbehind, hs⟩ := (Text.trims_trim s).within
    refine ⟨before, (Text.trim s).toList, behind, hs, hbefore, hbehind, _, h, ?_⟩
    rw [Text.asciiLower, String.toList_ofList, List.forall₂_map_right_iff, List.forall₂_same]
    exact fun c _ ↦ Text.sameLetter_toLower c

/-- A text is understood as an engine exactly if its trimmed form is, in lower case, a name of the
engine. -/
theorem parse_eq_ok_iff {s : String} {e : Engine} :
    parse s = .ok e ↔ (Text.asciiLower (Text.trim s), e) ∈ names := by
  unfold parse
  generalize Text.asciiLower (Text.trim s) = w
  split
  · next found hfound =>
    have hspelling := List.find?_some hfound
    have hw : (w, found) ∈ names := mem_names_iff.mpr (of_decide_eq_true hspelling)
    constructor
    · rintro ⟨rfl⟩
      exact hw
    · intro h
      rw [eq_of_mem_names hw h]
  · next hnone =>
    constructor
    · exact nofun
    · intro h
      have hall : e ∈ all := by cases e <;> decide
      exact absurd (decide_eq_true (mem_names_iff.mp h)) (List.find?_eq_none.mp hnone e hall)

/-- A text that is not understood is refused as it stands. -/
theorem parse_eq_error_iff {s : String} {err : Error} :
    parse s = .error err ↔ err = .unknownDialect s ∧ ∀ e, parse s ≠ .ok e := by
  unfold parse
  split
  · simp
  · simp [eq_comm]

/-- A text is understood as an engine exactly if it spells the engine, and else it is refused as it
stands. A dialect is understood in the same way as the usual one of the engine. Whatever holds more
than blanks and ASCII letters is refused. The word for an engine is understood as the engine in any
letter case and with any blanks around it. -/
theorem parse_spelling (s : String) :
    (∀ e, parse s = .ok e ↔ Spells s e) ∧
    (∀ err, parse s = .error err ↔ err = .unknownDialect s ∧ ∀ e, ¬ Spells s e) ∧
    (∀ d, Dialect.parse s = .ok d ↔ ∃ e, Spells s e ∧ d = .ofEngine e) ∧
    (∀ err, Dialect.parse s = .error err ↔ parse s = .error err) ∧
    (∀ c ∈ s.toList, Text.isBlank c = false → c.isAlpha = false →
      parse s = .error (.unknownDialect s)) ∧
    ∀ (e : Engine) (before word behind : List Char), s.toList = before ++ word ++ behind →
      (∀ c ∈ before, Text.isBlank c = true) → (∀ c ∈ behind, Text.isBlank c = true) →
      List.Forall₂ Text.SameLetter word e.word.toList → parse s = .ok e := by
  have hok : ∀ e, parse s = .ok e ↔ Spells s e := fun e ↦ parse_eq_ok_iff.trans spells_iff.symm
  refine ⟨hok, fun err ↦ ?_, fun d ↦ ?_, fun err ↦ ?_, fun c hc hblank halpha ↦ ?_, ?_⟩
  · simp only [parse_eq_error_iff, Ne, hok]
  · simp only [← hok, Dialect.parse]
    cases parse s <;> simp [Except.map, eq_comm]
  · rw [Dialect.parse]
    cases parse s <;> simp [Except.map]
  · refine parse_eq_error_iff.mpr ⟨rfl, fun e he ↦ ?_⟩
    rcases ((hok e).mp he).isBlank_or_isAlpha hc with h | h
    · rw [hblank] at h
      cases h
    · rw [halpha] at h
      cases h
  · intro e before word behind hs hbefore hbehind hword
    exact (hok e).mpr ⟨before, word, behind, hs, hbefore, hbehind, e.word, word_mem_names e, hword⟩

/-- A name in mixed case with blanks that are not in ASCII, a word in capitals, a name with a long
s, and one with a zero width space in front, which is no blank. -/
theorem parse_spelling_padded :
    parse "\u00a0\u3000PostgreSQL\t" = .ok .postgres ∧
      Dialect.parse "\u00a0\u3000PostgreSQL\t" = .ok (.ofEngine .postgres) ∧
      parse "\nMSSQL" = .ok .mssql ∧
      parse "m\u017fsql" = .error (.unknownDialect "m\u017fsql") ∧
      parse "\u200bMySQL" = .error (.unknownDialect "\u200bMySQL") := by
  have hpostgres : Spells "\u00a0\u3000PostgreSQL\t" .postgres := by
    refine ⟨['\u00a0', '\u3000'], "PostgreSQL".toList, ['\t'], rfl, ?_, ?_, "postgresql", ?_, ?_⟩
    · exact List.all_eq_true.mp rfl
    · exact List.all_eq_true.mp rfl
    · simp [names]
    · exact (Text.forall₂_sameLetter_iff rfl).mpr rfl
  obtain ⟨hok, -, hdialect, -⟩ := parse_spelling "\u00a0\u3000PostgreSQL\t"
  obtain ⟨-, -, -, -, -, hword⟩ := parse_spelling "\nMSSQL"
  obtain ⟨-, -, -, -, hlong, -⟩ := parse_spelling "m\u017fsql"
  obtain ⟨-, -, -, -, hfiller, -⟩ := parse_spelling "\u200bMySQL"
  refine ⟨(hok .postgres).mpr hpostgres, (hdialect _).mpr ⟨.postgres, hpostgres, rfl⟩, ?_, ?_, ?_⟩
  · refine hword .mssql ['\n'] "MSSQL".toList [] rfl ?_ nofun ?_
    · exact List.all_eq_true.mp rfl
    · exact (Text.forall₂_sameLetter_iff rfl).mpr rfl
  · exact hlong '\u017f' (by simp) (by decide) (by decide)
  · exact hfiller '\u200b' (by simp) (by decide) (by decide)

end Engine

end SqlStatement
