import SqlStatement.Text.CodeRange

/-!
# Blank characters and trimming

A character is blank if it has the Unicode property `White_Space`.  `Text.trim` removes the blanks
at both ends of a text and keeps those inside.  A trimmed text has no blank at either end
(`head?_trimChars`, `getLast?_trimChars`), so trimming a second time changes nothing (`trim_trim`).
-/

namespace SqlStatement.Text

/-- The code points with the property `White_Space`, in ascending order. -/
def blankRanges : List CodeRange :=
  [(0x9, 0xD), (0x20, 0x20), (0x85, 0x85), (0xA0, 0xA0), (0x1680, 0x1680), (0x2000, 0x200A),
   (0x2028, 0x2029), (0x202F, 0x202F), (0x205F, 0x205F), (0x3000, 0x3000)]

/-- A blank is a character with the property `White_Space`. -/
def isBlank (c : Char) : Bool := inRanges blankRanges c

/-- The list without its blanks at the end. -/
def trimEnd : List Char → List Char
  | [] => []
  | c :: r => if trimEnd r = [] ∧ isBlank c then [] else c :: trimEnd r

/-- The list without its blanks at both ends. -/
def trimChars (cs : List Char) : List Char := trimEnd (cs.dropWhile isBlank)

/-- The text without its blanks at both ends. -/
def trim (s : String) : String := .ofList (trimChars s.toList)

/-- Trimming works on the characters of a text. -/
@[simp] theorem toList_trim (s : String) : (trim s).toList = trimChars s.toList := by
  simp [trim]

/-! ## What trimming leaves -/

/-- Trimming the end keeps a first character that is no blank. -/
theorem trimEnd_cons_of_not_blank {c : Char} (h : isBlank c = false) (r : List Char) :
    trimEnd (c :: r) = c :: trimEnd r := by
  simp [trimEnd, h]

/-- Trimming the end leaves no blank there. -/
theorem getLast?_trimEnd {cs : List Char} {c : Char} (h : (trimEnd cs).getLast? = some c) :
    isBlank c = false := by
  induction cs with
  | nil => simp [trimEnd] at h
  | cons d r ih =>
    rw [trimEnd] at h
    split at h
    · simp at h
    · next hd =>
      cases hr : trimEnd r with
      | nil =>
        rw [hr] at h hd
        simp_all
      | cons e t =>
        rw [hr, List.getLast?_cons_cons, ← hr] at h
        exact ih h

/-- A list without a blank at its end has nothing to trim there. -/
theorem trimEnd_eq_self {cs : List Char} (h : ∀ c, cs.getLast? = some c → isBlank c = false) :
    trimEnd cs = cs := by
  induction cs with
  | nil => rfl
  | cons d r ih =>
    cases r with
    | nil => simp_all [trimEnd]
    | cons e t =>
      have hr : trimEnd (e :: t) = e :: t := ih fun c hc ↦ h c (by rwa [List.getLast?_cons_cons])
      rw [trimEnd, hr]
      simp

/-- Skipping the blanks in front leaves none there. -/
theorem head?_dropWhile_isBlank {cs : List Char} {c : Char}
    (h : (cs.dropWhile isBlank).head? = some c) : isBlank c = false := by
  induction cs with
  | nil => simp at h
  | cons d r ih =>
    cases hd : isBlank d
    · simp_all
    · simp only [List.dropWhile_cons, hd, if_true] at h
      exact ih h

/-- A list that does not start with a blank loses nothing in front. -/
theorem dropWhile_isBlank_eq_self {cs : List Char}
    (h : ∀ c, cs.head? = some c → isBlank c = false) : cs.dropWhile isBlank = cs := by
  cases cs with
  | nil => rfl
  | cons d r => simp [h d rfl]

/-- Trimming the end keeps the first character if that is no blank. -/
theorem head?_trimEnd {cs : List Char} (h : ∀ c, cs.head? = some c → isBlank c = false) :
    (trimEnd cs).head? = cs.head? := by
  cases cs with
  | nil => rfl
  | cons d r => simp [trimEnd_cons_of_not_blank (h d rfl)]

/-- A trimmed list does not start with a blank. -/
theorem head?_trimChars {cs : List Char} {c : Char} (h : (trimChars cs).head? = some c) :
    isBlank c = false := by
  rw [trimChars, head?_trimEnd fun _ hc ↦ head?_dropWhile_isBlank hc] at h
  exact head?_dropWhile_isBlank h

/-- A trimmed list does not end in a blank. -/
theorem getLast?_trimChars {cs : List Char} {c : Char} (h : (trimChars cs).getLast? = some c) :
    isBlank c = false :=
  getLast?_trimEnd h

/-- A list without a blank at either end is its own trimmed form. -/
theorem trimChars_eq_self {cs : List Char} (hd : ∀ c, cs.head? = some c → isBlank c = false)
    (hl : ∀ c, cs.getLast? = some c → isBlank c = false) : trimChars cs = cs := by
  rw [trimChars, dropWhile_isBlank_eq_self hd, trimEnd_eq_self hl]

/-- Trimming a second time changes nothing. -/
@[simp] theorem trimChars_trimChars (cs : List Char) : trimChars (trimChars cs) = trimChars cs :=
  trimChars_eq_self (fun _ ↦ head?_trimChars) (fun _ ↦ getLast?_trimChars)

/-- Trimming a second time changes nothing. -/
@[simp] theorem trim_trim (s : String) : trim (trim s) = trim s := by
  rw [← String.toList_inj]
  simp

/-! ## What trimming removes -/

/-- Trimming the end removes blanks. -/
theorem exists_trimEnd (cs : List Char) :
    ∃ behind, (∀ c ∈ behind, isBlank c = true) ∧ cs = trimEnd cs ++ behind := by
  induction cs with
  | nil => exact ⟨[], List.forall_mem_nil _, rfl⟩
  | cons d r ih =>
    obtain ⟨behind, hbehind, hr⟩ := ih
    rw [trimEnd]
    split
    · next hd =>
      rw [hd.1] at hr
      exact ⟨d :: r, List.forall_mem_cons.mpr ⟨hd.2, hr ▸ hbehind⟩, rfl⟩
    · exact ⟨behind, hbehind, congrArg (d :: ·) hr⟩

/-- A text is another one without the blanks at its ends. -/
structure Trims (t s : String) : Prop where
  /-- The other text has blanks before and behind the text, and nothing else. -/
  within : ∃ before behind : List Char, (∀ c ∈ before, isBlank c = true) ∧
    (∀ c ∈ behind, isBlank c = true) ∧ s.toList = before ++ t.toList ++ behind
  front : ∀ c, t.toList.head? = some c → isBlank c = false
  ending : ∀ c, t.toList.getLast? = some c → isBlank c = false

/-- Trimming removes the blanks at the ends of a text and nothing else. -/
theorem trims_trim (s : String) : Trims (trim s) s where
  within := by
    obtain ⟨behind, hbehind, hs⟩ := exists_trimEnd (s.toList.dropWhile isBlank)
    refine ⟨s.toList.takeWhile isBlank, behind, List.all_eq_true.mp List.all_takeWhile, hbehind, ?_⟩
    rw [toList_trim, trimChars, List.append_assoc, ← hs, List.takeWhile_append_dropWhile]
  front c h := head?_trimChars (toList_trim s ▸ h)
  ending c h := getLast?_trimChars (toList_trim s ▸ h)

/-- Nothing is left of blanks. -/
theorem trimEnd_eq_nil {cs : List Char} (h : ∀ c ∈ cs, isBlank c = true) : trimEnd cs = [] := by
  induction cs with
  | nil => rfl
  | cons c r ih =>
    have hr : trimEnd r = [] := ih fun d hd ↦ h d (List.mem_cons_of_mem c hd)
    rw [trimEnd, if_pos ⟨hr, h c List.mem_cons_self⟩]

/-- Blanks behind a list do not count when its end is trimmed. -/
theorem trimEnd_append {behind : List Char} (h : ∀ c ∈ behind, isBlank c = true)
    (cs : List Char) : trimEnd (cs ++ behind) = trimEnd cs := by
  induction cs with
  | nil => exact trimEnd_eq_nil h
  | cons c r ih => rw [List.cons_append, trimEnd, ih, trimEnd]

/-- A text without its blanks at the ends is the trimmed text. -/
theorem Trims.eq_trim {t s : String} (h : Trims t s) : t = trim s := by
  obtain ⟨before, behind, hbefore, hbehind, hs⟩ := h.within
  have htrim : trimChars s.toList = trimEnd ((t.toList ++ behind).dropWhile isBlank) := by
    rw [hs, trimChars, List.append_assoc, List.dropWhile_append_of_pos hbefore]
  rw [← String.toList_inj, toList_trim, htrim]
  cases ht : t.toList with
  | nil =>
    exact (trimEnd_eq_nil fun d hd ↦ hbehind d ((List.dropWhile_sublist _).subset hd)).symm
  | cons c r =>
    have hfront : isBlank c = false := h.front c (by rw [ht]; rfl)
    have hskip : (c :: r ++ behind).dropWhile isBlank = c :: r ++ behind :=
      dropWhile_isBlank_eq_self fun d hd ↦ by
        obtain rfl : c = d := Option.some.inj hd
        exact hfront
    rw [hskip, trimEnd_append hbehind, ← ht, trimEnd_eq_self h.ending]

end SqlStatement.Text
