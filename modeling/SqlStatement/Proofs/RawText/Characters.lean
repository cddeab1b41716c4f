import SqlStatement.Proofs.Writes
import SqlStatement.RawText

/-!
# Parameter markers by character

Raw text is written as a template: the spans that the scan cuts off, and slots for the markers
(`Printer.raw_writes`).  The scan by bytes finds the markers that one finds by reading the text
character by character: outside quoted text a quote opens one and a question mark may be a marker,
inside it the same quote closes it.  `Template.ofRaw_eq` states this.  It rests on two facts about
UTF-8: the bytes of a character beyond ASCII are all above the ASCII range, and a text is cut
between characters at the bytes of ASCII characters.
-/

namespace SqlStatement

/-- The part of a template that a cut gives. -/
def RawText.Cut.piece (s : String) (credit : Name) : Cut → Piece
  | span start stop => .text ((slice? s start stop).getD "")
  | marker _ => .slot credit

/-- The template of raw text, every marker in it being a slot credited to the same field. -/
def Template.ofRaw (credit : Name) (s : String) : Template :=
  (RawText.cuts s).map fun c ↦ c.piece s credit

/-- Raw text is written as the spans and the slots into which it is cut. -/
theorem Printer.raw_writes (credit : Name) (text : String) (s : Setting) :
    (Printer.raw credit text).Writes s (Template.ofRaw credit text) := by
  have hcuts : (Printer.raw credit text).Writes s
      ((RawText.cuts text).flatMap fun c ↦ [c.piece text credit]) := by
    apply Printer.Writes.concat
    intro c _
    cases c with
    | span start stop => exact Printer.text_writes _
    | marker offset => exact Printer.slot_writes credit
  rwa [← List.map_eq_flatMap] at hcuts

namespace RawText

/-- Whether the characters behind a question mark make it an operator. -/
def continuesOperator : List Char → Bool
  | [] => false
  | c :: r => c == '?' || c == '&' || (c == '|' && r.head? != some '|')

/-- Where a reader of raw text is. -/
inductive Mode
  | outside
  /-- Behind the question mark of an operator. -/
  | operator
  /-- In quoted text, behind its opening quote. -/
  | quoted (quote : Char)
  deriving DecidableEq, Repr

/-- The characters of a text, each with the mark whether it is a marker. -/
def marked : Mode → List Char → List (Char × Bool)
  | _, [] => []
  | .quoted q, c :: r => (c, false) :: marked (if c = q then .outside else .quoted q) r
  | .operator, c :: r => (c, false) :: marked .outside r
  | .outside, c :: r =>
    if c = '\'' ∨ c = '"' then (c, false) :: marked (.quoted c) r
    else if c = '?' then
      if continuesOperator r then (c, false) :: marked .operator r
      else (c, true) :: marked .outside r
    else (c, false) :: marked .outside r

/-- The template of marked characters, of which those in `span` came before. -/
def assemble (credit : Name) (span : List Char) : List (Char × Bool) → Template
  | [] => if span = [] then [] else [.text (.ofList span)]
  | (c, false) :: r => assemble credit (span ++ [c]) r
  | (_, true) :: r => .text (.ofList span) :: .slot credit :: assemble credit [] r

/-! ## Bytes of characters -/

/-- The bytes of characters in UTF-8. -/
def encoded (cs : List Char) : List UInt8 := cs.flatMap String.utf8EncodeChar

@[simp] theorem encoded_nil : encoded [] = [] := rfl

@[simp] theorem encoded_cons (c : Char) (cs : List Char) :
    encoded (c :: cs) = String.utf8EncodeChar c ++ encoded cs := rfl

@[simp] theorem encoded_append (a b : List Char) : encoded (a ++ b) = encoded a ++ encoded b := by
  simp [encoded]

/-- The bytes of a text are those of its characters. -/
theorem toByteArray_eq (s : String) : s.toByteArray = (encoded s.toList).toByteArray := by
  obtain ⟨cs, rfl⟩ : ∃ cs, s = String.ofList cs := ⟨s.toList, String.ofList_toList.symm⟩
  rw [String.toList_ofList]
  exact String.toByteArray_ofList

/-- An ASCII character is its own byte. -/
theorem utf8EncodeChar_of_ascii {c : Char} (h : c.toNat < 128) :
    String.utf8EncodeChar c = [octet c] := by
  have h' : c.val.toNat ≤ 127 := Nat.le_of_lt_succ h
  simp only [String.utf8EncodeChar, h', if_true]
  rfl

/-- The bytes of a character beyond ASCII are above the ASCII range. -/
theorem le_of_mem_utf8EncodeChar {c : Char} (h : 128 ≤ c.toNat) {b : UInt8}
    (hb : b ∈ String.utf8EncodeChar c) : 128 ≤ b.toNat := by
  have h' : ¬ c.val.toNat ≤ 127 := by
    have : c.toNat = c.val.toNat := rfl
    omega
  simp only [String.utf8EncodeChar, h', if_false] at hb
  split at hb
  · simp only [List.mem_cons, List.not_mem_nil, or_false] at hb
    rcases hb with rfl | rfl <;> simp only [UInt8.toNat_ofNat'] <;> omega
  · split at hb
    · simp only [List.mem_cons, List.not_mem_nil, or_false] at hb
      rcases hb with rfl | rfl | rfl <;> simp only [UInt8.toNat_ofNat'] <;> omega
    · simp only [List.mem_cons, List.not_mem_nil, or_false] at hb
      rcases hb with rfl | rfl | rfl | rfl <;> simp only [UInt8.toNat_ofNat'] <;> omega

/-- A character has at least one byte. -/
theorem utf8EncodeChar_ne_nil (c : Char) : String.utf8EncodeChar c ≠ [] := by
  intro h
  have := String.length_utf8EncodeChar c
  rw [h] at this
  exact absurd this (Nat.ne_of_lt c.utf8Size_pos)

/-- Bytes of characters are told apart as the characters are, if one of these is ASCII. -/
theorem octet_notMem_utf8EncodeChar {c q : Char} (hq : q.toNat < 128) (h : c ≠ q) :
    octet q ∉ String.utf8EncodeChar c := by
  have hqn : (octet q).toNat = q.toNat := by
    have : q.toNat = q.val.toNat := rfl
    simp only [octet, Char.toUInt8, UInt32.toNat_toUInt8]
    omega
  by_cases hc : c.toNat < 128
  · rw [utf8EncodeChar_of_ascii hc, List.mem_singleton]
    intro he
    have hcn : (octet c).toNat = c.toNat := by
      have : c.toNat = c.val.toNat := rfl
      simp only [octet, Char.toUInt8, UInt32.toNat_toUInt8]
      omega
    exact h (Char.toNat_inj.mp (by rw [← hcn, ← hqn, he]))
  · intro hm
    have := le_of_mem_utf8EncodeChar (Nat.le_of_not_lt hc) hm
    omega

/-- No byte of a character that is no quote opens quoted text. -/
theorem isQuote_of_mem_utf8EncodeChar {c : Char} (hsingle : c ≠ '\'') (hdouble : c ≠ '"') {b : UInt8}
    (hb : b ∈ String.utf8EncodeChar c) : isQuote b = false := by
  have h₁ := octet_notMem_utf8EncodeChar (q := '\'') (by decide) hsingle
  have h₂ := octet_notMem_utf8EncodeChar (q := '"') (by decide) hdouble
  simp only [isQuote, Bool.or_eq_false_iff, beq_eq_false_iff_ne]
  exact ⟨fun he ↦ h₁ (he ▸ hb), fun he ↦ h₂ (he ▸ hb)⟩

/-- Of characters, the first byte is an ASCII one exactly if the first character is. -/
theorem head?_encoded {q : Char} (hq : q.toNat < 128) (cs : List Char) :
    (encoded cs).head? = some (octet q) ↔ cs.head? = some q := by
  cases cs with
  | nil => simp
  | cons c cs =>
    by_cases h : c = q
    · subst h
      simp [utf8EncodeChar_of_ascii hq]
    · have hne := octet_notMem_utf8EncodeChar hq h
      cases hb : String.utf8EncodeChar c with
      | nil => exact absurd hb (utf8EncodeChar_ne_nil c)
      | cons b bs =>
        rw [hb] at hne
        simp only [encoded_cons, hb, List.cons_append, List.head?_cons, Option.some.injEq, h,
          iff_false]
        exact fun he ↦ hne (he ▸ List.mem_cons_self)

/-! ## The scan on lists of bytes -/

theorem getElem?_toByteArray (l : List UInt8) (i : Nat) : l.toByteArray[i]? = l[i]? := by
  rw [getElem?_def, getElem?_def]
  simp [ByteArray.getElem_eq_getElem_data]

theorem getElem_toByteArray (l : List UInt8) (i : Nat) (h : i < l.toByteArray.size) :
    l.toByteArray[i] = l.get ⟨i, by simpa using h⟩ := by
  simp [ByteArray.getElem_eq_getElem_data]

/-- The elements behind a known one. -/
theorem getElem?_behind {α : Type} (p t : List α) (b : α) (k : Nat) :
    (p ++ b :: t)[p.length + k + 1]? = t[k]? := by
  rw [List.getElem?_append_right (by omega), show p.length + k + 1 - p.length = k + 1 by omega,
    List.getElem?_cons_succ]

/-- A byte other than the quote is inside the quoted text. -/
theorem behindQuoted_other {q b : UInt8} (h : b ≠ q) (p t : List UInt8) :
    behindQuoted (p ++ b :: t).toByteArray q p.length =
      behindQuoted (p ++ b :: t).toByteArray q (p.length + 1) := by
  conv => lhs; rw [behindQuoted]
  simp only [getElem_toByteArray]
  simp [h]

/-- Bytes without the quote are inside the quoted text. -/
theorem behindQuoted_others {q : UInt8} {bs : List UInt8} (h : q ∉ bs) (p t : List UInt8) :
    behindQuoted (p ++ (bs ++ t)).toByteArray q p.length =
      behindQuoted (p ++ (bs ++ t)).toByteArray q (p ++ bs).length := by
  induction bs generalizing p with
  | nil => simp
  | cons b bs ih =>
    simp only [List.mem_cons, not_or] at h
    have := ih h.2 (p ++ [b])
    simp only [List.append_assoc, List.cons_append, List.nil_append] at this
    rw [List.cons_append, behindQuoted_other (Ne.symm h.1)]
    simpa [Nat.add_assoc] using this

/-- A single quote closes the quoted text. -/
theorem behindQuoted_close {q : UInt8} {t : List UInt8} (h : t.head? ≠ some q) (p : List UInt8) :
    behindQuoted (p ++ q :: t).toByteArray q p.length = p.length + 1 := by
  rw [behindQuoted]
  simp only [getElem_toByteArray, getElem?_toByteArray]
  have h' : (p ++ q :: t)[p.length + 1]? ≠ some q := by
    rwa [getElem?_behind p t q 0, ← List.head?_eq_getElem?]
  simp [h']

/-- A doubled quote does not close the quoted text. -/
theorem behindQuoted_doubled (q : UInt8) (p t : List UInt8) :
    behindQuoted (p ++ q :: q :: t).toByteArray q p.length =
      behindQuoted (p ++ q :: q :: t).toByteArray q (p.length + 2) := by
  conv => lhs; rw [behindQuoted]
  simp only [getElem_toByteArray, getElem?_toByteArray]
  simp

/-- At the end the scan cuts off the rest. -/
theorem cutsFrom_end {l : List UInt8} {i : Nat} (h : l.length ≤ i) (j : Nat) :
    cutsFrom l.toByteArray ⟨i, j⟩ = if j < l.length then [.span j l.length] else [] := by
  rw [cutsFrom]
  simp [Nat.not_lt.mpr h]

/-- A byte that is neither a quote nor a question mark is part of a span. -/
theorem cutsFrom_other {b : UInt8} (hq : isQuote b = false) (hb : b ≠ octet '?')
    (p t : List UInt8) (j : Nat) :
    cutsFrom (p ++ b :: t).toByteArray ⟨p.length, j⟩ =
      cutsFrom (p ++ b :: t).toByteArray ⟨p.length + 1, j⟩ := by
  conv => lhs; rw [cutsFrom]
  simp only [move, getElem_toByteArray]
  simp [hq, hb]

/-- Bytes without quotes and question marks are part of a span. -/
theorem cutsFrom_others {bs : List UInt8} (h : ∀ b ∈ bs, isQuote b = false ∧ b ≠ octet '?')
    (p t : List UInt8) (j : Nat) :
    cutsFrom (p ++ (bs ++ t)).toByteArray ⟨p.length, j⟩ =
      cutsFrom (p ++ (bs ++ t)).toByteArray ⟨(p ++ bs).length, j⟩ := by
  induction bs generalizing p with
  | nil => simp
  | cons b bs ih =>
    have := ih (fun d hd ↦ h d (List.mem_cons_of_mem b hd)) (p ++ [b])
    simp only [List.append_assoc, List.cons_append, List.nil_append] at this
    obtain ⟨h₁, h₂⟩ := h b List.mem_cons_self
    rw [List.cons_append, cutsFrom_other h₁ h₂]
    simpa [Nat.add_assoc] using this

/-- A quote makes the scan go on behind the quoted text. -/
theorem cutsFrom_quote {q : UInt8} (hq : isQuote q = true) (p t : List UInt8) (j : Nat) :
    cutsFrom (p ++ q :: t).toByteArray ⟨p.length, j⟩ =
      cutsFrom (p ++ q :: t).toByteArray
        ⟨behindQuoted (p ++ q :: t).toByteArray q (p.length + 1), j⟩ := by
  conv => lhs; rw [cutsFrom]
  simp only [move, getElem_toByteArray]
  simp [hq]

/-- An operator is part of a span. -/
theorem cutsFrom_operator {t : List UInt8} (h : isOperator t[0]? t[1]? = true) (p : List UInt8)
    (j : Nat) :
    cutsFrom (p ++ octet '?' :: t).toByteArray ⟨p.length, j⟩ =
      cutsFrom (p ++ octet '?' :: t).toByteArray ⟨p.length + 2, j⟩ := by
  have hq : isQuote (octet '?') = false := by decide
  conv => lhs; rw [cutsFrom]
  simp only [move, getElem_toByteArray, getElem?_toByteArray, getElem?_behind p t _ 0,
    getElem?_behind p t _ 1]
  simp [hq, h]

/-- A marker ends a span. -/
theorem cutsFrom_marker {t : List UInt8} (h : isOperator t[0]? t[1]? = false) (p : List UInt8)
    (j : Nat) :
    cutsFrom (p ++ octet '?' :: t).toByteArray ⟨p.length, j⟩ =
      .span j p.length :: .marker p.length ::
        cutsFrom (p ++ octet '?' :: t).toByteArray ⟨p.length + 1, p.length + 1⟩ := by
  have hq : isQuote (octet '?') = false := by decide
  conv => lhs; rw [cutsFrom]
  simp only [move, getElem_toByteArray, getElem?_toByteArray, getElem?_behind p t _ 0,
    getElem?_behind p t _ 1]
  simp [hq, h]

/-! ## The scan on characters -/

/-- The bytes behind a question mark show an operator exactly if the characters do. -/
theorem isOperator_encoded (r : List Char) :
    isOperator (encoded r)[0]? (encoded r)[1]? = continuesOperator r := by
  cases r with
  | nil => rfl
  | cons d r =>
    have head : ∀ q : Char, q.toNat < 128 →
        ((encoded (d :: r))[0]? = some (octet q) ↔ d = q) := fun q hq ↦ by
      rw [← List.head?_eq_getElem?, head?_encoded hq]
      simp
    have h₁ := head '?' (by decide)
    have h₂ := head '&' (by decide)
    have h₃ := head '|' (by decide)
    have hb : ∀ a b : Option UInt8, isOperator a b = true ↔ a = some (octet '?') ∨
        a = some (octet '&') ∨ a = some (octet '|') ∧ b ≠ some (octet '|') := by
      intro a b
      cases a <;> simp [isOperator, or_assoc]
    rw [Bool.eq_iff_iff, hb, h₁, h₂, h₃]
    by_cases hd : d = '|'
    · subst hd
      have h₄ : (encoded ('|' :: r))[1]? = some (octet '|') ↔ r.head? = some '|' := by
        rw [← head?_encoded (by decide), List.head?_eq_getElem?, encoded_cons,
          utf8EncodeChar_of_ascii (by decide)]
        rfl
      simp [continuesOperator, -encoded_cons, h₄]
    · simp [continuesOperator, hd]

/-- What continues an operator is one byte. -/
theorem toNat_lt_of_continuesOperator {d : Char} {r : List Char}
    (h : continuesOperator (d :: r) = true) : d.toNat < 128 := by
  simp only [continuesOperator, Bool.or_eq_true, Bool.and_eq_true, beq_iff_eq] at h
  rcases h with (rfl | rfl) | ⟨rfl, _⟩ <;> decide

/-- The offset behind characters at the start of a text. -/
def offset (cs : List Char) : Nat := (encoded cs).length

/-- Between two characters of a text there is a slice. -/
theorem slice?_offset {s : String} {pre span rest : List Char}
    (h : s.toList = pre ++ (span ++ rest)) :
    slice? s (offset pre) (offset (pre ++ span)) = some (.ofList span) := by
  have hs : s.toByteArray = (pre.utf8Encode ++ span.utf8Encode) ++ rest.utf8Encode := by
    rw [toByteArray_eq, h, encoded_append, encoded_append, List.toByteArray_append,
      List.toByteArray_append, ByteArray.append_assoc]
    rfl
  have size : ∀ cs : List Char, cs.utf8Encode.size = offset cs := fun cs ↦ by
    simp [List.utf8Encode, offset, encoded]
  have happ : offset (pre ++ span) = offset pre + offset span := by simp [offset]
  have hle : offset pre ≤ offset (pre ++ span) ∧ offset (pre ++ span) ≤ s.utf8ByteSize := by
    rw [← String.size_toByteArray, hs, ByteArray.size_append, ByteArray.size_append, size, size]
    omega
  have hex : s.toByteArray.extract (offset pre) (offset (pre ++ span)) = span.utf8Encode := by
    rw [hs, ByteArray.extract_append, ByteArray.size_append, size, size, happ,
      ByteArray.extract_append_eq_right (size pre).symm (by rw [size, size])]
    simp
  rw [slice?, if_pos hle, hex, String.fromUTF8?, dif_pos ByteArray.isValidUTF8_utf8Encode]
  rfl

/-- The bytes of a text from a point between two characters on. -/
theorem toByteArray_split {s : String} {pre span rest : List Char}
    (h : s.toList = pre ++ (span ++ rest)) :
    s.toByteArray = (encoded (pre ++ span) ++ encoded rest).toByteArray := by
  rw [toByteArray_eq, h, ← encoded_append, List.append_assoc]

/-- At the end of the text the scan cuts off the last span, if there is one. -/
theorem map_piece_cutsFrom_end (credit : Name) {s : String} {pre span : List Char} {i : Nat}
    (h : s.toList = pre ++ (span ++ [])) (hi : offset (pre ++ span) ≤ i) :
    (cutsFrom s.toByteArray ⟨i, offset pre⟩).map (·.piece s credit) = assemble credit span [] := by
  have hs : s.toByteArray = (encoded (pre ++ span)).toByteArray := by
    rw [toByteArray_split h, encoded_nil, List.append_nil]
  have happ : offset (pre ++ span) = offset pre + offset span := by simp [offset]
  rw [hs, cutsFrom_end hi]
  by_cases hspan : span = []
  · subst hspan
    simp [assemble, offset]
  · have hlt : offset pre < (encoded (pre ++ span)).length := by
      have : offset span ≠ 0 := by
        cases span with
        | nil => exact absurd rfl hspan
        | cons c cs =>
          have := String.length_utf8EncodeChar c
          have := c.utf8Size_pos
          simp only [offset, encoded_cons, List.length_append]
          omega
      show offset pre < offset (pre ++ span)
      omega
    rw [if_pos hlt]
    simp only [List.map_cons, List.map_nil, Cut.piece, assemble, if_neg hspan]
    show [Piece.text ((slice? s (offset pre) (offset (pre ++ span))).getD "")] = _
    rw [slice?_offset h]
    rfl

/-- From a point between two characters on, the scan by bytes finds what reading by characters
finds, both outside quoted text and behind an opening quote. -/
theorem map_piece_cutsFrom (credit : Name) (s : String) (n : Nat) :
    ∀ pre span rest : List Char, rest.length ≤ n → s.toList = pre ++ (span ++ rest) →
      (cutsFrom s.toByteArray ⟨offset (pre ++ span), offset pre⟩).map (·.piece s credit) =
          assemble credit span (marked .outside rest) ∧
        ∀ q : Char, q = '\'' ∨ q = '"' → span ≠ [] →
          (cutsFrom s.toByteArray
              ⟨behindQuoted s.toByteArray (octet q) (offset (pre ++ span)), offset pre⟩).map
              (·.piece s credit) =
            assemble credit span (marked (.quoted q) rest) := by
  induction n with
  | zero =>
    intro pre span rest hn h
    obtain rfl : rest = [] := List.eq_nil_of_length_eq_zero (Nat.le_zero.mp hn)
    refine ⟨map_piece_cutsFrom_end credit h (Nat.le_refl _), fun q _ _ ↦ ?_⟩
    exact map_piece_cutsFrom_end credit h (Nat.le_of_lt (lt_behindQuoted ..))
  | succ n ih =>
    intro pre span rest hn h
    cases rest with
    | nil =>
      refine ⟨map_piece_cutsFrom_end credit h (Nat.le_refl _), fun q _ _ ↦ ?_⟩
      exact map_piece_cutsFrom_end credit h (Nat.le_of_lt (lt_behindQuoted ..))
    | cons c r =>
      have hr : r.length ≤ n := Nat.le_of_succ_le_succ hn
      have hs := toByteArray_split h
      have hc : s.toList = pre ++ ((span ++ [c]) ++ r) := by simpa using h
      have hnext : offset (pre ++ (span ++ [c])) =
          (encoded (pre ++ span)).length + (String.utf8EncodeChar c).length := by
        simp [offset, Nat.add_assoc]
      obtain ⟨outside, inside⟩ := ih pre (span ++ [c]) r hr hc
      refine ⟨?_, fun q hq hspan ↦ ?_⟩
      · rw [marked]
        split
        · next hquote =>
          have hascii : c.toNat < 128 := by rcases hquote with rfl | rfl <;> decide
          have hisq : isQuote (octet c) = true := by rcases hquote with rfl | rfl <;> decide
          have henc := utf8EncodeChar_of_ascii hascii
          rw [assemble, ← inside c hquote (by simp), hnext, hs, encoded_cons, henc]
          exact congrArg _ (cutsFrom_quote hisq _ _ _)
        · next hquote =>
          split
          · next hmark =>
            subst hmark
            have henc : String.utf8EncodeChar '?' = [octet '?'] :=
              utf8EncodeChar_of_ascii (by decide)
            split
            · next hop =>
              cases r with
              | nil => simp [continuesOperator] at hop
              | cons d r =>
                have hd := toNat_lt_of_continuesOperator hop
                have hcd : s.toList = pre ++ ((span ++ ['?', d]) ++ r) := by simpa using h
                have hnext : offset (pre ++ (span ++ ['?', d])) =
                    (encoded (pre ++ span)).length + 2 := by
                  simp [offset, henc, utf8EncodeChar_of_ascii hd, Nat.add_assoc]
                obtain ⟨after, _⟩ := ih pre (span ++ ['?', d]) r (Nat.le_of_lt hr) hcd
                rw [marked, assemble, assemble, List.append_assoc, List.singleton_append, ← after,
                  hnext, hs, encoded_cons, henc]
                have hnextOp : isOperator (encoded (d :: r))[0]? (encoded (d :: r))[1]? = true := by
                  rw [isOperator_encoded]
                  exact hop
                exact congrArg _ (cutsFrom_operator hnextOp _ _)
            · next hop =>
              have hm : s.toList = (pre ++ (span ++ ['?'])) ++ ([] ++ r) := by simpa using h
              obtain ⟨after, _⟩ := ih (pre ++ (span ++ ['?'])) [] r hr hm
              rw [List.append_nil, hnext, henc] at after
              have hnextOp : isOperator (encoded r)[0]? (encoded r)[1]? = false := by
                rw [isOperator_encoded]
                simpa using hop
              have hslice := slice?_offset h
              rw [assemble, ← after, hs, encoded_cons, henc]
              simp only [offset] at hslice ⊢
              rw [List.singleton_append, cutsFrom_marker hnextOp]
              simp only [List.map_cons, Cut.piece, hslice]
              rfl
          · next hmark =>
            have hother : ∀ b ∈ String.utf8EncodeChar c, isQuote b = false ∧ b ≠ octet '?' := by
              simp only [not_or] at hquote
              have hnone := octet_notMem_utf8EncodeChar (q := '?') (by decide) hmark
              intro b hb
              exact ⟨isQuote_of_mem_utf8EncodeChar hquote.1 hquote.2 hb, fun he ↦ hnone (he ▸ hb)⟩
            rw [assemble, ← outside, hnext, hs, encoded_cons, ← List.length_append]
            exact congrArg _ (cutsFrom_others hother _ _ _)
      · have hqascii : q.toNat < 128 := by rcases hq with rfl | rfl <;> decide
        have hqenc := utf8EncodeChar_of_ascii hqascii
        rw [marked, assemble]
        split
        · next hclose =>
          subst hclose
          by_cases hdouble : r.head? = some c
          · cases r with
            | nil => simp at hdouble
            | cons d r =>
              obtain rfl : d = c := by simpa using hdouble
              have hcc : s.toList = pre ++ ((span ++ [d, d]) ++ r) := by simpa using h
              have hnext : offset (pre ++ (span ++ [d, d])) =
                  (encoded (pre ++ span)).length + 2 := by
                simp [offset, hqenc, Nat.add_assoc]
              obtain ⟨_, after⟩ := ih pre (span ++ [d, d]) r (Nat.le_of_lt hr) hcc
              rw [marked, if_pos hq, assemble, List.append_assoc, List.singleton_append,
                ← after d hq (by simp), hnext, hs, encoded_cons, encoded_cons, hqenc]
              exact congrArg (fun i ↦ List.map _ (cutsFrom _ ⟨i, _⟩))
                (behindQuoted_doubled _ _ _)
          · have hhead : (encoded r).head? ≠ some (octet c) := by
              rwa [Ne, head?_encoded hqascii]
            rw [← outside, hnext, hs, encoded_cons, hqenc]
            exact congrArg (fun i ↦ List.map _ (cutsFrom _ ⟨i, _⟩)) (behindQuoted_close hhead _)
        · next hopen =>
          rw [← inside q hq (by simp), hnext, hs, encoded_cons, ← List.length_append]
          exact congrArg (fun i ↦ List.map _ (cutsFrom _ ⟨i, _⟩))
            (behindQuoted_others (octet_notMem_utf8EncodeChar hqascii hopen) _ _)

end RawText

/-- The template of raw text is the one that reading it by characters gives. -/
theorem Template.ofRaw_eq (credit : Name) (s : String) :
    Template.ofRaw credit s = RawText.assemble credit [] (RawText.marked .outside s.toList) :=
  (RawText.map_piece_cutsFrom credit s s.toList.length [] [] s.toList (Nat.le_refl _) rfl).1

/-! ## Credits of raw text -/

/-- The number of parameter markers in raw text. -/
def RawText.markers (s : String) : Nat := (marked .outside s.toList).countP (·.2)

/-- Every marked character is credited, and nothing else. -/
theorem RawText.credits_assemble (credit : Name) (span : List Char) (cs : List (Char × Bool)) :
    (assemble credit span cs).credits = List.replicate (cs.countP (·.2)) credit := by
  induction cs generalizing span with
  | nil =>
    rw [assemble]
    split <;> simp
  | cons c cs ih =>
    obtain ⟨c, isMarker⟩ := c
    cases isMarker with
    | false => simp [assemble, ih]
    | true => simp [assemble, ih, List.replicate_succ]

/-- Raw text is credited to its field once for each marker. -/
@[simp] theorem Template.credits_ofRaw (credit : Name) (s : String) :
    (Template.ofRaw credit s).credits = List.replicate (RawText.markers s) credit := by
  rw [Template.ofRaw_eq, RawText.credits_assemble, RawText.markers]

/-- Raw text puts nothing but text and parameters on a page. -/
theorem Template.plain_ofRaw (credit : Name) (s : String) : Plain (ofRaw credit s) := by
  intro x hx
  obtain ⟨c, -, rfl⟩ := List.mem_map.mp hx
  cases c <;> exact ⟨rfl, rfl, rfl⟩

/-! ## The text of raw text -/

/-- Marked characters as a text in which the markers are the placeholders of the ordinals behind
`start`. -/
def RawText.substituted (d : Dialect) (start : Nat) : List (Char × Bool) → String
  | [] => ""
  | (c, false) :: r => .singleton c ++ substituted d start r
  | (_, true) :: r => d.placeholder (start + 1) ++ substituted d (start + 1) r

/-- Raw text in a dialect, its markers being the placeholders of the ordinals behind `start`. -/
def RawText.numbered (d : Dialect) (start : Nat) (s : String) : String :=
  substituted d start (marked .outside s.toList)

/-- Marked characters are written with a placeholder for each marker. -/
theorem RawText.render_assemble (credit : Name) (span : List Char) (cs : List (Char × Bool))
    (d : Dialect) (start : Nat) :
    (assemble credit span cs).render d start = .ofList span ++ substituted d start cs := by
  induction cs generalizing span start with
  | nil =>
    rw [assemble]
    split
    · next hspan => simp [hspan, Template.render, substituted]
    · simp [Template.render, substituted]
  | cons c cs ih =>
    obtain ⟨c, isMarker⟩ := c
    cases isMarker with
    | false =>
      rw [assemble, ih, String.ofList_append, String.append_assoc]
      rfl
    | true =>
      rw [assemble, Template.render, Template.render, ih]
      simp [substituted]

/-- The template of raw text is rendered with a placeholder for each marker. -/
theorem Template.render_ofRaw (credit : Name) (s : String) (d : Dialect) (start : Nat) :
    (Template.ofRaw credit s).render d start = RawText.numbered d start s := by
  rw [Template.ofRaw_eq, RawText.render_assemble]
  exact String.empty_append

/-- Raw text is written with a placeholder for each marker. -/
theorem Printer.textFrom_raw (credit : Name) (s : String) (d : Dialect) (start : Nat) :
    (Printer.raw credit s).textFrom d start = RawText.numbered d start s := by
  rw [(Printer.raw_writes credit s ⟨d, false⟩).textFrom, Template.render_ofRaw]

end SqlStatement
