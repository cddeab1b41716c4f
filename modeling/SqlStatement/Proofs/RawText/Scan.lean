import Mathlib
import SqlStatement.Proofs.RawText.Comparisons

/-!
# The scan step by step

The scan of raw text passes over quoted text in one move (`RawText.move`).  Here the moves are taken
apart into single steps, in quoted text as well as outside of it (`RawText.Scan.next?`), and a whole
scan is the list of its states (`RawText.Scan.trace`).  One invariant (`RawText.Scan.Sound`) holds of
all these states, and it says that the scan stays in bounds: the index gets beyond the text by one
at most, and only behind quoted text that nothing closes; what has been cut off leaves no gap, and
every span ends at boundaries between characters.  The scan by bytes stops at single bytes, which may
be in the middle of a character; but it cuts only next to question marks, and the byte of an ASCII
character is never a part of another one (`RawText.isValid_of_ascii`).

The main result is `RawText.scan_in_bounds`.
-/

namespace SqlStatement

namespace RawText

/-! ## Cuts without gaps -/

namespace Cut

/-- The offset at which a cut starts. -/
def start : Cut → Nat
  | span start _ => start
  | marker offset => offset

/-- The offset behind a cut. -/
def stop : Cut → Nat
  | span _ stop => stop
  | marker offset => offset + 1

/-- The offsets of the bytes of a cut. -/
def offsets (c : Cut) : List Nat := List.range' c.start (c.stop - c.start)

/-- A span of a text lies between two boundaries of it, and a marker is a question mark of it. -/
def Fits (s : String) : Cut → Prop
  | span start stop =>
    start ≤ stop ∧ (⟨start⟩ : String.Pos.Raw).IsValid s ∧ (⟨stop⟩ : String.Pos.Raw).IsValid s
  | marker offset => s.toByteArray[offset]? = some (octet '?')

end Cut

/-- Cuts lie one behind the other from an offset to another one, without a gap. -/
def Tiles : Nat → List Cut → Nat → Prop
  | lo, [], hi => lo = hi
  | lo, c :: cs, hi => c.start = lo ∧ c.start ≤ c.stop ∧ Tiles c.stop cs hi

namespace Tiles

variable {lo mid hi : Nat} {cs ds : List Cut}

theorem le (h : Tiles lo cs hi) : lo ≤ hi := by
  induction cs generalizing lo with
  | nil => exact Nat.le_of_eq h
  | cons c cs ih =>
    obtain ⟨rfl, hle, hrest⟩ := h
    exact hle.trans (ih hrest)

theorem append (h : Tiles lo cs mid) (h' : Tiles mid ds hi) : Tiles lo (cs ++ ds) hi := by
  induction cs generalizing lo with
  | nil =>
    obtain rfl : lo = mid := h
    exact h'
  | cons c cs ih =>
    obtain ⟨hstart, hle, hrest⟩ := h
    exact ⟨hstart, hle, ih hrest⟩

/-- Every offset between the two ends belongs to one cut, and the offsets come in their order. -/
theorem flatMap_offsets (h : Tiles lo cs hi) :
    cs.flatMap Cut.offsets = List.range' lo (hi - lo) := by
  induction cs generalizing lo with
  | nil =>
    obtain rfl : lo = hi := h
    rw [Nat.sub_self]
    rfl
  | cons c cs ih =>
    obtain ⟨rfl, hle, hrest⟩ := h
    have hhi := hrest.le
    have hseam : c.stop = c.start + (c.stop - c.start) := by omega
    have hsize : hi - c.start = (c.stop - c.start) + (hi - c.stop) := by omega
    rw [List.flatMap_cons, ih hrest, Cut.offsets, hsize, ← List.range'_append_1, ← hseam]

theorem le_start (h : Tiles lo cs hi) : ∀ c ∈ cs, lo ≤ c.start := by
  induction cs generalizing lo with
  | nil => exact nofun
  | cons d cs ih =>
    obtain ⟨rfl, hle, hrest⟩ := h
    exact List.forall_mem_cons.mpr ⟨le_rfl, fun c hc ↦ hle.trans (ih hrest c hc)⟩

/-- No cut reaches into one behind it. -/
theorem pairwise (h : Tiles lo cs hi) : cs.Pairwise fun c d ↦ c.stop ≤ d.start := by
  induction cs generalizing lo with
  | nil => exact .nil
  | cons c cs ih =>
    obtain ⟨-, -, hrest⟩ := h
    exact List.pairwise_cons.mpr ⟨hrest.le_start, ih hrest⟩

end Tiles

/-! ## Boundaries between characters -/

variable {s : String} {i j : Nat}

theorem offset_toList (s : String) : offset s.toList = s.utf8ByteSize := by
  rw [← String.size_toByteArray, toByteArray_eq, List.size_toByteArray, offset]

theorem getElem?_bytes (s : String) (i : Nat) : s.toByteArray[i]? = (encoded s.toList)[i]? := by
  rw [toByteArray_eq, getElem?_toByteArray]

/-- The byte of an ASCII character comes from this character alone. -/
theorem exists_of_getElem?_encoded {c : Char} (hc : c.toNat < 128) {cs : List Char}
    (h : (encoded cs)[i]? = some (octet c)) :
    ∃ pre rest, cs = pre ++ c :: rest ∧ offset pre = i := by
  induction cs generalizing i with
  | nil => cases h
  | cons d cs ih =>
    rw [encoded_cons] at h
    rcases Nat.lt_or_ge i (String.utf8EncodeChar d).length with hi | hi
    · rw [List.getElem?_append_left hi] at h
      obtain rfl : d = c := by
        by_contra hne
        exact octet_notMem_utf8EncodeChar hc hne (List.mem_of_getElem? h)
      rw [utf8EncodeChar_of_ascii hc, List.length_singleton, Nat.lt_one_iff] at hi
      exact ⟨[], cs, rfl, hi.symm⟩
    · rw [List.getElem?_append_right hi] at h
      obtain ⟨pre, rest, rfl, hpre⟩ := ih h
      refine ⟨d :: pre, rest, rfl, ?_⟩
      rw [offset, encoded_cons, List.length_append, ← offset, hpre]
      omega

/-- Behind characters at the start of a text there is a boundary. -/
theorem isValid_offset {pre rest : List Char} (h : s.toList = pre ++ rest) :
    (⟨offset pre⟩ : String.Pos.Raw).IsValid s := by
  refine String.Pos.Raw.isValid_iff_exists_append.mpr ⟨.ofList pre, .ofList rest, ?_, ?_⟩
  · rw [← String.ofList_append, ← h, String.ofList_toList]
  · rw [String.Pos.Raw.ext_iff, String.byteIdx_rawEndPos, ← offset_toList, String.toList_ofList]

/-- There is a boundary in front of the byte of an ASCII character, and one behind it. -/
theorem isValid_of_ascii {c : Char} (hc : c.toNat < 128) (h : s.toByteArray[i]? = some (octet c)) :
    (⟨i⟩ : String.Pos.Raw).IsValid s ∧ (⟨i + 1⟩ : String.Pos.Raw).IsValid s := by
  rw [getElem?_bytes] at h
  obtain ⟨pre, rest, hs, rfl⟩ := exists_of_getElem?_encoded hc h
  have hbehind : offset (pre ++ [c]) = offset pre + 1 := by
    simp [offset, utf8EncodeChar_of_ascii hc]
  refine ⟨isValid_offset hs, ?_⟩
  rw [← hbehind]
  exact isValid_offset (hs.trans (List.append_cons pre c rest))

/-- Between two boundaries there is a slice. -/
theorem exists_slice? (hle : i ≤ j) (hi : (⟨i⟩ : String.Pos.Raw).IsValid s)
    (hj : (⟨j⟩ : String.Pos.Raw).IsValid s) :
    ∃ t, slice? s i j = some t ∧ t.toByteArray = s.toByteArray.extract i j := by
  have hutf8 : (s.toByteArray.extract i j).IsValidUTF8 :=
    (String.Pos.Raw.isValidUTF8_extract_iff _ _ hle hj.le_rawEndPos).mpr (.inr ⟨hi, hj⟩)
  refine ⟨⟨_, hutf8⟩, ?_, rfl⟩
  rw [slice?, if_pos ⟨hle, hj.le_utf8ByteSize⟩, String.fromUTF8?, dif_pos hutf8]
  rfl

/-! ## Quotes by byte -/

/-- The quote that is open behind a byte. -/
def quoteBehind (quote : Option UInt8) (b : UInt8) : Option UInt8 :=
  match quote with
  | none => if isQuote b then some b else none
  | some q => if b = q then none else some q

/-- The quote that is open behind the bytes at the start of a text. -/
def openQuote (bs : List UInt8) : Option UInt8 := bs.foldl quoteBehind none

/-- The byte that closes quoted text. -/
def Quoting.quote : Quoting → Option UInt8
  | outside => none
  | single => some (octet '\'')
  | double => some (octet '"')

/-- Other bytes than quotes do not change which quote is open. -/
theorem foldl_quoteBehind_of_not {bs : List UInt8} (h : ∀ b ∈ bs, isQuote b = false) (q : Quoting) :
    bs.foldl quoteBehind q.quote = q.quote := by
  induction bs with
  | nil => rfl
  | cons b bs ih =>
    have hb := h b List.mem_cons_self
    have hnext : quoteBehind q.quote b = q.quote := by
      have hne := hb
      simp only [isQuote, Bool.or_eq_false_iff, beq_eq_false_iff_ne] at hne
      cases q <;> simp [Quoting.quote, quoteBehind, hb, hne]
    rw [List.foldl_cons, hnext]
    exact ih fun d hd ↦ h d (List.mem_cons_of_mem b hd)

theorem foldl_quoteBehind_char (q : Quoting) (c : Char) :
    (String.utf8EncodeChar c).foldl quoteBehind q.quote = (q.next c).quote := by
  by_cases hsingle : c = '\''
  · subst hsingle
    cases q <;> decide
  · by_cases hdouble : c = '"'
    · subst hdouble
      cases q <;> decide
    · have hnext : q.next c = q := by cases q <;> simp [Quoting.next, hsingle, hdouble]
      rw [hnext]
      exact foldl_quoteBehind_of_not (fun b hb ↦ isQuote_of_mem_utf8EncodeChar hsingle hdouble hb) q

/-- The bytes of characters open and close the quotes that the characters do. -/
theorem foldl_quoteBehind_encoded (q : Quoting) (cs : List Char) :
    (encoded cs).foldl quoteBehind q.quote = (cs.foldl Quoting.next q).quote := by
  induction cs generalizing q with
  | nil => rfl
  | cons c cs ih => rw [encoded_cons, List.foldl_append, foldl_quoteBehind_char, ih, List.foldl_cons]

theorem openQuote_eq_none_iff (s : String) : openQuote (encoded s.toList) = none ↔ EndsOutside s := by
  have hquote : openQuote (encoded s.toList) = (s.toList.foldl Quoting.next .outside).quote :=
    foldl_quoteBehind_encoded .outside s.toList
  rw [hquote, EndsOutside]
  cases s.toList.foldl Quoting.next .outside <;> decide

theorem openQuote_concat (bs : List UInt8) (b : UInt8) :
    openQuote (bs ++ [b]) = quoteBehind (openQuote bs) b := by
  rw [openQuote, List.foldl_append]
  rfl

theorem openQuote_take_succ {b : UInt8} (h : s.toByteArray[i]? = some b) :
    openQuote ((encoded s.toList).take (i + 1)) =
      quoteBehind (openQuote ((encoded s.toList).take i)) b := by
  rw [getElem?_bytes] at h
  rw [List.take_add_one, h, Option.toList_some, openQuote_concat]

theorem openQuote_take_all (s : String) :
    openQuote ((encoded s.toList).take s.utf8ByteSize) = openQuote (encoded s.toList) := by
  rw [← offset_toList, offset, List.take_length]

/-- What is open is a quote. -/
theorem isQuote_of_openQuote {bs : List UInt8} {q : UInt8} (h : openQuote bs = some q) :
    isQuote q = true := by
  induction bs using List.reverseRecOn with
  | nil => cases h
  | append_singleton bs b ih =>
    rw [openQuote_concat] at h
    cases hopen : openQuote bs with
    | none =>
      rw [hopen, quoteBehind, Option.ite_none_right_eq_some] at h
      exact Option.some.inj h.2 ▸ h.1
    | some d =>
      rw [hopen, quoteBehind, Option.ite_none_left_eq_some] at h
      exact ih (hopen.trans h.2)

/-- The byte behind the question mark of an operator opens no quoted text. -/
theorem exists_of_isOperator {a b : Option UInt8} (h : isOperator a b = true) :
    ∃ d, a = some d ∧ ¬isQuote d = true := by
  cases a with
  | none => cases h
  | some d =>
    simp only [isOperator, Bool.or_eq_true, Bool.and_eq_true, beq_iff_eq] at h
    rcases h with (rfl | rfl) | ⟨rfl, -⟩ <;> exact ⟨_, rfl, by decide⟩

/-! ## The steps of the scan -/

/-- A scan between two steps. -/
structure Scan where
  /-- The offset of the next byte to be read. -/
  index : Nat
  /-- The offset behind what has been cut off. -/
  spanStart : Nat
  /-- The quote that closes the quoted text in which the scan is. -/
  quote : Option UInt8
  cutOff : List Cut

namespace Scan

/-- The scan that has not read anything. -/
def start : Scan := ⟨0, 0, none, []⟩

/-- The scan after it has passed over bytes, with the quote that is open behind them. -/
def pass (x : Scan) (n : Nat) (quote : Option UInt8) : Scan :=
  { x with index := x.index + n, quote }

/-- The scan after it has cut off the span in front of a marker, and the marker. -/
def cut (x : Scan) : Scan where
  index := x.index + 1
  spanStart := x.index + 1
  quote := none
  cutOff := x.cutOff ++ [.span x.spanStart x.index, .marker x.index]

/-- The scan after its next step, unless it has come to the end outside quoted text. At the end in
quoted text, which nothing closes, one more step leads beyond the end. -/
def next? (bytes : ByteArray) (x : Scan) : Option Scan :=
  match x.quote, bytes[x.index]? with
  | none, none => none
  | none, some b =>
    if isQuote b then some (x.pass 1 (some b))
    else if b ≠ octet '?' then some (x.pass 1 none)
    else if isOperator bytes[x.index + 1]? bytes[x.index + 2]? then some (x.pass 2 none)
    else some x.cut
  | some _, none => some (x.pass 1 none)
  | some q, some b =>
    if b ≠ q then some (x.pass 1 (some q))
    else if bytes[x.index + 1]? = some q then some (x.pass 2 (some q))
    else some (x.pass 1 none)

variable {bytes : ByteArray} {x y : Scan}

theorem lt_size {b : UInt8} (h : bytes[i]? = some b) : i < bytes.size := (getElem_of_getElem? h).1

theorem size_le (h : bytes[i]? = none) : bytes.size ≤ i := by
  by_contra hlt
  rw [getElem?_pos bytes i (Nat.lt_of_not_le hlt)] at h
  cases h

/-- A scan has come to the end if it is outside quoted text and no byte is left. -/
theorem next?_eq_none_iff : x.next? bytes = none ↔ x.quote = none ∧ bytes.size ≤ x.index := by
  fun_cases next? bytes x with
  | case1 hend hquote => exact iff_of_true rfl ⟨hquote, size_le hend⟩
  | case6 q hend hquote => simp [hquote]
  | _ => exact iff_of_false nofun fun h ↦ absurd (lt_size ‹_›) (Nat.not_lt_of_le h.2)

/-- Every step leads to a later index. -/
theorem index_lt_next (h : x.next? bytes = some y) : x.index < y.index := by
  revert h
  fun_cases next? bytes x <;> rintro ⟨⟩ <;> simp [pass, cut]

/-- A step reads a byte, or leaves quoted text that nothing closes. -/
theorem lt_size_or_unclosed (h : x.next? bytes = some y) :
    x.index < bytes.size ∨ x.quote ≠ none ∧ y.quote = none := by
  revert h
  fun_cases next? bytes x with
  | case1 hend hquote => exact nofun
  | case6 q hend hquote =>
    rintro ⟨⟩
    exact .inr ⟨by simp [hquote], rfl⟩
  | _ => exact fun _ ↦ .inl (lt_size ‹_›)

/-- What is left to do. The bytes that are left count twice, since the step that opens quoted text
may call for one more at the end. -/
def remaining (bytes : ByteArray) (x : Scan) : Nat :=
  2 * (bytes.size - x.index) + x.quote.toList.length

theorem remaining_lt (h : x.next? bytes = some y) : y.remaining bytes < x.remaining bytes := by
  have hindex := index_lt_next h
  have hquote : y.quote.toList.length ≤ 1 := Option.length_toList_le
  rw [remaining, remaining]
  rcases lt_size_or_unclosed h with hlt | ⟨hopen, hclosed⟩
  · omega
  · obtain ⟨q, hq⟩ := Option.ne_none_iff_exists'.mp hopen
    rw [hq, hclosed, Option.toList_none, Option.toList_some, List.length_nil, List.length_singleton]
    omega

/-- A scan and what becomes of it, step by step. -/
def trace (bytes : ByteArray) (x : Scan) : List Scan :=
  match _h : x.next? bytes with
  | none => [x]
  | some y => x :: trace bytes y
termination_by x.remaining bytes
decreasing_by exact remaining_lt _h

theorem head?_trace (bytes : ByteArray) (x : Scan) : (trace bytes x).head? = some x := by
  fun_cases trace bytes x <;> rfl

theorem isChain_trace (bytes : ByteArray) (x : Scan) :
    (trace bytes x).IsChain fun x y ↦ x.next? bytes = some y := by
  fun_induction trace bytes x with
  | case1 x hend => exact .singleton x
  | case2 x y hnext ih =>
    refine List.isChain_cons.mpr ⟨fun z hz ↦ ?_, ih⟩
    rw [head?_trace, Option.mem_some_iff] at hz
    rwa [← hz]

/-- A scan comes to its end. -/
theorem exists_last (bytes : ByteArray) (x : Scan) :
    ∃ last, (trace bytes x).getLast? = some last ∧ last.next? bytes = none := by
  fun_induction trace bytes x with
  | case1 x hend => exact ⟨x, rfl, hend⟩
  | case2 x y hnext ih =>
    obtain ⟨last, hlast, hend⟩ := ih
    refine ⟨last, ?_, hend⟩
    rw [List.getLast?_cons, hlast]
    rfl

/-- What every step keeps holds from the first state of a scan to the last. -/
theorem forall_mem_trace {P : Scan → Prop} (hstep : ∀ x y, x.next? bytes = some y → P x → P y)
    (hx : P x) : ∀ y ∈ trace bytes x, P y := by
  fun_induction trace bytes x with
  | case1 x hend => exact List.forall_mem_singleton.mpr hx
  | case2 x y hnext ih => exact List.forall_mem_cons.mpr ⟨hx, ih (hstep x y hnext hx)⟩

theorem pairwise_index_trace (bytes : ByteArray) (x : Scan) :
    (trace bytes x).Pairwise (·.index < ·.index) := by
  have hchain : (trace bytes x).IsChain (·.index < ·.index) :=
    (isChain_trace bytes x).imp fun _ _ h ↦ index_lt_next h
  have : IsTrans Scan (·.index < ·.index) := ⟨fun _ _ _ ↦ Nat.lt_trans⟩
  exact hchain.pairwise

/-! ## What every step keeps -/

/-- What holds of a scan of a text wherever it stands. -/
structure Sound (s : String) (x : Scan) : Prop where
  index_le : x.index ≤ s.utf8ByteSize + 1
  spanStart_le : x.spanStart ≤ x.index
  boundary : (⟨x.spanStart⟩ : String.Pos.Raw).IsValid s
  /-- Inside the text, the open quote is the one that the bytes in front of the index leave open. -/
  quote_eq : x.index ≤ s.utf8ByteSize → x.quote = openQuote ((encoded s.toList).take x.index)
  /-- Only quoted text that nothing closes leads beyond the end. -/
  beyond : s.utf8ByteSize < x.index → x.quote = none ∧ ¬EndsOutside s
  tiles : Tiles 0 x.cutOff x.spanStart
  fits : ∀ c ∈ x.cutOff, c.Fits s

theorem sound_start (s : String) : Sound s start where
  index_le := Nat.zero_le _
  spanStart_le := le_rfl
  boundary := String.Pos.Raw.isValid_zero
  quote_eq _ := rfl
  beyond h := absurd h (Nat.not_lt_zero _)
  tiles := rfl
  fits := nofun

theorem succ_le_of_getElem? {b : UInt8} (h : s.toByteArray[i]? = some b) :
    i + 1 ≤ s.utf8ByteSize := by
  rw [← String.size_toByteArray]
  exact lt_size h

namespace Sound

/-- A scan may pass over bytes of the text, if it knows which quote is open behind them. -/
theorem pass (h : Sound s x) {n : Nat} {quote : Option UInt8} (hle : x.index + n ≤ s.utf8ByteSize)
    (hquote : quote = openQuote ((encoded s.toList).take (x.index + n))) :
    Sound s (x.pass n quote) where
  index_le := Nat.le_succ_of_le hle
  spanStart_le := h.spanStart_le.trans (Nat.le_add_right _ _)
  boundary := h.boundary
  quote_eq _ := hquote
  beyond hlt := absurd hle (Nat.not_le_of_lt hlt)
  tiles := h.tiles
  fits := h.fits

theorem openQuote_succ (h : Sound s x) {b : UInt8} (hb : s.toByteArray[x.index]? = some b) :
    openQuote ((encoded s.toList).take (x.index + 1)) = quoteBehind x.quote b := by
  rw [openQuote_take_succ hb, h.quote_eq (Nat.le_of_succ_le (succ_le_of_getElem? hb))]

/-- In quoted text, a scan is not beyond the end. -/
theorem index_le_of_some (h : Sound s x) {q : UInt8} (hquote : x.quote = some q) :
    x.index ≤ s.utf8ByteSize := by
  by_contra hlt
  cases hquote.symm.trans (h.beyond (Nat.lt_of_not_le hlt)).1

theorem isQuote_of_some (h : Sound s x) {q : UInt8} (hquote : x.quote = some q) :
    isQuote q = true :=
  isQuote_of_openQuote ((h.quote_eq (h.index_le_of_some hquote)).symm.trans hquote)

/-- A scan may cut at a question mark, on both sides of which there are boundaries. -/
theorem cut (h : Sound s x) (hmark : s.toByteArray[x.index]? = some (octet '?'))
    (hquote : x.quote = none) : Sound s x.cut := by
  have hle := succ_le_of_getElem? hmark
  obtain ⟨hfront, hbehind⟩ := isValid_of_ascii (by decide) hmark
  refine ⟨Nat.le_succ_of_le hle, le_rfl, hbehind, fun _ ↦ ?_, fun hlt ↦ ?_, ?_, ?_⟩
  · rw [Scan.cut, h.openQuote_succ hmark, hquote]
    rfl
  · exact absurd hle (Nat.not_le_of_lt hlt)
  · exact h.tiles.append ⟨rfl, h.spanStart_le, rfl, Nat.le_succ _, rfl⟩
  · refine List.forall_mem_append.mpr ⟨h.fits, List.forall_mem_cons.mpr ⟨?_, ?_⟩⟩
    · exact ⟨h.spanStart_le, h.boundary, hfront⟩
    · exact List.forall_mem_singleton.mpr hmark

/-- At the end of the text in quoted text, there is nothing that closes it. -/
theorem unclosed (h : Sound s x) {q : UInt8} (hend : s.toByteArray[x.index]? = none)
    (hquote : x.quote = some q) : Sound s (x.pass 1 none) := by
  have hindex : x.index = s.utf8ByteSize := by
    refine le_antisymm (h.index_le_of_some hquote) ?_
    rw [← String.size_toByteArray]
    exact size_le hend
  have hopen : openQuote (encoded s.toList) = some q := by
    rw [← openQuote_take_all, ← hindex, ← h.quote_eq hindex.le, hquote]
  refine ⟨Nat.succ_le_succ hindex.le, h.spanStart_le.trans (Nat.le_succ _), h.boundary,
    fun hle ↦ ?_, fun _ ↦ ⟨rfl, ?_⟩, h.tiles, h.fits⟩
  · exact absurd (hindex ▸ hle) (Nat.not_succ_le_self _)
  · rw [← openQuote_eq_none_iff, hopen]
    exact Option.some_ne_none q

/-- Every step keeps a scan sound. -/
theorem next (h : Sound s x) (hnext : x.next? s.toByteArray = some y) : Sound s y := by
  revert hnext
  fun_cases next? s.toByteArray x with
  | case1 hend hquote => exact nofun
  | case2 b hb hquote hopens =>
    rintro ⟨⟩
    refine h.pass (succ_le_of_getElem? hb) ?_
    rw [h.openQuote_succ hb, hquote, quoteBehind, if_pos hopens]
  | case3 b hb hquote hno hother =>
    rintro ⟨⟩
    refine h.pass (succ_le_of_getElem? hb) ?_
    rw [h.openQuote_succ hb, hquote, quoteBehind, if_neg hno]
  | case4 b hb hquote hno hmark hoperator =>
    rintro ⟨⟩
    obtain ⟨d, hd, hclosed⟩ := exists_of_isOperator hoperator
    refine h.pass (succ_le_of_getElem? hd) ?_
    rw [openQuote_take_succ hd, h.openQuote_succ hb, hquote, quoteBehind, if_neg hno, quoteBehind,
      if_neg hclosed]
  | case5 b hb hquote hno hmark hoperator =>
    rintro ⟨⟩
    obtain rfl : b = octet '?' := not_not.mp hmark
    exact h.cut hb hquote
  | case6 q hend hquote =>
    rintro ⟨⟩
    exact h.unclosed hend hquote
  | case7 q b hb hquote hother =>
    rintro ⟨⟩
    refine h.pass (succ_le_of_getElem? hb) ?_
    rw [h.openQuote_succ hb, hquote, quoteBehind, if_neg hother]
  | case8 q b hb hquote hsame hdoubled =>
    rintro ⟨⟩
    obtain rfl : b = q := not_not.mp hsame
    -- byte by byte, the first of the two quotes closes the quoted text and the second opens it again
    refine h.pass (succ_le_of_getElem? hdoubled) ?_
    rw [openQuote_take_succ hdoubled, h.openQuote_succ hb, hquote, quoteBehind, if_pos rfl,
      quoteBehind, if_pos (h.isQuote_of_some hquote)]
  | case9 q b hb hquote hsame hsingle =>
    rintro ⟨⟩
    refine h.pass (succ_le_of_getElem? hb) ?_
    rw [h.openQuote_succ hb, hquote, quoteBehind, if_pos (not_not.mp hsame)]

theorem index_le_limit (h : Sound s x) :
    x.index ≤ if EndsOutside s then s.utf8ByteSize else s.utf8ByteSize + 1 := by
  split
  · next houtside =>
    by_contra hlt
    exact (h.beyond (Nat.lt_of_not_le hlt)).2 houtside
  · exact h.index_le

/-- At its end, a scan is behind the last byte, or one further on if there is quoted text that
nothing closes. -/
theorem index_eq_limit (h : Sound s x) (hend : x.next? s.toByteArray = none) :
    x.index = if EndsOutside s then s.utf8ByteSize else s.utf8ByteSize + 1 := by
  obtain ⟨hquote, hsize⟩ := next?_eq_none_iff.mp hend
  rw [String.size_toByteArray] at hsize
  refine le_antisymm h.index_le_limit ?_
  split
  · exact hsize
  · next hinside =>
    refine Nat.lt_of_le_of_ne hsize fun hindex ↦ hinside ?_
    rw [← openQuote_eq_none_iff, ← openQuote_take_all, hindex, ← h.quote_eq hindex.ge, hquote]

end Sound

theorem sound_trace (s : String) : ∀ x ∈ trace s.toByteArray start, Sound s x :=
  forall_mem_trace (fun _ _ hnext h ↦ h.next hnext) (sound_start s)

/-! ## The cuts of a scan -/

/-- The offset from which the scan goes on outside quoted text. -/
def outsideFrom (bytes : ByteArray) (x : Scan) : Nat :=
  match x.quote with
  | none => x.index
  | some q => behindQuoted bytes q x.index

/-- What has been cut off and what is still to be cut off. -/
def allCuts (bytes : ByteArray) (x : Scan) : List Cut :=
  x.cutOff ++ cutsFrom bytes ⟨x.outsideFrom bytes, x.spanStart⟩

theorem outsideFrom_of_none (h : x.quote = none) : x.outsideFrom bytes = x.index := by
  rw [outsideFrom, h]

theorem outsideFrom_of_some {q : UInt8} (h : x.quote = some q) :
    x.outsideFrom bytes = behindQuoted bytes q x.index := by
  rw [outsideFrom, h]

/-- A step outside quoted text that cuts nothing off does what the move of the scan does. -/
theorem allCuts_of_skip {hlt : x.index < bytes.size} {later : x.index < i} {n : Nat}
    {quote : Option UInt8} (hquote : x.quote = none) (hmove : move bytes x.index hlt = .skip i later)
    (hi : (x.pass n quote).outsideFrom bytes = i) :
    (x.pass n quote).allCuts bytes = x.allCuts bytes := by
  rw [allCuts, allCuts, hi, outsideFrom_of_none hquote]
  conv => rhs; rw [cutsFrom, dif_pos hlt]
  simp only [hmove]
  rfl

theorem allCuts_of_mark {hlt : x.index < bytes.size} (hquote : x.quote = none)
    (hmove : move bytes x.index hlt = .mark) : x.cut.allCuts bytes = x.allCuts bytes := by
  rw [allCuts, allCuts, outsideFrom_of_none hquote]
  conv => rhs; rw [cutsFrom, dif_pos hlt]
  simp only [hmove]
  exact List.append_assoc ..

/-- A step in quoted text leaves open how the scan goes on behind it. -/
theorem allCuts_of_quoted {q : UInt8} {n : Nat} {quote : Option UInt8} (hquote : x.quote = some q)
    (h : behindQuoted bytes q x.index = (x.pass n quote).outsideFrom bytes) :
    (x.pass n quote).allCuts bytes = x.allCuts bytes := by
  rw [allCuts, allCuts, outsideFrom_of_some hquote, h]
  rfl

/-- No step changes the cuts of the whole text. -/
theorem allCuts_next (h : x.next? bytes = some y) : y.allCuts bytes = x.allCuts bytes := by
  revert h
  fun_cases next? bytes x with
  | case1 hend hquote => exact nofun
  | case2 b hb hquote hopens =>
    rintro ⟨⟩
    obtain ⟨hlt, rfl⟩ := getElem_of_getElem? hb
    have hmove : move bytes x.index hlt = .skip _ _ := if_pos hopens
    exact allCuts_of_skip hquote hmove rfl
  | case3 b hb hquote hno hother =>
    rintro ⟨⟩
    obtain ⟨hlt, rfl⟩ := getElem_of_getElem? hb
    have hmove : move bytes x.index hlt = .skip _ _ := (if_neg hno).trans (if_neg hother)
    exact allCuts_of_skip hquote hmove rfl
  | case4 b hb hquote hno hmark hoperator =>
    rintro ⟨⟩
    obtain ⟨hlt, rfl⟩ := getElem_of_getElem? hb
    have hmove : move bytes x.index hlt = .skip _ _ :=
      (if_neg hno).trans ((if_pos (not_not.mp hmark)).trans (if_pos hoperator))
    exact allCuts_of_skip hquote hmove rfl
  | case5 b hb hquote hno hmark hoperator =>
    rintro ⟨⟩
    obtain ⟨hlt, rfl⟩ := getElem_of_getElem? hb
    have hmove : move bytes x.index hlt = .mark :=
      (if_neg hno).trans ((if_pos (not_not.mp hmark)).trans (if_neg hoperator))
    exact allCuts_of_mark hquote hmove
  | case6 q hend hquote =>
    rintro ⟨⟩
    refine allCuts_of_quoted hquote ?_
    rw [behindQuoted, dif_neg (Nat.not_lt_of_le (size_le hend))]
    rfl
  | case7 q b hb hquote hother =>
    rintro ⟨⟩
    obtain ⟨hlt, rfl⟩ := getElem_of_getElem? hb
    refine allCuts_of_quoted hquote ?_
    rw [behindQuoted, dif_pos hlt, if_neg hother]
    rfl
  | case8 q b hb hquote hsame hdoubled =>
    rintro ⟨⟩
    obtain ⟨hlt, rfl⟩ := getElem_of_getElem? hb
    refine allCuts_of_quoted hquote ?_
    rw [behindQuoted, dif_pos hlt, if_pos (not_not.mp hsame), if_pos hdoubled]
    rfl
  | case9 q b hb hquote hsame hsingle =>
    rintro ⟨⟩
    obtain ⟨hlt, rfl⟩ := getElem_of_getElem? hb
    refine allCuts_of_quoted hquote ?_
    rw [behindQuoted, dif_pos hlt, if_pos (not_not.mp hsame), if_neg hsingle]
    rfl

theorem allCuts_trace (s : String) :
    ∀ x ∈ trace s.toByteArray start, x.allCuts s.toByteArray = RawText.cuts s :=
  forall_mem_trace (fun _ _ hnext h ↦ (allCuts_next hnext).trans h) rfl

/-- At the end, what has not been cut off is the last span, if anything is left. -/
theorem allCuts_end (h : x.next? bytes = none) :
    x.allCuts bytes =
      x.cutOff ++ if x.spanStart < bytes.size then [.span x.spanStart bytes.size] else [] := by
  obtain ⟨hquote, hend⟩ := next?_eq_none_iff.mp h
  rw [allCuts, outsideFrom_of_none hquote, cutsFrom, dif_neg (Nat.not_lt_of_le hend)]

/-- The last span closes the gap to the end of the text. -/
theorem Sound.tiles_allCuts (h : Sound s x) (hend : x.next? s.toByteArray = none) :
    Tiles 0 (x.allCuts s.toByteArray) s.utf8ByteSize ∧ ∀ c ∈ x.allCuts s.toByteArray, c.Fits s := by
  have hle : x.spanStart ≤ s.utf8ByteSize := h.boundary.le_utf8ByteSize
  rw [allCuts_end hend, String.size_toByteArray]
  split
  · next hlt =>
    refine ⟨h.tiles.append ⟨rfl, hle, rfl⟩, List.forall_mem_append.mpr ⟨h.fits, ?_⟩⟩
    exact List.forall_mem_singleton.mpr ⟨hle, h.boundary, String.Pos.Raw.isValid_rawEndPos⟩
  · next hnot =>
    have hall : x.spanStart = s.utf8ByteSize := le_antisymm hle (Nat.le_of_not_lt hnot)
    rw [List.append_nil, ← hall]
    exact ⟨h.tiles, h.fits⟩

end Scan

end RawText

/-! ## Writing character by character -/

namespace Printer

/-- Marked characters that are written one by one. -/
theorem concat_marked (credit : Name) (marks : List (Char × Bool)) (w : Setting) (p : Page) :
    concat (marks.map fun m ↦ if m.2 then slot credit else text (.singleton m.1)) w p =
      ⟨p.text ++ RawText.substituted w.dialect p.tally.paramCount marks,
        (fun t : Tally ↦ t.param credit)^[marks.countP (·.2)] p.tally, p.events⟩ := by
  induction marks generalizing p with
  | nil => exact congrArg (Page.mk · _ _) String.append_empty.symm
  | cons m marks ih =>
    obtain ⟨c, isMarker⟩ := m
    rw [List.map_cons, concat, append_apply, ih]
    cases isMarker with
    | false =>
      rw [RawText.substituted, List.countP_cons_of_neg Bool.false_ne_true, ← String.append_assoc]
      rfl
    | true =>
      rw [RawText.substituted, List.countP_cons_of_pos rfl, ← String.append_assoc,
        Function.iterate_succ_apply]
      rfl

/-- Raw text is written as its characters are one by one, the markers among them being told by
reading the characters. -/
theorem raw_eq_concat_marked (credit : Name) (s : String) :
    raw credit s = concat ((RawText.marked .outside s.toList).map fun m ↦
      if m.2 then slot credit else text (.singleton m.1)) := by
  funext w p
  rw [raw_apply, concat_marked]
  rfl

end Printer

namespace RawText

/-- The scan of raw text comes to an end and stays in bounds. Its states follow from one another by
single steps, in quoted text and outside; the last one has no next one, and the cuts of the text are
those that it has made, with the rest of the text behind them. The index grows with every step. It is
inside the text or at its end, and one further on only if there is quoted text that nothing closes;
what has not been cut off begins inside the text and not behind the index. Every span begins and ends
at boundaries between characters, so that it is a slice of the text, and every marker is a question
mark. The cuts are disjoint and in order, and every byte of the text belongs to one of them. What is
written for them is what is written if the text is read character by character. -/
theorem scan_in_bounds (credit : Name) (s : String) :
    let bytes := s.toByteArray
    let size := s.utf8ByteSize
    let limit := if EndsOutside s then size else size + 1
    let trace := Scan.trace bytes .start
    (trace.head? = some .start ∧ trace.IsChain (fun x y ↦ x.next? bytes = some y) ∧
      ∃ last, trace.getLast? = some last ∧ last.next? bytes = none ∧ last.index = limit ∧
        cuts s = last.cutOff ++
          if last.spanStart < size then [.span last.spanStart size] else []) ∧
    (trace.Pairwise (·.index < ·.index) ∧
      ∀ x ∈ trace, x.index ≤ limit ∧ x.spanStart ≤ x.index ∧ x.spanStart ≤ size) ∧
    (∀ start stop, .span start stop ∈ cuts s →
      start ≤ stop ∧ stop ≤ size ∧
        (⟨start⟩ : String.Pos.Raw).IsValid s ∧ (⟨stop⟩ : String.Pos.Raw).IsValid s ∧
        ∃ t, slice? s start stop = some t ∧ t.toByteArray = bytes.extract start stop) ∧
    (∀ offset, .marker offset ∈ cuts s → bytes[offset]? = some (octet '?')) ∧
    (cuts s).Pairwise (fun c d ↦ c.stop ≤ d.start) ∧
    (cuts s).flatMap Cut.offsets = List.range size ∧
    Printer.raw credit s = .concat ((marked .outside s.toList).map fun m ↦
      if m.2 then .slot credit else .text (.singleton m.1)) := by
  intro bytes size limit trace
  obtain ⟨last, hlast, hend⟩ := Scan.exists_last bytes .start
  have hmem : last ∈ trace := List.mem_of_getLast? hlast
  have hsound := Scan.sound_trace s last hmem
  have hcuts := Scan.allCuts_trace s last hmem
  obtain ⟨htiles, hfits⟩ := hsound.tiles_allCuts hend
  rw [hcuts] at htiles hfits
  refine ⟨⟨Scan.head?_trace bytes _, Scan.isChain_trace bytes _, last, hlast, hend,
    hsound.index_eq_limit hend, ?_⟩, ⟨Scan.pairwise_index_trace bytes _, fun x hx ↦ ?_⟩,
    fun start stop hspan ↦ ?_, fun offset hmarker ↦ hfits _ hmarker, htiles.pairwise, ?_,
    Printer.raw_eq_concat_marked credit s⟩
  · rw [← hcuts, Scan.allCuts_end hend, String.size_toByteArray]
  · have hx := Scan.sound_trace s x hx
    exact ⟨hx.index_le_limit, hx.spanStart_le, hx.boundary.le_utf8ByteSize⟩
  · obtain ⟨hle, hstart, hstop⟩ := hfits _ hspan
    exact ⟨hle, hstop.le_utf8ByteSize, hstart, hstop, exists_slice? hle hstart hstop⟩
  · rw [htiles.flatMap_offsets, Nat.sub_zero, List.range_eq_range']

/-- A marker between a character of two bytes and a quote that nothing closes, behind which there is
another such character. -/
theorem scan_in_bounds_unclosed :
    let s := "é?'ü?"
    let trace := Scan.trace s.toByteArray .start
    cuts s = [.span 0 2, .marker 2, .span 3 7] ∧ s.utf8ByteSize = 7 ∧
      (∃ last ∈ trace, last.index = 8 ∧ last.spanStart ≤ 7) ∧
      (⟨3⟩ : String.Pos.Raw).IsValid s ∧ ¬(⟨5⟩ : String.Pos.Raw).IsValid s ∧
      (∃ t, slice? s 3 7 = some t ∧ t.toByteArray = s.toByteArray.extract 3 7) ∧
      s.toByteArray[2]? = some (octet '?') := by
  intro s trace
  have hcuts : cuts s = [.span 0 2, .marker 2, .span 3 7] := by cbv
  have hsize : s.utf8ByteSize = 7 := by decide
  have hopen : ¬EndsOutside s := by decide
  obtain ⟨⟨-, -, last, hlast, -, hlimit, -⟩, ⟨-, hindex⟩, hspans, hmarkers, -⟩ :=
    scan_in_bounds .empty s
  have hmem : last ∈ trace := List.mem_of_getLast? hlast
  obtain ⟨-, -, hstart⟩ := hindex last hmem
  obtain ⟨-, -, hvalid, -, hslice⟩ := hspans 3 7 (by simp [hcuts])
  rw [if_neg hopen, hsize] at hlimit
  refine ⟨hcuts, hsize, ⟨last, hmem, hlimit, hsize ▸ hstart⟩, hvalid, ?_, hslice,
    hmarkers 2 (by simp [hcuts])⟩
  rw [← String.Pos.Raw.isValid_eq_true_iff]
  decide

end RawText

end SqlStatement
