import SqlStatement.Proofs.Filter

/-!
# How a clause is read

A clause has its groups one behind the other, with a conjunction between each two and without
brackets around several of them.  So it is read by the precedence of SQL, where `AND` binds tighter
than `OR` (`Where.Reads`), although every call joins its group to all that come before it
(`Where.inTurn`).  The two agree exactly if no group is joined by `AND` behind one that is joined by
`OR` (`Where.forall_holdsFrom_eq_inTurn_iff`); what comes behind an `OR` takes nothing away from
what comes before it.
-/

namespace SqlStatement

/-- The truth value of two conditions that are joined. -/
def Conjunction.holds : Conjunction → Bool → Bool → Bool
  | and, a, b => a && b
  | or, a, b => a || b

namespace Where

/-! ## The words of a clause -/

/-- A word of a clause. -/
inductive Word
  /-- The group at a place among the groups of the clause, the first place being 0. -/
  | group (place : Nat)
  /-- A text between two groups. -/
  | between (text : String)
  deriving DecidableEq, Repr

/-- The words of groups, of which the first has the given place. -/
def groupWords (place : Nat) : List Group → List Word
  | [] => []
  | ⟨none, _, _⟩ :: gs => .group place :: groupWords (place + 1) gs
  | ⟨some c, _, _⟩ :: gs =>
    .between c.betweenGroups :: .group place :: groupWords (place + 1) gs

/-- The words of a clause behind the word `where`. -/
def words (w : Where) : List Word := groupWords 0 w.groups

/-- Writes a word of the clause that calls with conditions make if all are accepted. -/
def Word.printer (calls : List Call) : Word → Printer
  | group place => calls[place]?.elim .nothing Call.brackets
  | between text => .text text

/-- The words of groups that are joined to others. -/
def joinedWords (place : Nat) : List Conjunction → List Word
  | [] => []
  | c :: cs => .between c.betweenGroups :: .group place :: joinedWords (place + 1) cs

theorem groupWords_laterGroup (place : Nat) (calls : List Call) :
    groupWords place (calls.map Call.laterGroup) = joinedWords place (calls.map Call.join) := by
  induction calls generalizing place with
  | nil => rfl
  | cons c cs ih => rw [List.map_cons, List.map_cons, Call.laterGroup, groupWords, ih, joinedWords]

/-- The words of a clause are its first group and the groups that are joined to it. -/
theorem groupWords_chain {calls : List Call} (h : calls ≠ []) :
    groupWords 0 (chain calls) = .group 0 :: joinedWords 1 (calls.tail.map Call.join) := by
  cases calls with
  | nil => exact absurd rfl h
  | cons c cs => rw [chain, groupWords, groupWords_laterGroup, List.tail_cons]

theorem joinedWords_append (place : Nat) (cs ds : List Conjunction) :
    joinedWords place (cs ++ ds) = joinedWords place cs ++ joinedWords (place + cs.length) ds := by
  induction cs generalizing place with
  | nil => rfl
  | cons c cs ih =>
    rw [List.cons_append, joinedWords, ih, joinedWords, List.length_cons, Nat.add_assoc,
      Nat.add_comm 1]
    rfl

/-- The words of groups that are joined to others are written as these groups. -/
theorem concat_joinedWords (front cs : List Call) :
    Printer.concat ((joinedWords front.length (cs.map Call.join)).map
        (Word.printer (front ++ cs))) =
      .concat (cs.map fun c ↦ .text c.join.betweenGroups ++ c.brackets) := by
  induction cs generalizing front with
  | nil => rfl
  | cons c cs ih =>
    have hc : (front ++ c :: cs)[front.length]? = some c := by simp
    have hrest := ih (front ++ [c])
    rw [List.length_append, List.length_singleton, List.append_assoc,
      List.singleton_append] at hrest
    simp only [List.map_cons, joinedWords, Printer.concat, hrest, Word.printer, hc]
    rfl

/-- A clause is written word by word, behind the word `where`. -/
theorem printer_words {w : Where} {calls : List Call} (h : w.groups = chain calls) :
    w.printer =
      if calls.isEmpty then .nothing
      else .text "where " ++ .concat (w.words.map (Word.printer calls)) := by
  rw [printer_chain h]
  cases calls with
  | nil => rfl
  | cons c cs =>
    have hwords : w.words = .group 0 :: joinedWords 1 (cs.map Call.join) := by
      rw [words, h]
      exact groupWords_chain (List.cons_ne_nil c cs)
    have hjoined := concat_joinedWords [c] cs
    rw [List.length_singleton, List.singleton_append] at hjoined
    rw [hwords, List.map_cons, Printer.concat, hjoined]
    rfl

/-! ## Reading by precedence -/

/-- A formula over the groups of a clause. -/
inductive Formula
  | group (place : Nat)
  | join (c : Conjunction) (left right : Formula)
  deriving DecidableEq, Repr

/-- The truth value of a formula, from those of the groups. -/
def Formula.holds (v : Nat → Bool) : Formula → Bool
  | group place => v place
  | join c left right => c.holds (left.holds v) (right.holds v)

/-- Words that read as groups joined by `AND`. -/
inductive ReadsTerm : List Word → Formula → Prop
  | group (place : Nat) : ReadsTerm [.group place] (.group place)
  | and {ws : List Word} {x : Formula} (h : ReadsTerm ws x) (place : Nat) :
      ReadsTerm (ws ++ [.between " AND ", .group place]) (.join .and x (.group place))

/-- Words that read as terms joined by `OR`, which are groups joined by `AND`. -/
inductive Reads : List Word → Formula → Prop
  | term {ws : List Word} {x : Formula} (h : ReadsTerm ws x) : Reads ws x
  | or {ws us : List Word} {x y : Formula} (h : Reads ws x) (hterm : ReadsTerm us y) :
      Reads (ws ++ .between " OR " :: us) (.join .or x y)

/-- The truth value that words read as, if those in front of them since the last `OR` read as
`before`. -/
def holdsFrom (v : Nat → Bool) (before : Bool) : List Word → Bool
  | [] => before
  | .group place :: ws => holdsFrom v (before && v place) ws
  | .between text :: ws =>
    if text = " OR " then before || holdsFrom v true ws else holdsFrom v before ws

/-- The truth value of groups each of which is joined to everything before it. -/
def inTurn (v : Nat → Bool) (before : Bool) (place : Nat) : List Conjunction → Bool
  | [] => before
  | c :: cs => inTurn v (c.holds before (v place)) (place + 1) cs

variable {v : Nat → Bool}

/-- An `OR` divides words into two parts, and it is enough for one of them to be true. -/
theorem holdsFrom_or (before : Bool) (ws us : List Word) :
    holdsFrom v before (ws ++ .between " OR " :: us) =
      (holdsFrom v before ws || holdsFrom v true us) := by
  induction ws generalizing before with
  | nil => rfl
  | cons w ws ih =>
    cases w with
    | group place => exact ih (before && v place)
    | between text =>
      simp only [List.cons_append, holdsFrom, ih]
      split
      · rw [Bool.or_assoc]
      · rfl

/-- A term has to be true besides what is before it. -/
theorem ReadsTerm.holdsFrom_append {ws : List Word} {x : Formula} (h : ReadsTerm ws x)
    (before : Bool) (us : List Word) :
    holdsFrom v before (ws ++ us) = holdsFrom v (before && x.holds v) us := by
  induction h generalizing us with
  | group place => rfl
  | and h place ih =>
    rw [List.append_assoc, ih, Formula.holds, Conjunction.holds, ← Bool.and_assoc]
    rfl

/-- However words are read, their truth value is the same. -/
theorem Reads.holds_eq {ws : List Word} {x : Formula} (h : Reads ws x) :
    x.holds v = holdsFrom v true ws := by
  induction h with
  | @term ws x h =>
    have hterm := h.holdsFrom_append (v := v) true []
    rw [List.append_nil, Bool.true_and] at hterm
    exact hterm.symm
  | @or ws us x y h hterm ih =>
    have hright := hterm.holdsFrom_append (v := v) true []
    rw [List.append_nil, Bool.true_and] at hright
    rw [holdsFrom_or, ← ih, hright]
    rfl

/-- Words that can be read can be read with one more group behind them. -/
theorem Reads.exists_joined {ws : List Word} {x : Formula} (h : Reads ws x) (c : Conjunction)
    (place : Nat) : ∃ y, Reads (ws ++ [.between c.betweenGroups, .group place]) y := by
  cases c with
  | or => exact ⟨_, .or h (.group place)⟩
  | and =>
    cases h with
    | term hterm => exact ⟨_, .term (hterm.and place)⟩
    | @or ws us x y hleft hterm =>
      refine ⟨.join .or x (.join .and y (.group place)), ?_⟩
      rw [List.append_assoc]
      exact .or hleft (hterm.and place)

/-- There is nothing to be read without words. -/
theorem Reads.ne_nil {ws : List Word} {x : Formula} (h : Reads ws x) : ws ≠ [] := by
  rcases h with h | _
  · rcases h with _ | _ <;> simp
  · simp

/-- Groups with conjunctions between them can be read. -/
theorem exists_reads (cs : List Conjunction) : ∃ x, Reads (.group 0 :: joinedWords 1 cs) x := by
  induction cs using List.reverseRecOn with
  | nil => exact ⟨_, .term (.group 0)⟩
  | append_singleton cs c ih =>
    obtain ⟨x, hx⟩ := ih
    rw [joinedWords_append]
    exact hx.exists_joined c (1 + cs.length)

/-! ## Reading group by group -/

theorem inTurn_append (before : Bool) (place : Nat) (cs ds : List Conjunction) :
    inTurn v before place (cs ++ ds) =
      inTurn v (inTurn v before place cs) (place + cs.length) ds := by
  induction cs generalizing before place with
  | nil => rfl
  | cons c cs ih =>
    rw [List.cons_append, inTurn, ih, inTurn, List.length_cons, Nat.add_assoc, Nat.add_comm 1]

/-- Behind groups of which one is true it is enough to have groups joined by `OR`. -/
theorem inTurn_or {cs : List Conjunction} (h : ∀ c ∈ cs, c = .or) (a b : Bool) (place : Nat) :
    inTurn v (a || b) place cs = (a || inTurn v b place cs) := by
  induction cs generalizing b place with
  | nil => rfl
  | cons c cs ih =>
    obtain rfl := h c List.mem_cons_self
    rw [inTurn, inTurn, Conjunction.holds, Conjunction.holds, Bool.or_assoc]
    exact ih (fun d hd ↦ h d (List.mem_cons_of_mem _ hd)) _ _

/-- What is false stays false as long as only false groups are joined to it. -/
theorem inTurn_false {place : Nat} (h : ∀ p ≥ place, v p = false) (cs : List Conjunction) :
    inTurn v false place cs = false := by
  induction cs generalizing place with
  | nil => rfl
  | cons c cs ih =>
    have hc : c.holds false (v place) = false := by
      rw [h place le_rfl]
      cases c <;> rfl
    rw [inTurn, hc]
    exact ih fun p hp ↦ h p (Nat.le_of_succ_le hp)

/-- Groups that are all true are true by precedence. -/
theorem holdsFrom_true {place : Nat} {cs : List Conjunction}
    (h : ∀ p < place + cs.length, v p = true) : holdsFrom v true (joinedWords place cs) = true := by
  induction cs generalizing place with
  | nil => rfl
  | cons c cs ih =>
    rw [List.length_cons] at h
    have hrest : holdsFrom v true (joinedWords (place + 1) cs) = true :=
      ih fun p hp ↦ h p (by omega)
    simp only [joinedWords, holdsFrom, h place (by omega), hrest, Bool.true_and]
    split <;> rfl

/-- If there is no `AND` behind an `OR`, the precedence of `AND` changes nothing. -/
theorem holdsFrom_joinedWords {cs : List Conjunction}
    (h : cs.Pairwise fun a b ↦ ¬ (a = .or ∧ b = .and)) (before : Bool) (place : Nat) :
    holdsFrom v before (joinedWords place cs) = inTurn v before place cs := by
  induction cs generalizing before place with
  | nil => rfl
  | cons c cs ih =>
    obtain ⟨hc, hcs⟩ := List.pairwise_cons.mp h
    cases c with
    | and => exact ih hcs (before && v place) (place + 1)
    | or =>
      have hor : ∀ d ∈ cs, d = .or := by
        intro d hd
        cases d with
        | and => exact absurd ⟨rfl, rfl⟩ (hc .and hd)
        | or => rfl
      calc
        holdsFrom v before (joinedWords place (.or :: cs))
        _ = (before || holdsFrom v (v place) (joinedWords (place + 1) cs)) := rfl
        _ = (before || inTurn v (v place) (place + 1) cs) := by rw [ih hcs]
        _ = inTurn v before place (.or :: cs) := (inTurn_or hor before (v place) _).symm

/-- Conjunctions of which one is an `AND` behind an `OR`. -/
theorem exists_or_and {cs : List Conjunction}
    (h : ¬ cs.Pairwise fun a b ↦ ¬ (a = .or ∧ b = .and)) :
    ∃ front middle behind, cs = front ++ .or :: (middle ++ .and :: behind) := by
  induction cs with
  | nil => exact absurd .nil h
  | cons c cs ih =>
    by_cases hcs : cs.Pairwise fun a b ↦ ¬ (a = .or ∧ b = .and)
    · rw [List.pairwise_cons, and_iff_left hcs] at h
      push Not at h
      obtain ⟨d, hd, rfl, rfl⟩ := h
      obtain ⟨middle, behind, rfl⟩ := List.append_of_mem hd
      exact ⟨[], middle, behind, rfl⟩
    · obtain ⟨front, middle, behind, rfl⟩ := ih hcs
      exact ⟨c :: front, middle, behind, rfl⟩

/-- Behind an `OR`, a false group that is joined by `AND` makes everything false if it is joined to
all before it, but not by precedence. -/
theorem exists_holdsFrom_ne_inTurn (front middle behind : List Conjunction) :
    ∃ v : Nat → Bool,
      let cs := front ++ .or :: (middle ++ .and :: behind)
      holdsFrom v true (.group 0 :: joinedWords 1 cs) = true ∧ inTurn v (v 0) 1 cs = false := by
  -- the group that is joined by the `AND`, and all groups behind it, are false
  let place := 1 + (front ++ .or :: middle).length
  let v : Nat → Bool := fun p ↦ decide (p < place)
  refine ⟨v, ?_⟩
  intro cs
  have hcs : cs = (front ++ .or :: middle) ++ .and :: behind := by simp [cs]
  have hlast : v place = false := decide_eq_false (lt_irrefl _)
  constructor
  · have hfront : holdsFrom v true (.group 0 :: joinedWords 1 front) = true := by
      have hzero : v 0 = true := decide_eq_true (by omega)
      have hall : ∀ p < 1 + front.length, v p = true := fun p hp ↦
        decide_eq_true (by simp only [place, List.length_append]; omega)
      rw [holdsFrom, hzero]
      exact holdsFrom_true hall
    have hwords : (Word.group 0 :: joinedWords 1 cs) =
        (.group 0 :: joinedWords 1 front) ++ .between " OR " :: .group (1 + front.length) ::
          joinedWords (1 + front.length + 1) (middle ++ .and :: behind) := by
      rw [joinedWords_append]
      rfl
    rw [hwords, holdsFrom_or, hfront, Bool.true_or]
  · rw [hcs, inTurn_append, inTurn, Conjunction.holds]
    show inTurn v (_ && v place) (place + 1) behind = false
    rw [hlast, Bool.and_false]
    exact inTurn_false (fun p hp ↦ decide_eq_false (by omega)) behind

/-- Reading by precedence is reading group by group exactly if no `AND` comes behind an `OR`. -/
theorem forall_holdsFrom_eq_inTurn_iff (cs : List Conjunction) :
    (∀ v, holdsFrom v true (.group 0 :: joinedWords 1 cs) = inTurn v (v 0) 1 cs) ↔
      cs.Pairwise fun a b ↦ ¬ (a = .or ∧ b = .and) := by
  constructor
  · intro hall
    by_contra hcs
    obtain ⟨front, middle, behind, rfl⟩ := exists_or_and hcs
    obtain ⟨v, hread, hturn⟩ := exists_holdsFrom_ne_inTurn front middle behind
    exact absurd (hread.symm.trans ((hall v).trans hturn)) (by decide)
  · intro hcs v
    exact holdsFrom_joinedWords hcs (v 0) 1

/-! ## Groups behind an `OR` -/

/-- If the groups in front of one that is joined by `OR` are true, everything is, whatever comes
behind them. -/
theorem Reads.holds_of_front {front behind : List Call} {c : Call} {x y : Formula}
    (hx : Reads (groupWords 0 (chain front)) x)
    (hy : Reads (groupWords 0 (chain (front ++ c :: behind))) y) (hfront : front ≠ [])
    (hc : c.join = .or) (h : x.holds v = true) : y.holds v = true := by
  have hwords : groupWords 0 (chain (front ++ c :: behind)) =
      groupWords 0 (chain front) ++ .between " OR " :: .group (1 + (front.tail).length) ::
        joinedWords (1 + front.tail.length + 1) (behind.map Call.join) := by
    rw [groupWords_chain (List.append_ne_nil_of_left_ne_nil hfront _), groupWords_chain hfront,
      List.tail_append_of_ne_nil hfront, List.map_append, joinedWords_append, List.map_cons, hc,
      List.length_map]
    rfl
  rw [hy.holds_eq, hwords, holdsFrom_or, ← hx.holds_eq, h, Bool.true_or]

end Where

/-- The clause that calls of all sorts leave behind is written as its words, which are the groups of
the accepted calls with conditions, in their order, with the text of a conjunction in front of each
but the first. These can be read by precedence, where `AND` binds tighter than `OR`. However they
are read, they have for all truth values of the groups the one that comes from joining each group to
all before it, exactly if no group is joined by `AND` behind one that is joined by `OR`. What comes
behind an `OR` does not keep the groups in front of it from making the clause true. -/
theorem Kind.reads_in_turn_iff (k : Kind) (d : Dialect) (calls : List k.Call) :
    let w := k.filter (k.run (k.new d) calls).value
    let shown := Where.contributing (calls.filterMap k.filterCall?)
    let joins := shown.tail.map Where.Call.join
    w.printer =
      (if shown.isEmpty then .nothing
      else Printer.text "where " ++ .concat (w.words.map (Where.Word.printer shown))) ∧
    (shown ≠ [] → ∃ x, Where.Reads w.words x) ∧
    (∀ x, Where.Reads w.words x →
      ((∀ v, x.holds v = Where.inTurn v (v 0) 1 joins) ↔
        joins.Pairwise fun a b ↦ ¬ (a = .or ∧ b = .and))) ∧
    ∀ front c behind, shown = front ++ c :: behind → front ≠ [] → c.join = .or →
      ∀ x y v, Where.Reads (Where.groupWords 0 (Where.chain front)) x → Where.Reads w.words y →
        x.holds v = true → y.holds v = true := by
  intro w shown joins
  have hgroups : w.groups = Where.chain shown := by
    rw [← Where.groups_foldl, ← filter_new (k := k) d, ← filter_run]
  have hwords : w.words = Where.groupWords 0 (Where.chain shown) := by rw [Where.words, hgroups]
  refine ⟨Where.printer_words hgroups, fun hshown ↦ ?_, fun x hx ↦ ?_, ?_⟩
  · rw [hwords, Where.groupWords_chain hshown]
    exact Where.exists_reads joins
  · have hshown : shown ≠ [] := by
      rintro hnil
      rw [hwords, hnil] at hx
      exact absurd hx.ne_nil (not_not_intro rfl)
    rw [hwords, Where.groupWords_chain hshown] at hx
    simp only [hx.holds_eq]
    exact Where.forall_holdsFrom_eq_inTurn_iff joins
  · intro front c behind hshown hfront hc x y v hx hy
    rw [hwords, hshown] at hy
    exact hx.holds_of_front hy hfront hc

/-- A plain list of conditions behind a group that is joined by `OR`, with a call without conditions
between them. If the first group is true, the clause is true although the last group is not. -/
theorem Kind.reads_in_turn_iff_behind_or :
    let first : Where.Call := .require [.compare .eq "a" "1"]
    let second : Where.Call := .joinGroup .or .and [.compare .eq "b" "2"]
    let third : Where.Call := .require [.compare .eq "c" "3"]
    let calls : List Select.Call := [.filter (.joinGroup .or .or [.compare .eq "d" "4"]),
      .filter first, .select ["id"], .filter second, .filter (.joinGroup .or .and []),
      .filter third]
    let w := select.filter (select.run (select.new default) calls).value
    let v : Nat → Bool := fun place ↦ place = 0
    w.words = [.group 0, .between " OR ", .group 1, .between " AND ", .group 2] ∧
      w.printer = Printer.text "where " ++
        .concat (w.words.map (Where.Word.printer [first, second, third])) ∧
      ∃ x, Where.Reads w.words x ∧ x.holds v = true ∧
        Where.inTurn v (v 0) 1 [.or, .and] = false ∧
        ¬ ∀ v, x.holds v = Where.inTurn v (v 0) 1 [.or, .and] := by
  intro first second third calls w v
  obtain ⟨hprinter, hreads, hiff, hfront⟩ := reads_in_turn_iff select default calls
  obtain ⟨x, hx⟩ := hreads (List.cons_ne_nil _ _)
  have hbefore : Where.Reads (Where.groupWords 0 (Where.chain [first])) (.group 0) :=
    .term (.group 0)
  refine ⟨rfl, hprinter, x, hx, ?_, rfl, fun h ↦ ?_⟩
  · exact hfront [first] second [third] rfl (List.cons_ne_nil _ _) rfl _ x v hbefore hx rfl
  · have hpairwise := (hiff x hx).mp h
    exact List.rel_of_pairwise_cons hpairwise List.mem_cons_self ⟨rfl, rfl⟩

end SqlStatement
