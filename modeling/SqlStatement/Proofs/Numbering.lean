import Mathlib
import SqlStatement.Proofs.Redirected
import SqlStatement.Query.Condition

/-!
# The numbering of parameters

With its slots left open, the text of a template is a sequence of texts, in which no dialect has a
part.  A built statement is this sequence with the placeholders of the ordinals from 1 on in its
gaps, from left to right (`Kind.build_run_eq_fill`), wherever the parameters are nested.
-/

namespace SqlStatement

/-- A text that is open in some places. -/
structure Gapped where
  /-- The text before the first gap. -/
  first : String
  /-- The texts behind the gaps. -/
  rest : List String

namespace Gapped

/-- The gaps and the texts behind them, the gaps filled with `mark 1`, `mark 2` and so on. -/
def fillRest (mark : Nat → String) : List String → String
  | [] => ""
  | t :: ts => mark 1 ++ t ++ fillRest (fun k ↦ mark (k + 1)) ts

/-- The text whose gaps are filled with `mark 1`, `mark 2` and so on, from left to right. -/
def fill (g : Gapped) (mark : Nat → String) : String := g.first ++ fillRest mark g.rest

/-- The number of gaps. -/
def gaps (g : Gapped) : Nat := g.rest.length

/-- A text in front of a text with gaps. -/
def prepend (s : String) (g : Gapped) : Gapped := ⟨s ++ g.first, g.rest⟩

/-- A gap in front of a text with gaps. -/
def prependGap (g : Gapped) : Gapped := ⟨"", g.first :: g.rest⟩

theorem fill_prepend (s : String) (g : Gapped) (mark : Nat → String) :
    (g.prepend s).fill mark = s ++ g.fill mark := String.append_assoc

/-- The gap in front takes the first mark, and the other gaps take the marks behind it. -/
theorem fill_prependGap (g : Gapped) (mark : Nat → String) :
    g.prependGap.fill mark = mark 1 ++ g.fill fun k ↦ mark (k + 1) := by
  simp [fill, prependGap, fillRest, String.append_assoc]

end Gapped

/-! ## Templates with their slots left open -/

/-- The text of a template with its slots left open. -/
def Template.gapped : Template → Gapped
  | [] => ⟨"", []⟩
  | .text s :: t => (gapped t).prepend s
  | .slot _ :: t => (gapped t).prependGap
  | .field _ :: t | .returned _ :: t | .report _ :: t => gapped t

/-- A dialect renders a template by filling its slots with the placeholders of consecutive
ordinals. -/
theorem Template.render_eq_fill (t : Template) (d : Dialect) (start : Nat) :
    t.render d start = t.gapped.fill fun k ↦ d.placeholder (start + k) := by
  induction t generalizing start with
  | nil => rfl
  | cons x t ih =>
    cases x with
    | text s => simp [render, gapped, Gapped.fill_prepend, ih]
    | slot n => simp [render, gapped, Gapped.fill_prependGap, ih, Nat.add_assoc, Nat.add_comm 1]
    | field n => simp [render, gapped, ih]
    | returned n => simp [render, gapped, ih]
    | report e => simp [render, gapped, ih]

/-- By itself, a template has the placeholders of the ordinals from 1 on. -/
theorem Template.render_zero (t : Template) (d : Dialect) :
    t.render d 0 = t.gapped.fill d.placeholder := by
  have hplaceholder : (fun k ↦ d.placeholder (0 + k)) = d.placeholder := by
    funext k
    rw [Nat.zero_add]
  rw [render_eq_fill, hplaceholder]

/-- There is a gap for every slot. -/
@[simp] theorem Template.gaps_gapped (t : Template) : t.gapped.gaps = t.slots := by
  induction t with
  | nil => rfl
  | cons x t ih =>
    cases x with
    | slot n => simp_all [gapped, Gapped.gaps, Gapped.prependGap, Nat.add_comm]
    | text s => simp_all [gapped, Gapped.gaps, Gapped.prepend]
    | field n => simpa [gapped] using ih
    | returned n => simpa [gapped] using ih
    | report e => simpa [gapped] using ih

/-- Numbered parameters have different placeholders. -/
theorem Dialect.placeholder_injective {d : Dialect} (h : d.numbered = true) :
    Function.Injective d.placeholder := by
  intro i j hij
  have hdigits : Nat.toDigits 10 i = Nat.toDigits 10 j := by
    simp only [placeholder, h, if_true, String.append_right_inj] at hij
    simpa [Nat.toString_eq_ofList_toDigits] using congrArg String.toList hij
  calc
    i = Nat.ofDigitChars 10 (Nat.toDigits 10 i) 0 := Nat.ofDigitChars_ten_toDigits.symm
    _ = Nat.ofDigitChars 10 (Nat.toDigits 10 j) 0 := by rw [hdigits]
    _ = j := Nat.ofDigitChars_ten_toDigits

/-! ## Built statements -/

/-- The builders to which calls lead, one for each dialect, build statements that differ by their
placeholders alone, as long as the engine is the same: on every engine there is one text with gaps,
which are filled with the placeholders of the ordinals from 1 on, and there is one answer in all
other respects. Numbered placeholders are told apart. On different engines the text with gaps
differs only for returning columns and for procedure calls. -/
theorem Kind.build_run_eq_fill (k : Kind) (calls : List k.Call) :
    ∃ (text : Engine → Gapped) (answer : Engine → Info),
      (∀ (e : Engine) (sigil : String) (numbered terminate : Bool),
        let d : Dialect := ⟨e, sigil, numbered⟩
        let info := (k.build (k.run (k.new d) calls).value terminate).value
        info.diagnostic = false →
          info =
            { answer e with
              sql := (text e).fill d.placeholder ++ if terminate then ";" else ""
              paramCount := (text e).gaps }) ∧
      (∀ d : Dialect, d.numbered = true → Function.Injective d.placeholder) ∧
      (∀ d, k ≠ .proc → k.returning (k.run (k.new d) calls).value = [] →
        ∀ e e', text e = text e') ∧
      (k = .proc → text .postgres = text .mysql) := by
  let b := (k.run (k.new default) calls).value
  refine ⟨fun e ↦ (k.template b e).gapped,
    fun e ↦ (k.template b e).info default false (k.readOnly b), ?_, ?_, ?_, ?_⟩
  · intro e sigil numbered terminate d info hinfo
    have hinfo := Kind.build_value_of_not_diagnostic hinfo
    have hb : (k.run (k.new d) calls).value = k.redirected d b := k.run_new_value d default calls
    show (k.build (k.run (k.new d) calls).value terminate).value = _
    rw [hinfo, hb, template_redirected, dialect_redirected, readOnly_redirected, Template.info,
      Template.render_zero, Template.gaps_gapped]
    rfl
  · intro d hd
    exact Dialect.placeholder_injective hd
  · intro d hk hr e e'
    have hb : (k.run (k.new d) calls).value = k.redirected d b := k.run_new_value d default calls
    rw [hb, returning_redirected] at hr
    exact congrArg Template.gapped (Kind.template_engine hk hr e e')
  · rintro rfl
    exact congrArg Template.gapped (Proc.template_postgres b)

/-- A query with a parameter of its own besides one in a sub-query, on two engines. -/
theorem Kind.build_run_eq_fill_nested :
    let calls : List Select.Call :=
      [.select ["id"], .filter (.require [.compare .eq "owner" "?", .compareSub .isIn "branch"
        { Select.new default with
          items := [.column (.ofString "id")]
          filter := ⟨[⟨none, .and, [.between "size" "1" "?"]⟩], true⟩ }])]
    ∃ text : Gapped, text.gaps = 2 ∧ ∀ (sigil : String) (numbered : Bool),
      let d : Dialect := ⟨.postgres, sigil, numbered⟩
      let d' : Dialect := ⟨.mssql, sigil, numbered⟩
      (select.build (select.run (select.new d) calls).value true).value.sql =
          text.fill d.placeholder ++ ";" ∧
        (select.build (select.run (select.new d') calls).value false).value.sql =
          text.fill d'.placeholder ++ "" := by
  intro calls
  obtain ⟨text, answer, hfill, -, hsame, -⟩ := build_run_eq_fill select calls
  have hengines : text .mssql = text .postgres :=
    hsame default (by decide) rfl .mssql .postgres
  refine ⟨text .postgres, ?_, fun sigil numbered ↦ ⟨?_, ?_⟩⟩
  · have hcount := congrArg Info.paramCount (hfill .postgres "$" true false rfl)
    exact hcount.symm.trans (by cbv)
  · exact congrArg Info.sql (hfill .postgres sigil numbered true rfl)
  · have hsql := congrArg Info.sql (hfill .mssql sigil numbered false rfl)
    rw [hengines] at hsql
    exact hsql

end SqlStatement
