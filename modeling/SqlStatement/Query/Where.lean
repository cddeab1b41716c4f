import SqlStatement.Query.Basic

/-!
# Adding conditions to a clause

A plain list of conditions becomes a group of its own that joins the clause by `AND`.  After the
first such list, even an empty one, groups may join the clause in other ways; before it they are
refused. An empty group is never added, and the first group that is added joins nothing.
-/

namespace SqlStatement.Where

/-- Adds a group at the end, unless it is empty. -/
def push (w : Where) (join inner : Conjunction) (conditions : List Condition) : Where :=
  if conditions.isEmpty then w
  else { w with
    groups := w.groups ++ [⟨if w.groups.isEmpty then none else some join, inner, conditions⟩] }

/-- Adds conditions all of which must hold, and opens the clause. -/
def require (w : Where) (conditions : List Condition) : Where :=
  { w.push .and .and conditions with opened := true }

/-- Adds a group to a clause that is open. -/
def joinGroup (w : Where) (join inner : Conjunction) (conditions : List Condition) :
    Except Error Where :=
  if w.opened then .ok (w.push join inner conditions) else .error .missingWhere

/-- The calls that add to a clause. -/
inductive Call
  | require (conditions : List Condition)
  | joinGroup (join inner : Conjunction) (conditions : List Condition)

/-- The clause after a call. -/
def apply (w : Where) : Call → Except Error Where
  | .require conditions => .ok (w.require conditions)
  | .joinGroup join inner conditions => w.joinGroup join inner conditions

end SqlStatement.Where
