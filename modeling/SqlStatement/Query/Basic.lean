import SqlStatement.Dialect
import SqlStatement.NameMap
import SqlStatement.Query.Words

/-!
# Queries

A query selects columns and sub-queries from tables, under a clause of conditions, and a condition
may hold a sub-query in turn.  So the five types of this module refer to each other, and a query
may be nested to any depth.
-/

namespace SqlStatement

mutual

/-- A condition of a clause. Its field gives its place in a group and is credited for the
parameters of a plain condition. -/
inductive Condition where
  /-- A predicate in raw text. -/
  | plain (field : Name) (predicate : String)
  /-- A comparison of the field with a sub-query. -/
  | sub (field : Name) (operator : Operator) (query : Select)

/-- Conditions in round brackets. -/
structure Group where
  /-- How the group joins the ones before it; the first group of a clause joins none. -/
  join : Option Conjunction
  /-- How the conditions of the group are joined. -/
  inner : Conjunction
  conditions : List Condition

/-- The clause that says which rows a statement concerns. -/
structure Where where
  groups : List Group
  /-- A plain list of conditions, possibly an empty one, has opened the clause for groups. -/
  opened : Bool

/-- What a query selects. -/
inductive SelectItem where
  | column (name : Name)
  /-- A sub-query, with a label if this is not empty. -/
  | sub (query : Select) (label : Name)

/-- A query. -/
structure Select where
  dialect : Dialect
  items : List SelectItem
  /-- The tables by their aliases; the empty alias belongs to a table without one. -/
  tables : NameMap String
  filter : Where
  groups : List Name
  order : List (Name × Direction)
  /-- The greatest number of rows, or 0 if there is no limit. -/
  limit : Nat
  /-- A further column tells the number of all rows. -/
  counted : Bool
  readOnly : Bool

end

/-- The field of a condition. -/
def Condition.field : Condition → Name
  | plain f _ => f
  | sub f .. => f

/-- The clause without conditions, which is not opened. -/
def Where.empty : Where := ⟨[], false⟩

/-- A query that selects nothing yet. -/
def Select.new (d : Dialect) : Select where
  dialect := d
  items := []
  tables := .empty
  filter := .empty
  groups := []
  order := []
  limit := 0
  counted := false
  readOnly := true

/-- The name of a column that is selected; a sub-query has none. -/
def SelectItem.column? : SelectItem → Option Name
  | column n => some n
  | sub .. => none

/-- The selected columns, without the sub-queries. -/
def Select.columns (q : Select) : List Name := q.items.filterMap SelectItem.column?

end SqlStatement
