import SqlStatement.InList
import SqlStatement.Query.Basic

/-!
# Making conditions

Each way to make a condition names its field and writes its predicate.  The field is trimmed, the
predicate is not.
-/

namespace SqlStatement.Condition

/-- A predicate in raw text. -/
def raw (field predicate : String) : Condition := plain (.ofString field) predicate

/-- A comparison of two texts, credited to the first. -/
def compare (operator : Operator) (left right : String) : Condition :=
  raw left (left ++ operator.text ++ right)

/-- A comparison of a column with a sub-query. -/
def compareSub (operator : Operator) (column : String) (query : Select) : Condition :=
  sub (.ofString column) operator query

/-- A column lies between two bounds. -/
def between (column low high : String) : Condition :=
  raw column (column ++ " between " ++ low ++ " and " ++ high)

/-- A column has one of some values. -/
def oneOf (form : InList.Form) (column : String) (values : InList) : Condition :=
  raw column (values.render form column)

end SqlStatement.Condition
