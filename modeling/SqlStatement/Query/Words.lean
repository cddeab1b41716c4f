/-!
# Operators, conjunctions and directions

The closed sets of words of which clauses are made.
-/

namespace SqlStatement

/-- The comparisons. -/
inductive Operator
  | eq
  | notEq
  | lt
  | lte
  | gt
  | gte
  | isIn
  deriving DecidableEq, Repr

/-- The text of a comparison between its two sides. Only `IN` is set off by spaces. -/
def Operator.text : Operator → String
  | eq => "="
  | notEq => "!="
  | lt => "<"
  | lte => "<="
  | gt => ">"
  | gte => ">="
  | isIn => " IN "

/-- The ways to join conditions and groups of them. -/
inductive Conjunction
  | and
  | or
  deriving DecidableEq, Repr

/-- The text between two groups of conditions. -/
def Conjunction.betweenGroups : Conjunction → String
  | and => " AND "
  | or => " OR "

/-- The text between two conditions of one group. -/
def Conjunction.withinGroup : Conjunction → String
  | and => " and "
  | or => " or "

/-- The directions in which rows are ordered. -/
inductive Direction
  | ascending
  | descending
  deriving DecidableEq, Repr

/-- The word for a direction. -/
def Direction.word : Direction → String
  | ascending => "asc"
  | descending => "desc"

end SqlStatement
