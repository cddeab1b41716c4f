import SqlStatement.Info
import SqlStatement.Stored.Document

/-!
# Stored answers

Whether an answer is a diagnostic is not stored, so an answer that is read back is none.
-/

namespace SqlStatement.Info

/-- The names of the members of a stored answer. -/
def storedFields : List String :=
  ["sql", "fields", "fields_count", "param_fields", "param_count", "returning_fields", "read_only"]

/-- The document in which an answer is stored. -/
def toDocument (i : Info) : Document :=
  .object (storedFields.zip [.text i.sql, .text i.fields, .whole i.fieldsCount, .text i.paramFields,
    .whole i.paramCount, .text i.returningFields, .bool i.readOnly])

/-- The answer that is stored in a document. -/
def ofDocument? (x : Document) : Option Info := do
  let [sql, fields, fieldsCount, paramFields, paramCount, returningFields, readOnly] ←
    x.fields? storedFields | none
  return {
    sql := ← sql.text?
    fields := ← fields.text?
    fieldsCount := ← fieldsCount.count?
    paramFields := ← paramFields.text?
    paramCount := ← paramCount.count?
    returningFields := ← returningFields.text?
    readOnly := ← readOnly.bool?
    diagnostic := false }

end SqlStatement.Info
