import SearchSql.Statement.Filter

/-!
# DELETE

A DELETE statement removes the documents that meet its condition, which it has to have.
-/

namespace SearchSql

/-- A DELETE statement. -/
structure Delete where
  /-- The index to remove from. -/
  index : String
  /-- The condition on documents. -/
  filter : Clause
  /-- The first error of the calls so far. -/
  error : Option QueryError

namespace Delete

/-- Removes nothing yet from an index. -/
def new (index : String) : Delete where
  index := index
  filter := .empty
  error := none

/-- The effect of a call: the documents are restricted, or the statement records why not. -/
def apply (delete : Delete) (call : Filter) : Delete :=
  let outcome := call.applyTo delete.filter
  { delete with
    filter := outcome.state
    error := firstError delete.error outcome.result }

/-- The effect of calls in order. -/
def applyAll (delete : Delete) (calls : List Filter) : Delete :=
  calls.foldl apply delete

/-- There is a condition. -/
def validate (delete : Delete) : Except QueryError Unit :=
  if delete.filter.isEmpty then .error (.statement (.noCondition .delete)) else .ok ()

/-- The text of the statement without any check. The keyword WHERE is always written. -/
def sql (quoter : Quoter) (delete : Delete) : String :=
  "DELETE FROM " ++ quoter.quoteIdentifier delete.index ++ " WHERE " ++ delete.filter.sql quoter

/-- The text of the statement if nothing is wrong with it. -/
def toSql (quoter : Quoter) (delete : Delete) : Except QueryError String :=
  finishSql delete.error delete.validate (delete.sql quoter)

end Delete

end SearchSql
