import SearchSql.Statement.Delete
import SearchSql.Statement.Insert
import SearchSql.Statement.Select
import SearchSql.Statement.Update

/-!
# Statements

The statements of all kinds share what a caller asks of them: their keyword, their text with
and without checks, and what is wrong with them.
-/

namespace SearchSql

/-- A statement of any kind. -/
inductive Statement where
  /-- A SELECT statement. -/
  | select (statement : Select)
  /-- An INSERT or REPLACE statement. -/
  | insert (statement : Insert)
  /-- An UPDATE statement. -/
  | update (statement : Update)
  /-- A DELETE statement. -/
  | delete (statement : Delete)

namespace Statement

/-- The keyword of a statement. -/
def keyword : Statement → Keyword
  | .select _ => .select
  | .insert given => given.keyword
  | .update _ => .update
  | .delete _ => .delete

/-- The text of a statement without any check. -/
def sql (quoter : Quoter) : Statement → String
  | .select given => given.sql quoter
  | .insert given => given.sql quoter
  | .update given => given.sql quoter
  | .delete given => given.sql quoter

/-- What is wrong with a statement as it stands. -/
def validate : Statement → Except QueryError Unit
  | .select given => given.validate
  | .insert given => given.validate
  | .update given => given.validate
  | .delete given => given.validate

/-- The first error of the calls that put a statement together. -/
def error : Statement → Option QueryError
  | .select given => given.error
  | .insert given => given.error
  | .update given => given.error
  | .delete given => given.error

/-- The text of a statement if nothing is wrong with it. -/
def toSql (quoter : Quoter) (statement : Statement) : Except QueryError String :=
  finishSql statement.error statement.validate (statement.sql quoter)

end Statement

end SearchSql
