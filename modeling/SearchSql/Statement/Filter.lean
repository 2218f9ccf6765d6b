import SearchSql.Clause

/-!
# Filters

Statements that read, change or remove documents share the calls that restrict them. A call
that fails leaves the clause as it was, and the statement keeps the first error of all its
calls.
-/

namespace SearchSql

/-- A call that restricts a statement. -/
inductive Filter where
  /-- Asks for one condition. -/
  | request (request : Request)
  /-- Adds input of any shape. -/
  | input (input : Input)

namespace Filter

/-! ### Calls that add a condition -/

/-- Restricts to a column that equals a value. -/
def eq (column : String) (value : Value) (clause : Clause) : Clause :=
  clause.push (.eq column value)

/-- Restricts to a column that differs from a value. -/
def ne (column : String) (value : Value) (clause : Clause) : Clause :=
  clause.push (.ne column value)

/-- Restricts to a column that is greater than a value. -/
def gt (column : String) (value : Value) (clause : Clause) : Clause :=
  clause.push (.gt column value)

/-- Restricts to a column that is at least a value. -/
def ge (column : String) (value : Value) (clause : Clause) : Clause :=
  clause.push (.ge column value)

/-- Restricts to a column that is less than a value. -/
def lt (column : String) (value : Value) (clause : Clause) : Clause :=
  clause.push (.lt column value)

/-- Restricts to a column that is at most a value. -/
def le (column : String) (value : Value) (clause : Clause) : Clause :=
  clause.push (.le column value)

/-- Restricts to a column between two values. -/
def between (column : String) (low high : Value) (clause : Clause) : Clause :=
  clause.push (.between column low high)

/-- Restricts to a column that has one of the listed values. -/
def isIn (column : String) (values : List Value) (clause : Clause) : Outcome Clause :=
  clause.pushBuilt (Condition.isIn column values)

/-- Restricts to a column that has none of the listed values. -/
def isNotIn (column : String) (values : List Value) (clause : Clause) : Outcome Clause :=
  clause.pushBuilt (Condition.isNotIn column values)

/-- Restricts to what matches a full-text query. -/
def matching (query : String) (clause : Clause) : Clause :=
  clause.push (.matching query)

/-- Restricts by a template whose parameters are all data. -/
def raw (template : String) (parameters : List Value) (clause : Clause) : Outcome Clause :=
  clause.pushBuilt (Condition.ofValues template parameters)

/-- Restricts by plain SQL. -/
def literal (sql : String) (clause : Clause) : Clause :=
  clause.pushLiteral sql

/-- A request is made by the call for it. Without a call the condition is built and added. -/
def make : Request → Clause → Outcome Clause
  | .condition given, clause => ⟨clause.push given, .ok ()⟩
  | .compare column .eq value, clause => ⟨eq column value clause, .ok ()⟩
  | .compare column .ne value, clause => ⟨ne column value clause, .ok ()⟩
  | .compare column .lt value, clause => ⟨lt column value clause, .ok ()⟩
  | .compare column .le value, clause => ⟨le column value clause, .ok ()⟩
  | .compare column .gt value, clause => ⟨gt column value clause, .ok ()⟩
  | .compare column .ge value, clause => ⟨ge column value clause, .ok ()⟩
  | .operator left symbol right, clause =>
    clause.pushBuilt (Condition.operator left symbol right)
  | .operatorWithKinds left symbol right leftKind rightKind, clause =>
    clause.pushBuilt (Condition.operatorWithKinds left symbol right leftKind rightKind)
  | .between column low high, clause => ⟨between column low high clause, .ok ()⟩
  | .member column values, clause => isIn column values clause
  | .notMember column values, clause => isNotIn column values clause
  | .matching query, clause => ⟨matching query clause, .ok ()⟩
  | .raw template parameters, clause => raw template parameters clause
  | .rawWithKinds template parameters kinds, clause =>
    clause.pushBuilt (Condition.ofNamedKinds template parameters kinds)
  | .literal sql, clause => ⟨literal sql clause, .ok ()⟩
  | .extension own, clause => ⟨clause.push (.extension own), .ok ()⟩

/-- Each call adds what the constructor for its request builds. -/
theorem make_eq_pushBuilt (given : Request) (clause : Clause) :
    make given clause = clause.pushBuilt given.build := by
  cases given with
  | compare column comparison value => cases comparison <;> rfl
  | _ => rfl

/-- A call does to a clause what the method of its conjunction does. -/
theorem make_eq_request (given : Request) (clause : Clause) :
    make given clause = clause.request given := by
  rw [make_eq_pushBuilt, Clause.request_eq_pushBuilt]

/-- The effect of a call on a clause. -/
def applyTo (filter : Filter) (clause : Clause) : Outcome Clause :=
  match filter with
  | .request given => make given clause
  | .input given => clause.add given

end Filter

/-- The first error stays; without one, the error of a result is taken. -/
def firstError (recorded : Option QueryError) (result : Except QueryError Unit) :
    Option QueryError :=
  match recorded, result with
  | some e, _ => some e
  | none, .ok () => none
  | none, .error e => some e

/-- The text of a statement: a recorded error comes before one found by checking it, and either
comes before the text. -/
def finishSql (recorded : Option QueryError) (checked : Except QueryError Unit) (sql : String) :
    Except QueryError String :=
  match recorded, checked with
  | some e, _ => .error e
  | none, .error e => .error e
  | none, .ok () => .ok sql

/-- A clause after its keyword, or nothing if it has no condition. -/
def Clause.sqlAfter (keyword : String) (quoter : Quoter) (clause : Clause) : String :=
  if clause.isEmpty then "" else keyword ++ clause.sql quoter

end SearchSql
