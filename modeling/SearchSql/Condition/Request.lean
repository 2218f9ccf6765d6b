import SearchSql.Condition

/-!
# Requests for conditions

A request is what a caller asks for before it is checked: comparisons and kinds by name,
lists that may be empty, templates that may not fit their parameters. A condition has a
constructor for each request, which gives the condition or the first thing wrong with it.
Conjunctions and statements have methods of their own for requests.
-/

namespace SearchSql

/-- A request for a condition. -/
inductive Request where
  /-- A condition that needs no check. -/
  | condition (condition : Condition)
  /-- A comparison of a column with a value. There is a method for each of the six. -/
  | compare (column : String) (comparison : Comparison) (value : Value)
  /-- A comparison by symbol, of a name on the left with data on the right. -/
  | operator (left : Value) (symbol : String) (right : Value)
  /-- A comparison by symbol with the kinds of both sides by name. -/
  | operatorWithKinds (left : Value) (symbol : String) (right : Value)
      (leftKind rightKind : String)
  /-- A range of a column. -/
  | between (column : String) (low high : Value)
  /-- Membership of a column in a list. -/
  | member (column : String) (values : List Value)
  /-- Absence of a column from a list. -/
  | notMember (column : String) (values : List Value)
  /-- A full-text query, perhaps in quotes. -/
  | matching (query : String)
  /-- A template whose parameters are all data. -/
  | raw (template : String) (parameters : List Value)
  /-- A template with the kind of each parameter by name. -/
  | rawWithKinds (template : String) (parameters : List Value) (kinds : List String)
  /-- Plain SQL. -/
  | literal (sql : String)
  /-- A condition of a caller's own. -/
  | extension (extension : Extension)

namespace Condition

/-- A comparison whose operator and kinds are given by name, checked in this order. -/
def operatorWithKinds (left : Value) (symbol : String) (right : Value)
    (leftKind rightKind : String) : Except QueryError Condition := do
  let operator ← Comparison.parse symbol
  let leftKind ← Kind.parse leftKind
  let rightKind ← Kind.parse rightKind
  return .comparison left operator right leftKind rightKind

/-- A comparison whose operator is given by name, of a name with data. -/
def operator (left : Value) (symbol : String) (right : Value) : Except QueryError Condition := do
  let operator ← Comparison.parse symbol
  return .comparison left operator right .identifier .value

/-- Membership in a list that has to have an element. -/
def isIn (column : String) (values : List Value) : Except QueryError Condition :=
  if values.isEmpty then .error (.argument (.emptyList "IN" column))
  else .ok (.member column values)

/-- Absence from a list that has to have an element. -/
def isNotIn (column : String) (values : List Value) : Except QueryError Condition :=
  if values.isEmpty then .error (.argument (.emptyList "NOT IN" column))
  else .ok (.notMember column values)

/-- A list makes the condition on it exactly when it is not empty. -/
theorem isIn_eq_ok_iff {column : String} {values : List Value} {condition : Condition} :
    isIn column values = .ok condition ↔ values ≠ [] ∧ condition = .member column values := by
  unfold isIn
  cases values with
  | nil => simp
  | cons value values => simp [eq_comm]

/-- A list makes the condition on its absence exactly when it is not empty. -/
theorem isNotIn_eq_ok_iff {column : String} {values : List Value} {condition : Condition} :
    isNotIn column values = .ok condition ↔ values ≠ [] ∧ condition = .notMember column values := by
  unfold isNotIn
  cases values with
  | nil => simp
  | cons value values => simp [eq_comm]

/-- A template whose parameters and kinds have to fit it. -/
def ofTemplate (template : String) (parameters : List Value) (kinds : List Kind) :
    Except QueryError Condition := do
  let fragment ← Fragment.make template parameters kinds
  return .raw fragment.template fragment.parameters fragment.kinds

/-- A template whose parameters are all data. -/
def ofValues (template : String) (parameters : List Value) : Except QueryError Condition :=
  ofTemplate template parameters (parameters.map fun _ => .value)

/-- A template with kinds by name. All names are read before anything is counted. -/
def ofNamedKinds (template : String) (parameters : List Value) (kinds : List String) :
    Except QueryError Condition := do
  let kinds ← kinds.mapM Kind.parse
  ofTemplate template parameters kinds

end Condition

/-- The fragment of a caller's own condition, with kinds by name, which are read first. -/
def Fragment.ofNamedKinds (template : String) (parameters : List Value) (kinds : List String) :
    Except QueryError Fragment := do
  let kinds ← kinds.mapM Kind.parse
  Fragment.make template parameters kinds

/-- The condition that a request asks for, or the first thing wrong with it, as the constructor for
the request has it. -/
def Request.build : Request → Except QueryError Condition
  | .condition given => .ok given
  | .compare column .eq value => .ok (.eq column value)
  | .compare column .ne value => .ok (.ne column value)
  | .compare column .lt value => .ok (.lt column value)
  | .compare column .le value => .ok (.le column value)
  | .compare column .gt value => .ok (.gt column value)
  | .compare column .ge value => .ok (.ge column value)
  | .operator left symbol right => Condition.operator left symbol right
  | .operatorWithKinds left symbol right leftKind rightKind =>
    Condition.operatorWithKinds left symbol right leftKind rightKind
  | .between column low high => .ok (.between column low high)
  | .member column values => Condition.isIn column values
  | .notMember column values => Condition.isNotIn column values
  | .matching query => .ok (.matching query)
  | .raw template parameters => Condition.ofValues template parameters
  | .rawWithKinds template parameters kinds => Condition.ofNamedKinds template parameters kinds
  | .literal sql => .ok (.literal sql)
  | .extension own => .ok (.extension own)

/-- The six constructors of comparisons differ in the comparison alone. -/
theorem Request.build_compare (column : String) (comparison : Comparison) (value : Value) :
    (Request.compare column comparison value).build =
      .ok (Condition.compare column comparison value) := by
  cases comparison <;> rfl

end SearchSql
