import SearchSql.Clause.Outcome
import SearchSql.Condition.Request
import SearchSql.Condition.Sql

/-!
# Conjunctions

A conjunction is a list of conditions that have to hold together. Conditions are only ever
added, at the end. As SQL the conditions stand in order with AND between them.
-/

namespace SearchSql

/-- Conditions that have to hold together. -/
structure Conjunction where
  /-- The conditions in the order in which they were added. -/
  conditions : List Condition

namespace Conjunction

/-- No condition. -/
def empty : Conjunction := ⟨[]⟩

/-- Whether there is no condition. -/
def isEmpty (conjunction : Conjunction) : Bool :=
  conjunction.conditions.isEmpty

/-- The number of conditions. -/
def size (conjunction : Conjunction) : Nat :=
  conjunction.conditions.length

/-- A condition is added at the end. -/
def push (conjunction : Conjunction) (condition : Condition) : Conjunction :=
  ⟨conjunction.conditions ++ [condition]⟩

/-- Several conditions are added at the end in their order. -/
def append (conjunction : Conjunction) (conditions : List Condition) : Conjunction :=
  ⟨conjunction.conditions ++ conditions⟩

/-- Pushing puts the condition after those present. -/
@[simp] theorem conditions_push (conjunction : Conjunction) (condition : Condition) :
    (conjunction.push condition).conditions = conjunction.conditions ++ [condition] := rfl

/-- Appending puts the conditions after those present. -/
@[simp] theorem conditions_append (conjunction : Conjunction) (conditions : List Condition) :
    (conjunction.append conditions).conditions = conjunction.conditions ++ conditions := rfl

/-- A condition that could be built is added at the end; otherwise the conjunction stays. -/
def pushBuilt (conjunction : Conjunction) : Except QueryError Condition → Outcome Conjunction
  | .ok condition => ⟨conjunction.push condition, .ok ()⟩
  | .error e => ⟨conjunction, .error e⟩

/-! ### Methods that add a condition -/

/-- Adds that a column equals a value. -/
def equalTo (conjunction : Conjunction) (column : String) (value : Value) : Conjunction :=
  conjunction.push (.eq column value)

/-- Adds that a column differs from a value. -/
def notEqualTo (conjunction : Conjunction) (column : String) (value : Value) : Conjunction :=
  conjunction.push (.ne column value)

/-- Adds that a column is less than a value. -/
def lessThan (conjunction : Conjunction) (column : String) (value : Value) : Conjunction :=
  conjunction.push (.lt column value)

/-- Adds that a column is greater than a value. -/
def greaterThan (conjunction : Conjunction) (column : String) (value : Value) : Conjunction :=
  conjunction.push (.gt column value)

/-- Adds that a column is at most a value. -/
def lessThanOrEqualTo (conjunction : Conjunction) (column : String) (value : Value) : Conjunction :=
  conjunction.push (.le column value)

/-- Adds that a column is at least a value. -/
def greaterThanOrEqualTo (conjunction : Conjunction) (column : String) (value : Value) :
    Conjunction :=
  conjunction.push (.ge column value)

/-- Adds a comparison whose operator is given by name. -/
def operator (conjunction : Conjunction) (left : Value) (symbol : String) (right : Value) :
    Outcome Conjunction :=
  conjunction.pushBuilt (Condition.operator left symbol right)

/-- Adds that a column lies between two values. -/
def between (conjunction : Conjunction) (column : String) (low high : Value) : Conjunction :=
  conjunction.push (.between column low high)

/-- Adds that a column has one of the listed values. -/
def isIn (conjunction : Conjunction) (column : String) (values : List Value) :
    Outcome Conjunction :=
  conjunction.pushBuilt (Condition.isIn column values)

/-- Adds that a column has none of the listed values. -/
def isNotIn (conjunction : Conjunction) (column : String) (values : List Value) :
    Outcome Conjunction :=
  conjunction.pushBuilt (Condition.isNotIn column values)

/-- Adds a full-text query. -/
def matching (conjunction : Conjunction) (query : String) : Conjunction :=
  conjunction.push (.matching query)

/-- Adds a template whose parameters are all data. -/
def raw (conjunction : Conjunction) (template : String) (parameters : List Value) :
    Outcome Conjunction :=
  conjunction.pushBuilt (Condition.ofValues template parameters)

/-- Adds a template with the kind of each parameter by name. -/
def rawWithKinds (conjunction : Conjunction) (template : String) (parameters : List Value)
    (kinds : List String) : Outcome Conjunction :=
  conjunction.pushBuilt (Condition.ofNamedKinds template parameters kinds)

/-- Adds plain SQL. -/
def literal (conjunction : Conjunction) (sql : String) : Conjunction :=
  conjunction.push (.literal sql)

/-- Adds a condition of a caller's own. -/
def extension (conjunction : Conjunction) (own : Extension) : Conjunction :=
  conjunction.push (.extension own)

/-- A request is made by the method for it. Without a method the condition is built and added. -/
def request (conjunction : Conjunction) : Request → Outcome Conjunction
  | .condition given => ⟨conjunction.push given, .ok ()⟩
  | .compare column .eq value => ⟨conjunction.equalTo column value, .ok ()⟩
  | .compare column .ne value => ⟨conjunction.notEqualTo column value, .ok ()⟩
  | .compare column .lt value => ⟨conjunction.lessThan column value, .ok ()⟩
  | .compare column .le value => ⟨conjunction.lessThanOrEqualTo column value, .ok ()⟩
  | .compare column .gt value => ⟨conjunction.greaterThan column value, .ok ()⟩
  | .compare column .ge value => ⟨conjunction.greaterThanOrEqualTo column value, .ok ()⟩
  | .operator left symbol right => conjunction.operator left symbol right
  | .operatorWithKinds left symbol right leftKind rightKind =>
    conjunction.pushBuilt (Condition.operatorWithKinds left symbol right leftKind rightKind)
  | .between column low high => ⟨conjunction.between column low high, .ok ()⟩
  | .member column values => conjunction.isIn column values
  | .notMember column values => conjunction.isNotIn column values
  | .matching query => ⟨conjunction.matching query, .ok ()⟩
  | .raw template parameters => conjunction.raw template parameters
  | .rawWithKinds template parameters kinds => conjunction.rawWithKinds template parameters kinds
  | .literal sql => ⟨conjunction.literal sql, .ok ()⟩
  | .extension own => ⟨conjunction.extension own, .ok ()⟩

/-- Each method adds what the constructor for its request builds. -/
theorem request_eq_pushBuilt (conjunction : Conjunction) (given : Request) :
    conjunction.request given = conjunction.pushBuilt given.build := by
  cases given with
  | compare column comparison value => cases comparison <;> rfl
  | _ => rfl

/-- The text between neighbouring conditions. -/
def separator : String := " AND "

/-- A conjunction as SQL, which is empty if it has no condition. -/
def sql (quoter : Quoter) (conjunction : Conjunction) : String :=
  separator.intercalate (conjunction.conditions.map (Condition.sql quoter))

/-- A clause of several conditions is the first one, an AND, and the clause of the others. -/
theorem toList_sql_cons (quoter : Quoter) (condition next : Condition)
    (conditions : List Condition) :
    (Conjunction.sql quoter ⟨condition :: next :: conditions⟩).toList =
      (condition.sql quoter).toList ++
        (" AND ".toList ++ (Conjunction.sql quoter ⟨next :: conditions⟩).toList) := by
  simp [Conjunction.sql, separator, String.toList_intercalate]

/-- Lists of conditions are equal element by element. -/
def conditionsEqual : List Condition → List Condition → Bool
  | [], [] => true
  | a :: as, b :: bs => a.equals b && conditionsEqual as bs
  | _, _ => false

/-- Conjunctions are equal when their conditions are, in order. -/
def equals (a b : Conjunction) : Bool :=
  conditionsEqual a.conditions b.conditions

/-- The diagnostic text of a conjunction. -/
def inspect (conjunction : Conjunction) : String :=
  "PredicateSet \x7b predicates: [" ++
    ", ".intercalate (conjunction.conditions.map Condition.inspect) ++ "] \x7d"

end Conjunction

end SearchSql
