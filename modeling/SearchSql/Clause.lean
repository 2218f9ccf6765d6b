import SearchSql.Clause.Conjunction
import SearchSql.Clause.Mapping

/-!
# Clauses

A clause is the content of WHERE or HAVING. It takes input of several shapes, and each
input is taken as a whole or not at all. A script composes a clause step by step; it works on
a copy, which takes the place of the clause only if every step succeeds.
-/

namespace SearchSql

/-- The content of WHERE or HAVING. -/
structure Clause where
  /-- The conditions that have to hold. -/
  conjunction : Conjunction

namespace Clause

/-- No condition. -/
def empty : Clause := ⟨.empty⟩

/-- Whether there is no condition. -/
def isEmpty (clause : Clause) : Bool := clause.conjunction.isEmpty

/-- The number of conditions. -/
def size (clause : Clause) : Nat := clause.conjunction.size

/-- A condition is added at the end. -/
def push (clause : Clause) (condition : Condition) : Clause :=
  ⟨clause.conjunction.push condition⟩

/-- The conditions of a mapping are added at the end in order, once all its entries are known to
be good. -/
def addMapping (clause : Clause) (mapping : Mapping) : Outcome Clause :=
  match mapping.conditions with
  | .ok conditions => ⟨⟨clause.conjunction.append conditions⟩, .ok ()⟩
  | .error e => ⟨clause, .error e⟩

/-- Plain SQL is added at the end. -/
def pushLiteral (clause : Clause) (sql : String) : Clause :=
  clause.push (.literal sql)

/-- A request is made to the conjunction of a clause. -/
def request (clause : Clause) (request : Request) : Outcome Clause :=
  (clause.conjunction.request request).map Clause.mk

/-- A condition that could be built is added at the end; otherwise the clause stays. -/
def pushBuilt (clause : Clause) : Except QueryError Condition → Outcome Clause
  | .ok condition => ⟨clause.push condition, .ok ()⟩
  | .error e => ⟨clause, .error e⟩

/-- A request to the conjunction adds to the clause what the constructor for it builds. -/
theorem request_eq_pushBuilt (clause : Clause) (given : Request) :
    clause.request given = clause.pushBuilt given.build := by
  rw [request, Conjunction.request_eq_pushBuilt]
  cases given.build with
  | ok condition => rfl
  | error e => rfl

/-- The text that follows WHERE or HAVING. -/
def sql (quoter : Quoter) (clause : Clause) : String :=
  clause.conjunction.sql quoter

/-- Clauses are equal when their conditions are. -/
def equals (a b : Clause) : Bool :=
  a.conjunction.equals b.conjunction

/-- The diagnostic text of a clause. -/
def inspect (clause : Clause) : String :=
  "Where \x7b predicates: " ++ clause.conjunction.inspect ++ " \x7d"

end Clause

mutual

/-- What can be added to a clause. -/
inductive Input where
  /-- A clause takes the place of what is there. -/
  | clause (clause : Clause)
  /-- A conjunction takes the place of what is there. -/
  | conjunction (conjunction : Conjunction)
  /-- A condition is added at the end. -/
  | condition (condition : Condition)
  /-- Plain SQL is added as a condition. -/
  | literal (sql : String)
  /-- A mapping is added entry by entry. -/
  | mapping (mapping : Mapping)
  /-- A script is run on a copy. -/
  | script (steps : List Step)

/-- A step of a script. -/
inductive Step where
  /-- Adds input to the clause. -/
  | add (input : Input)
  /-- Asks for a condition. -/
  | request (request : Request)
  /-- Takes a step and ignores its error. -/
  | attempt (step : Step)
  /-- Ends the script with an error of its own. -/
  | fail (error : QueryError)

end

mutual

/-- Adding input to a clause. A script leaves the clause alone if it fails. -/
def Input.addTo : Input → Clause → Outcome Clause
  | .clause other, _ => ⟨other, .ok ()⟩
  | .conjunction other, _ => ⟨⟨other⟩, .ok ()⟩
  | .condition given, current => ⟨current.push given, .ok ()⟩
  | .literal sql, current => ⟨current.pushLiteral sql, .ok ()⟩
  | .mapping given, current => current.addMapping given
  | .script steps, current =>
    match Step.runAll steps current with
    | ⟨scratch, .ok ()⟩ => ⟨scratch, .ok ()⟩
    | ⟨_, .error e⟩ => ⟨current, .error e⟩

/-- Taking one step. -/
def Step.run : Step → Clause → Outcome Clause
  | .add input, current => input.addTo current
  | .request given, current => current.request given
  | .attempt step, current => ⟨(step.run current).state, .ok ()⟩
  | .fail e, current => ⟨current, .error e⟩

/-- Taking steps in order up to the first that fails. -/
def Step.runAll : List Step → Clause → Outcome Clause
  | [], current => ⟨current, .ok ()⟩
  | step :: rest, current =>
    match step.run current with
    | ⟨next, .ok ()⟩ => Step.runAll rest next
    | ⟨left, .error e⟩ => ⟨left, .error e⟩

end

/-- Adding input of any shape to a clause. -/
def Clause.add (clause : Clause) (input : Input) : Outcome Clause :=
  input.addTo clause

/-- The diagnostic text of an input, which does not look into a script. -/
def Input.inspect : Input → String
  | .clause given => "Where(" ++ given.inspect ++ ")"
  | .conjunction given => "Predicates(" ++ given.inspect ++ ")"
  | .condition given => "Node(" ++ given.inspect ++ ")"
  | .literal sql => "Literal(" ++ Text.inspect sql ++ ")"
  | .mapping given => "Mapping(" ++ given.inspect ++ ")"
  | .script _ => "Callback(..)"

end SearchSql
