import SearchSql.Error

/-!
# Outcomes

An operation that changes something and can fail has an outcome: what it leaves, and whether
it succeeded. Whether a failure leaves things as they were is a property of the operation.
-/

namespace SearchSql

/-- What is left after an operation that can fail, together with its result. An operation that
fails may leave something behind. -/
structure Outcome (σ : Type) where
  /-- What is left. -/
  state : σ
  /-- Whether the operation succeeded. -/
  result : Except QueryError Unit

/-- What is left, seen as part of something larger. -/
def Outcome.map {σ τ : Type} (f : σ → τ) (outcome : Outcome σ) : Outcome τ :=
  ⟨f outcome.state, outcome.result⟩

end SearchSql
