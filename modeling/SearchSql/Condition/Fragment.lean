import SearchSql.Condition.Kind
import SearchSql.Template

/-!
# SQL fragments

Every condition comes down to a fragment: a template, one parameter for each placeholder,
and the kind of each parameter. A fragment without parameters is plain SQL, and its
question marks are no placeholders.
-/

namespace SearchSql

/-- A template with its parameters. -/
structure Fragment where
  /-- The SQL text with a placeholder for each parameter. -/
  template : String
  /-- The parameters in the order of their placeholders. -/
  parameters : List Value
  /-- The kind of each parameter. -/
  kinds : List Kind
  /-- Whether parameters are written as plain text instead of being quoted. -/
  bypassesQuoting : Bool

namespace Fragment

/-- Plain SQL without parameters. -/
def literal (sql : String) : Fragment := ⟨sql, [], [], false⟩

/-- A fragment is accepted when there are as many placeholders as parameters and as many kinds;
the placeholders are checked first. -/
def make (template : String) (parameters : List Value) (kinds : List Kind) :
    Except QueryError Fragment :=
  if Template.count template ≠ parameters.length then
    .error (.argument
      (.placeholderCount template (Template.count template) parameters.length))
  else if kinds.length ≠ parameters.length then
    .error (.argument (.kindCount template parameters.length kinds.length))
  else .ok ⟨template, parameters, kinds, false⟩

/-- A fragment is made exactly when its parts fit. -/
theorem make_eq_ok_iff {template : String} {parameters : List Value} {kinds : List Kind}
    {fragment : Fragment} :
    make template parameters kinds = .ok fragment ↔
      Template.count template = parameters.length ∧ kinds.length = parameters.length ∧
        fragment = ⟨template, parameters, kinds, false⟩ := by
  unfold make
  by_cases hcount : Template.count template = parameters.length
  · by_cases hkinds : kinds.length = parameters.length
    · simp [hcount, hkinds, eq_comm]
    · simp [hcount, hkinds]
  · simp [hcount]

/-- The same fragment with its parameters written as plain text. The caller escapes them. -/
def bypassingQuotes (fragment : Fragment) : Fragment :=
  { fragment with bypassesQuoting := true }

/-- Fragments are equal when all their parts are. -/
def equals (a b : Fragment) : Bool :=
  a.template == b.template && Value.itemsEqual a.parameters b.parameters &&
    a.kinds == b.kinds && a.bypassesQuoting == b.bypassesQuoting

end Fragment

end SearchSql
