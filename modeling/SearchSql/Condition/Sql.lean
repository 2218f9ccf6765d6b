import SearchSql.Condition
import SearchSql.Quoter

/-!
# Conditions as SQL

A condition is written by filling the template of its fragment. Each parameter is quoted
once, by its kind, and what a quoter writes is never taken for a placeholder.
-/

namespace SearchSql

namespace Fragment

/-- A parameter as SQL: plain if the fragment bypasses quoting, as a name or as data by its kind
otherwise. -/
def parameterSql (quoter : Quoter) (fragment : Fragment) (index : Nat) (value : Value) : String :=
  if fragment.bypassesQuoting then value.plain
  else
    match fragment.kinds[index]?.getD .value with
    | .identifier => quoter.quoteIdentifier value.plain
    | .value => quoter.quoteValue value none

/-- A fragment as SQL. Only the placeholders of its template are replaced, and without any
parameter the template is left as it is. -/
def sql (quoter : Quoter) (fragment : Fragment) : String :=
  if fragment.parameters.isEmpty then fragment.template
  else
    Template.fill
      (fun index => (fragment.parameters[index]?).map (fragment.parameterSql quoter index))
      fragment.template

end Fragment

/-- A condition as SQL. -/
def Condition.sql (quoter : Quoter) (condition : Condition) : String :=
  condition.fragment.sql quoter

end SearchSql
