import SearchSql.Error
import SearchSql.Text.Blank

/-!
# Parameter kinds and comparisons

The kind of a parameter says whether it stands for a name or for data. A comparison is one
of six operators between two parameters. Both can be given by name.
-/

namespace SearchSql

/-- What a parameter stands for. -/
inductive Kind where
  /-- The name of an index, a field or an attribute. -/
  | identifier
  /-- A piece of data. -/
  | value
deriving DecidableEq

namespace Kind

/-- The name of a kind as diagnostics show it. -/
def inspect : Kind → String
  | .identifier => "Identifier"
  | .value => "Value"

/-- Kinds are given by exact names, of which identifiers have two. -/
def parse (name : String) : Except QueryError Kind :=
  if name = "identifier" || name = "ident" then .ok .identifier
  else if name = "value" then .ok .value
  else .error (.argument (.unknownKind name))

end Kind

/-- A comparison between two parameters. -/
inductive Comparison where
  /-- Both are equal. -/
  | eq
  /-- They differ. -/
  | ne
  /-- The left one is smaller. -/
  | lt
  /-- The left one is smaller or equal. -/
  | le
  /-- The left one is larger. -/
  | gt
  /-- The left one is larger or equal. -/
  | ge
deriving DecidableEq

namespace Comparison

/-- All comparisons. -/
def all : List Comparison := [.eq, .ne, .lt, .le, .gt, .ge]

/-- The symbol of a comparison. -/
def symbol : Comparison → String
  | .eq => "="
  | .ne => "!="
  | .lt => "<"
  | .le => "<="
  | .gt => ">"
  | .ge => ">="

/-- Comparisons are given by their symbol, with any blanks around it. -/
def parse (text : String) : Except QueryError Comparison :=
  let symbol := Text.trim text
  match all.find? fun comparison => comparison.symbol == symbol with
  | some comparison => .ok comparison
  | none => .error (.argument (.unknownComparison symbol))

/-- Each comparison is read back from its symbol. -/
theorem parse_symbol (comparison : Comparison) : parse comparison.symbol = .ok comparison := by
  cases comparison <;> rfl

end Comparison

end SearchSql
