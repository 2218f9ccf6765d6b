import SearchSql.Condition.Fragment

/-!
# Conditions

A condition is a node of a WHERE or HAVING clause. The forms that a search statement knows
have their own constructors; any other condition is given by its fragment, under an
identity that copies share.
-/

namespace SearchSql

/-- A condition of a caller's own, described by a fragment. -/
structure Extension where
  /-- What tells two extensions apart. Copies of one extension share it. -/
  id : Nat
  /-- What diagnostics show for it. -/
  label : String
  /-- The fragment that it stands for. -/
  fragment : Fragment

/-- The forms of condition. -/
inductive Form where
  /-- A template with parameters. -/
  | raw
  /-- A comparison. -/
  | comparison
  /-- A range. -/
  | between
  /-- Membership in a list. -/
  | member
  /-- Absence from a list. -/
  | notMember
  /-- A full-text query. -/
  | fullText
  /-- Plain SQL. -/
  | literal
  /-- A condition of a caller's own. -/
  | extension
deriving DecidableEq

/-- The name of a form as diagnostics show it. -/
def Form.inspect : Form → String
  | .raw => "Raw"
  | .comparison => "Operator"
  | .between => "Between"
  | .member => "In"
  | .notMember => "NotIn"
  | .fullText => "Match"
  | .literal => "Literal"
  | .extension => "Custom"

/-- A condition on documents. -/
inductive Condition where
  /-- A template with parameters of the given kinds. -/
  | raw (template : String) (parameters : List Value) (kinds : List Kind)
  /-- A comparison between two parameters of the given kinds. -/
  | comparison (left : Value) (operator : Comparison) (right : Value)
      (leftKind rightKind : Kind)
  /-- A column lies between two values. -/
  | between (column : String) (low high : Value)
  /-- A column has one of the listed values. -/
  | member (column : String) (values : List Value)
  /-- A column has none of the listed values. -/
  | notMember (column : String) (values : List Value)
  /-- A document matches a full-text query, which is written as it is. -/
  | fullText (query : String)
  /-- Plain SQL. -/
  | literal (sql : String)
  /-- A condition of a caller's own. -/
  | extension (extension : Extension)

namespace Condition

/-- The form of a condition. -/
def form : Condition → Form
  | .raw .. => .raw
  | .comparison .. => .comparison
  | .between .. => .between
  | .member .. => .member
  | .notMember .. => .notMember
  | .fullText _ => .fullText
  | .literal _ => .literal
  | .extension _ => .extension

/-- The fragment that a condition stands for. -/
def fragment : Condition → Fragment
  | .raw template parameters kinds => ⟨template, parameters, kinds, false⟩
  | .comparison left operator right leftKind rightKind =>
    ⟨"? " ++ operator.symbol ++ " ?", [left, right], [leftKind, rightKind], false⟩
  | .between column low high =>
    ⟨"? BETWEEN ? AND ?", [.text column, low, high], [.identifier, .value, .value], false⟩
  | .member column values =>
    ⟨"? IN ?", [.text column, .list values], [.identifier, .value], false⟩
  | .notMember column values =>
    ⟨"? NOT IN ?", [.text column, .list values], [.identifier, .value], false⟩
  | .fullText query => ⟨"MATCH('?')", [.text query], [.value], true⟩
  | .literal sql => Fragment.literal sql
  | .extension own => own.fragment

/-- A column compared with a value. -/
def compare (column : String) (operator : Comparison) (value : Value) : Condition :=
  .comparison (.text column) operator value .identifier .value

/-- A column equals a value. -/
def eq (column : String) (value : Value) : Condition := compare column .eq value

/-- A column differs from a value. -/
def ne (column : String) (value : Value) : Condition := compare column .ne value

/-- A column is less than a value. -/
def lt (column : String) (value : Value) : Condition := compare column .lt value

/-- A column is at most a value. -/
def le (column : String) (value : Value) : Condition := compare column .le value

/-- A column is greater than a value. -/
def gt (column : String) (value : Value) : Condition := compare column .gt value

/-- A column is at least a value. -/
def ge (column : String) (value : Value) : Condition := compare column .ge value

/-- The text inside one pair of enclosing quotes, unless the text inside has a quote itself. -/
def stripQuotes (query : List Char) : List Char :=
  match query with
  | '\'' :: rest =>
    match rest.reverse with
    | '\'' :: inner => if inner.contains '\'' then query else inner.reverse
    | _ => query
  | _ => query

/-- A full-text query given with or without enclosing quotes. -/
def matching (query : String) : Condition :=
  .fullText (String.ofList (stripQuotes query.toList))

/-- Conditions of callers are equal when they are copies of one another; other conditions when
their form and fragment agree. -/
def equals : Condition → Condition → Bool
  | .extension a, .extension b => a.id == b.id
  | .extension _, _ => false
  | _, .extension _ => false
  | a, b => a.form == b.form && a.fragment.equals b.fragment

/-- The diagnostic text of a condition. -/
def inspect : Condition → String
  | .extension own => "Expression::Custom(" ++ own.label ++ ")"
  | condition =>
    "Expression \x7b kind: " ++ condition.form.inspect ++
      ", template: " ++ Text.inspect condition.fragment.template ++
      ", parameters: [" ++ ", ".intercalate (Value.inspectItems condition.fragment.parameters) ++
      "], kinds: [" ++ ", ".intercalate (condition.fragment.kinds.map Kind.inspect) ++ "] \x7d"

end Condition

end SearchSql
