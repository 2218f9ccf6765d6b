import SearchSql.Condition.Sql

/-!
# What filling a template writes

Filling is defined as a scan that carries its output along. Here it is given as a function of
the template alone, and for each form of condition as the text that its template stands for.
-/

namespace SearchSql

namespace Template

/-- The characters of a template with its placeholders filled, the first of them numbered
`index`. -/
def filled (texts : Nat → Option String) : List Char → Nat → List Char
  | [], _ => []
  | c :: rest, index =>
    if c = placeholder then
      (Filling.ofOption (texts index)).text.toList ++ filled texts rest (index + 1)
    else c :: filled texts rest index

/-- Scanning leaves the output as it is and adds the filled rest of the template to it. -/
theorem toList_fillChars (texts : Nat → Option String) (cs : List Char) (index : Nat)
    (output : String) :
    (Id.run (fillChars (fun i _ => pure (Filling.ofOption (texts i))) cs index output)).toList =
      output.toList ++ filled texts cs index := by
  induction cs generalizing index output with
  | nil => simp [fillChars, filled]
  | cons c rest ih =>
    simp only [fillChars, filled]
    by_cases hc : c = placeholder
    · rw [if_pos hc, if_pos hc, pure_bind, ih, String.toList_append, List.append_assoc]
    · rw [if_neg hc, if_neg hc, ih, String.toList_push, List.append_assoc, List.singleton_append]

/-- A filled template, as a function of its characters. -/
theorem toList_fill (texts : Nat → Option String) (template : String) :
    (fill texts template).toList = filled texts template.toList 0 := by
  unfold fill fillAfter fillOnto
  rw [toList_fillChars, String.toList_empty, List.nil_append]

end Template

/-- A fragment with parameters is its template, filled with the parameters as SQL. -/
theorem Fragment.toList_sql (quoter : Quoter) {fragment : Fragment}
    (hparameters : fragment.parameters ≠ []) :
    (fragment.sql quoter).toList =
      Template.filled
        (fun index => (fragment.parameters[index]?).map (fragment.parameterSql quoter index))
        fragment.template.toList 0 := by
  have hne : ¬fragment.parameters.isEmpty = true := by
    rwa [List.isEmpty_iff]
  unfold Fragment.sql
  rw [if_neg hne, Template.toList_fill]

/-- A parameter of a kind as SQL: names and data are quoted in different ways. -/
def Kind.quote (quoter : Quoter) : Kind → Value → String
  | .identifier, parameter => quoter.quoteIdentifier parameter.plain
  | .value, parameter => quoter.quoteValue parameter none

namespace Condition

variable (quoter : Quoter)

/-- A comparison is its two sides, each quoted by its kind, with the operator between two spaces. -/
theorem sql_comparison (left : Value) (operator : Comparison) (right : Value)
    (leftKind rightKind : Kind) :
    (comparison left operator right leftKind rightKind).sql quoter =
      leftKind.quote quoter left ++ " " ++ operator.symbol ++ " " ++
        rightKind.quote quoter right := by
  apply String.toList_inj.mp
  rw [Condition.sql, Fragment.toList_sql quoter (by simp [fragment])]
  cases operator <;> cases leftKind <;> cases rightKind <;>
    simp [fragment, Template.filled, Template.placeholder, Template.Filling.ofOption,
      Template.Filling.text, Fragment.parameterSql, Comparison.symbol, Kind.quote]

/-- A range is the name and its two ends, with an AND between them. -/
theorem sql_between (column : String) (low high : Value) :
    (between column low high).sql quoter =
      quoter.quoteIdentifier column ++ " BETWEEN " ++ quoter.quoteValue low none ++ " AND " ++
        quoter.quoteValue high none := by
  apply String.toList_inj.mp
  rw [Condition.sql, Fragment.toList_sql quoter (by simp [fragment])]
  simp [fragment, Template.filled, Template.placeholder, Template.Filling.ofOption,
    Template.Filling.text, Fragment.parameterSql, Value.plain]

/-- Membership is the name and the list of values, quoted as one value. -/
theorem sql_member (column : String) (values : List Value) :
    (member column values).sql quoter =
      quoter.quoteIdentifier column ++ " IN " ++ quoter.quoteValue (.list values) none := by
  apply String.toList_inj.mp
  rw [Condition.sql, Fragment.toList_sql quoter (by simp [fragment])]
  simp [fragment, Template.filled, Template.placeholder, Template.Filling.ofOption,
    Template.Filling.text, Fragment.parameterSql, Value.plain]

/-- Absence is written as membership is, with NOT before IN. -/
theorem sql_notMember (column : String) (values : List Value) :
    (notMember column values).sql quoter =
      quoter.quoteIdentifier column ++ " NOT IN " ++ quoter.quoteValue (.list values) none := by
  apply String.toList_inj.mp
  rw [Condition.sql, Fragment.toList_sql quoter (by simp [fragment])]
  simp [fragment, Template.filled, Template.placeholder, Template.Filling.ofOption,
    Template.Filling.text, Fragment.parameterSql, Value.plain]

/-- A full-text query stands as it is between the quotes of its literal. -/
theorem sql_fullText (query : String) :
    (fullText query).sql quoter = "MATCH('" ++ query ++ "')" := by
  apply String.toList_inj.mp
  rw [Condition.sql, Fragment.toList_sql quoter (by simp [fragment])]
  simp [fragment, Template.filled, Template.placeholder, Template.Filling.ofOption,
    Template.Filling.text, Fragment.parameterSql, Value.plain]

end Condition

end SearchSql
