import SearchSql.Clause.Conjunction
import SearchSql.Proofs.Filling
import SearchSql.Proofs.Reading.Name
import SearchSql.Proofs.Reading.Value

/-!
# Reading clauses

A clause is read predicate by predicate. A name comes first, the word behind it says what relation
the predicate is about, and values follow. Each of the three tells by itself where it ends, so an
AND inside of a range or of a quoted text is never taken for the AND between two predicates.
-/

namespace SearchSql

/-- A relation between a column and values. -/
inductive Relation where
  /-- A comparison with one value. -/
  | comparison (operator : Comparison)
  /-- A range. -/
  | between
  /-- Membership in a list. -/
  | member
  /-- Absence from a list. -/
  | notMember

namespace Relation

/-- All relations. -/
def all : List Relation :=
  Comparison.all.map .comparison ++ [.between, .member, .notMember]

/-- How a relation is written, with the spaces around it. -/
def word : Relation → String
  | .comparison operator => " " ++ operator.symbol ++ " "
  | .between => " BETWEEN "
  | .member => " IN "
  | .notMember => " NOT IN "

end Relation

/-- A condition as SQL has it. -/
inductive Predicate where
  /-- A column compared with a value. -/
  | comparison (name : String) (operator : Comparison) (value : SqlValue)
  /-- A column in a range. -/
  | between (name : String) (low high : SqlValue)
  /-- A column in a list. -/
  | member (name : String) (values : List SqlValue)
  /-- A column not in a list. -/
  | notMember (name : String) (values : List SqlValue)

/-- A clause has at least as many characters as words between its conditions. -/
theorem Conjunction.length_le_sql (quoter : Quoter) (conditions : List Condition) :
    conditions.length ≤ (Conjunction.sql quoter ⟨conditions⟩).toList.length + 1 := by
  induction conditions with
  | nil => exact Nat.zero_le _
  | cons condition conditions ih =>
    cases conditions with
    | nil => simp
    | cons next conditions =>
      rw [Conjunction.toList_sql_cons, List.length_append, List.length_append]
      have hand : " AND ".toList.length = 5 := rfl
      rw [List.length_cons]
      omega

namespace Reading

/-- The text behind a given word. -/
def readWord (word : String) (text : List Char) : Option (List Char) :=
  text.dropPrefix? word.toList

/-- The relation whose word stands at the front of a text, with the rest of the text. -/
def readRelation (text : List Char) : Option (Relation × List Char) :=
  Relation.all.findSome? fun relation => (readWord relation.word text).map (relation, ·)

/-- A predicate whose name, relation and first value have been read, with the rest of the text. -/
def readOperands (escapes : Bool) (name : String) (relation : Relation) (first : SqlValue)
    (text : List Char) : Option (Predicate × List Char) :=
  match relation, first with
  | .comparison operator, value => some (.comparison name operator value, text)
  | .between, low => do
    let text ← readWord " AND " text
    let (high, text) ← takeValue escapes text
    some (.between name low high, text)
  | .member, .list values => some (.member name values, text)
  | .notMember, .list values => some (.notMember name values, text)
  | _, _ => none

/-- One predicate at the front of a text, with the rest of the text. -/
def readPredicate (escapes : Bool) (text : List Char) : Option (Predicate × List Char) := do
  let (name, text) ← readName text
  let (relation, text) ← readRelation text
  let (first, text) ← takeValue escapes text
  readOperands escapes (String.ofList name) relation first text

/-- Predicates with AND between them at the front of a text, with the rest of the text. -/
def readPredicates (escapes : Bool) : Nat → List Char → Option (List Predicate × List Char)
  | 0, _ => none
  | fuel + 1, text => do
    let (predicate, text) ← readPredicate escapes text
    match readWord " AND " text with
    | none => some ([predicate], text)
    | some text => do
      let (others, text) ← readPredicates escapes fuel text
      some (predicate :: others, text)

/-- The predicates of a whole clause. -/
def readClause (escapes : Bool) (text : String) : Option (List Predicate) :=
  if text = "" then some []
  else
    match readPredicates escapes (text.toList.length + 1) text.toList with
    | some (predicates, []) => some predicates
    | _ => none

/-- A word at the front of a text is read. -/
theorem readWord_append (word : String) (rest : List Char) :
    readWord word (word.toList ++ rest) = some rest := by
  unfold readWord
  rw [List.dropPrefix?_eq_some_iff]
  exact ⟨word.toList, rfl, by simp⟩

/-- The words of relations are told apart, also where one symbol begins with another. -/
theorem readRelation_append (relation : Relation) (rest : List Char) :
    readRelation (relation.word.toList ++ rest) = some (relation, rest) := by
  unfold readRelation readWord Relation.all Comparison.all
  cases relation with
  | comparison operator =>
    cases operator <;> simp [Relation.word, Comparison.symbol, List.dropPrefix?]
  | between => simp [Relation.word, Comparison.symbol, List.dropPrefix?]
  | member => simp [Relation.word, Comparison.symbol, List.dropPrefix?]
  | notMember => simp [Relation.word, Comparison.symbol, List.dropPrefix?]

/-- A relation is set off from the name before it by a space. -/
theorem endsName_word (relation : Relation) (rest : List Char) :
    EndsName (relation.word.toList ++ rest) := by
  have hspace : (relation.word.toList ++ rest).head? = some ' ' := by
    cases relation <;> simp [Relation.word]
  exact ⟨by simp [hspace], by simp [hspace]⟩

/-- A word that begins with a space ends the value before it. -/
theorem endsValue_and (rest : List Char) : EndsValue (" AND ".toList ++ rest) :=
  endsValue_cons (.inl rfl) _

/-- The condition is made by a call that asks for the predicate: by a comparison with a column, by
an operator between a name and a value, by a range, or by a list that has to have an element. -/
inductive Made : Condition → Predicate → Prop where
  /-- A column is compared with a value. -/
  | compare (column : String) (operator : Comparison) (value : Value) :
      Made (.compare column operator value) (.comparison column operator value.normal)
  /-- An operator is given by its symbol, and the plain text of the left side is a name. -/
  | operator {left right : Value} {symbol : String} {operator : Comparison}
      {condition : Condition} (hsymbol : Comparison.parse symbol = .ok operator)
      (hmade : Condition.operator left symbol right = .ok condition) :
      Made condition (.comparison left.plain operator right.normal)
  /-- A column lies between two values. -/
  | between (column : String) (low high : Value) :
      Made (.between column low high) (.between column low.normal high.normal)
  /-- A column has one of the listed values. -/
  | isIn {column : String} {values : List Value} {condition : Condition}
      (hmade : Condition.isIn column values = .ok condition) :
      Made condition (.member column (values.map Value.normal))
  /-- A column has none of the listed values. -/
  | isNotIn {column : String} {values : List Value} {condition : Condition}
      (hmade : Condition.isNotIn column values = .ok condition) :
      Made condition (.notMember column (values.map Value.normal))

section Written

variable {settings : QuoteSettings} (hquote : settings.quoteIdentifiers = true)

include hquote

/-- A name, the word of a relation and a value are read one after the other. -/
theorem readPredicate_append (name : String) (relation : Relation) (first : Value)
    {rest : List Char} (hrest : EndsValue rest) :
    readPredicate settings.escapeBackslashes
        ((settings.quoter.quoteIdentifier name ++ relation.word ++
          settings.quoter.quoteValue first none).toList ++ rest) =
      readOperands settings.escapeBackslashes name relation first.normal rest := by
  have hname := readName_quoteIdentifier hquote name (endsName_word relation
    ((settings.quoter.quoteValue first none).toList ++ rest))
  have hfirst : takeValue settings.escapeBackslashes
      ((settings.quoter.quoteValue first none).toList ++ rest) = some (first.normal, rest) :=
    (writesValue_untyped settings first).takeValue_append hrest
  have htext : (settings.quoter.quoteIdentifier name ++ relation.word ++
      settings.quoter.quoteValue first none).toList ++ rest =
      (settings.quoteIdentifier name).toList ++ (relation.word.toList ++
        ((settings.quoter.quoteValue first none).toList ++ rest)) := by
    rw [String.toList_append, String.toList_append, List.append_assoc, List.append_assoc]
    rfl
  unfold readPredicate
  rw [htext]
  simp only [hname, readRelation_append, hfirst, Option.bind_eq_bind, Option.bind_some,
    String.ofList_toList]

/-- A condition that was made by a call is read back as what the call asked for. -/
theorem Made.readPredicate_sql {condition : Condition} {predicate : Predicate}
    (h : Made condition predicate) {tail : List Char} (htail : EndsValue tail) :
    readPredicate settings.escapeBackslashes ((condition.sql settings.quoter).toList ++ tail) =
      some (predicate, tail) := by
  have hcomparison (left : Value) (operator : Comparison) (right : Value) :
      readPredicate settings.escapeBackslashes
          (((Condition.comparison left operator right .identifier .value).sql
            settings.quoter).toList ++ tail) =
        some (.comparison left.plain operator right.normal, tail) := by
    have hsql : (Condition.comparison left operator right .identifier .value).sql
        settings.quoter = settings.quoter.quoteIdentifier left.plain ++
          (Relation.comparison operator).word ++ settings.quoter.quoteValue right none := by
      rw [Condition.sql_comparison]
      simp only [Kind.quote, Relation.word, String.append_assoc]
    rw [hsql, readPredicate_append hquote _ _ _ htail]
    rfl
  have hlist (values : List Value) : (Value.list values).normal =
      .list (values.map Value.normal) := by
    rw [Value.normal, Value.normalItems_eq_map]
  cases h with
  | compare column operator value => exact hcomparison (.text column) operator value
  | @operator left right symbol operator condition hsymbol hmade =>
    have hcondition : Condition.comparison left operator right .identifier .value = condition := by
      simpa [Condition.operator, hsymbol] using hmade
    rw [← hcondition]
    exact hcomparison left operator right
  | between column low high =>
    have hsql : ((Condition.between column low high).sql settings.quoter).toList ++ tail =
        (settings.quoter.quoteIdentifier column ++ Relation.between.word ++
          settings.quoter.quoteValue low none).toList ++
        (" AND ".toList ++ ((settings.quoter.quoteValue high none).toList ++ tail)) := by
      rw [Condition.sql_between]
      simp only [Relation.word, String.toList_append, List.append_assoc]
    have hhigh : takeValue settings.escapeBackslashes
        ((settings.quoter.quoteValue high none).toList ++ tail) = some (high.normal, tail) :=
      (writesValue_untyped settings high).takeValue_append htail
    rw [hsql, readPredicate_append hquote _ _ _ (endsValue_and _)]
    simp only [readOperands, readWord_append, hhigh, Option.bind_eq_bind, Option.bind_some]
  | @isIn column values condition hmade =>
    have hread := readPredicate_append hquote column .member (.list values) htail
    rw [hlist] at hread
    rw [(Condition.isIn_eq_ok_iff.mp hmade).2, Condition.sql_member]
    exact hread
  | @isNotIn column values condition hmade =>
    have hread := readPredicate_append hquote column .notMember (.list values) htail
    rw [hlist] at hread
    rw [(Condition.isNotIn_eq_ok_iff.mp hmade).2, Condition.sql_notMember]
    exact hread

/-- Conditions with AND between them are read back one by one, up to a tail that does not go on
with another AND. -/
theorem readPredicates_append {conditions : List Condition} {predicates : List Predicate}
    (h : List.Forall₂ Made conditions predicates) (hne : conditions ≠ []) {fuel : Nat}
    (hfuel : conditions.length ≤ fuel) {tail : List Char} (htail : EndsValue tail)
    (hand : readWord " AND " tail = none) :
    readPredicates settings.escapeBackslashes fuel
        ((Conjunction.sql settings.quoter ⟨conditions⟩).toList ++ tail) =
      some (predicates, tail) := by
  induction h generalizing fuel with
  | nil => exact absurd rfl hne
  | @cons condition predicate conditions predicates hfirst hothers ih =>
    obtain ⟨fuel, rfl⟩ := Nat.exists_eq_add_one.mpr (Nat.lt_of_lt_of_le (Nat.succ_pos _) hfuel)
    cases hothers with
    | nil =>
      have hsql : Conjunction.sql settings.quoter ⟨[condition]⟩ =
          condition.sql settings.quoter := by
        simp [Conjunction.sql]
      rw [hsql, readPredicates]
      simp only [hfirst.readPredicate_sql hquote htail, hand, Option.bind_eq_bind,
        Option.bind_some]
    | @cons next nextPredicate conditions predicates hnext hrest =>
      have hread := ih (List.cons_ne_nil _ _) (Nat.le_of_succ_le_succ hfuel)
      rw [Conjunction.toList_sql_cons, List.append_assoc, List.append_assoc, readPredicates]
      simp only [hfirst.readPredicate_sql hquote (endsValue_and _), readWord_append, hread,
        Option.bind_eq_bind, Option.bind_some]

end Written

/-- A clause of made conditions is read back as a whole. -/
theorem readClause_of_forall₂ {settings : QuoteSettings}
    (hquote : settings.quoteIdentifiers = true) {conjunction : Conjunction}
    {predicates : List Predicate} (h : List.Forall₂ Made conjunction.conditions predicates) :
    readClause settings.escapeBackslashes (conjunction.sql settings.quoter) =
      some predicates := by
  obtain ⟨conditions⟩ := conjunction
  cases h with
  | nil => rfl
  | @cons condition predicate conditions predicates hfirst hothers =>
    have hend : EndsValue [] := by simp [EndsValue]
    have hread := readPredicates_append hquote (.cons hfirst hothers) (List.cons_ne_nil _ _)
      (Conjunction.length_le_sql settings.quoter _) hend rfl
    rw [List.append_nil] at hread
    have hne : Conjunction.sql settings.quoter ⟨condition :: conditions⟩ ≠ "" := by
      intro hempty
      rw [hempty] at hread
      simp [readPredicates, readPredicate, readName] at hread
    unfold readClause
    rw [if_neg hne, hread]

/-- A clause can be read back. Under a quoter that quotes names, a conjunction of conditions that
were made by calls is read as the predicates that the calls asked for, in order, by a reader that
knows only how literals are escaped. Hence two such conjunctions with the same text ask for the
same predicates. -/
theorem readClause_sql {settings : QuoteSettings} (hquote : settings.quoteIdentifiers = true) :
    (∀ (conjunction : Conjunction) (predicates : List Predicate),
      List.Forall₂ Made conjunction.conditions predicates →
      readClause settings.escapeBackslashes (conjunction.sql settings.quoter) =
        some predicates) ∧
    (∀ (left right : Conjunction) (lefts rights : List Predicate),
      List.Forall₂ Made left.conditions lefts → List.Forall₂ Made right.conditions rights →
      left.sql settings.quoter = right.sql settings.quoter → lefts = rights) := by
  refine ⟨fun _ _ h => readClause_of_forall₂ hquote h, ?_⟩
  intro left right lefts rights hleft hright hsql
  have hsame := readClause_of_forall₂ hquote hleft
  rw [hsql, readClause_of_forall₂ hquote hright] at hsame
  exact (Option.some.inj hsame).symm

/-- A range whose name and ends look like SQL is read back as one predicate, and a truth value
and the number that is written for it ask for the same. -/
theorem readClause_sql_range :
    readClause false
        (Conjunction.sql (QuoteSettings.quoter ⟨true, false⟩)
          ⟨[.between "a.* AND \x60b" (.text "x' AND y") (.list [.null, .bool true])]⟩) =
      some [.between "a.* AND \x60b" (.text "x' AND y") (.list [.null, .number "1"])] ∧
    [Predicate.comparison "a" .eq (Value.bool true).normal] =
      [.comparison "a" .eq (Value.int 1).normal] := by
  have hread := @readClause_sql ⟨true, false⟩ rfl
  constructor
  · exact hread.1 _ _ (.cons (.between _ _ _) .nil)
  · have hbool : List.Forall₂ Made [.compare "a" .eq (.bool true)]
        [.comparison "a" .eq (Value.bool true).normal] := .cons (.compare _ _ _) .nil
    have hint : List.Forall₂ Made [.compare "a" .eq (.int 1)]
        [.comparison "a" .eq (Value.int 1).normal] := .cons (.compare _ _ _) .nil
    exact hread.2 ⟨_⟩ ⟨_⟩ _ _ hbool hint rfl

end Reading

end SearchSql
