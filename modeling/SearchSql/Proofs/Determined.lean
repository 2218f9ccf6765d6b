import SearchSql.Proofs.Accepted
import SearchSql.Proofs.Reading.Change

/-!
# A text determines what was asked

Two accepted statements with the same text are of the same kind, and if structured calls put them
together they ask for the same: there is one reading of the text, and each of the two has it. What
cannot be told apart are only values that SQL writes alike.
-/

namespace SearchSql

open Reading

/-- Two clauses ask for the same predicates in the same order. -/
def Clause.AsksSame (left right : Clause) : Prop :=
  ∃ predicates, List.Forall₂ Made left.conjunction.conditions predicates ∧
    List.Forall₂ Made right.conjunction.conditions predicates

/-- Two searches ask for the same. -/
structure Select.AsksSame (left right : Select) : Prop where
  /-- They read from the same indexes. -/
  indexes : left.indexes = right.indexes
  /-- They have the same condition on documents. -/
  filter : left.filter.AsksSame right.filter
  /-- They group by the same columns. -/
  groupBy : left.groupBy = right.groupBy
  /-- They order groups alike. -/
  groupOrder : left.groupOrder = right.groupOrder
  /-- They have the same condition on groups. -/
  having : left.having.AsksSame right.having
  /-- They order the result alike. -/
  orderBy : left.orderBy = right.orderBy
  /-- They read the same number of documents. -/
  limit : left.limit = right.limit
  /-- They skip the same number of documents. -/
  offset : left.offset = right.offset

/-- Two changes ask for the same. -/
structure Update.AsksSame (left right : Update) : Prop where
  /-- They change the same index. -/
  index : left.index = right.index
  /-- They give the same attributes the same values, in the same order. -/
  assignments : left.assignments.map Assignment.asked = right.assignments.map Assignment.asked
  /-- They have the same condition. -/
  filter : left.filter.AsksSame right.filter

/-- Two removals ask for the same. -/
structure Delete.AsksSame (left right : Delete) : Prop where
  /-- They remove from the same index. -/
  index : left.index = right.index
  /-- They have the same condition. -/
  filter : left.filter.AsksSame right.filter

/-- Two statements are of the same kind and ask for the same. -/
def Statement.AsksSame : Statement → Statement → Prop
  | .select left, .select right => left.AsksSame right
  | .update left, .update right => left.AsksSame right
  | .delete left, .delete right => left.AsksSame right
  | _, _ => False

/-- A search, a change or a removal that structured calls put together. -/
inductive Statement.IsStructured : Statement → Prop where
  /-- A search is put together. -/
  | select (index : String) {calls : List Select.Call}
    (hcalls : ∀ call ∈ calls, call.IsStructured) :
    IsStructured (.select ((Select.new index).applyAll calls))
  /-- A change is put together. -/
  | update (index : String) {calls : List Update.Call}
    (hcalls : ∀ call ∈ calls, call.IsStructured) :
    IsStructured (.update ((Update.new index).applyAll calls))
  /-- A removal is put together. -/
  | delete (index : String) {calls : List Filter}
    (hcalls : ∀ call ∈ calls, call.Brings Condition.IsStructured) :
    IsStructured (.delete ((Delete.new index).applyAll calls))

/-- The text of a statement begins with its keyword. -/
theorem Statement.keyword_isPrefix_sql (quoter : Quoter) (statement : Statement) :
    statement.keyword.text.toList <+: (statement.sql quoter).toList := by
  unfold sql keyword
  cases statement with
  | select given => unfold Select.sql; simp [Keyword.text]
  | insert given => unfold Insert.sql; simp
  | update given => unfold Update.sql; simp [Keyword.text]
  | delete given => unfold Delete.sql; simp [Keyword.text]

/-- Statements with the same text are of the same kind. -/
theorem Statement.keyword_eq_of_sql_eq {quoter : Quoter} {left right : Statement}
    (h : left.sql quoter = right.sql quoter) : left.keyword = right.keyword := by
  have hleft := left.keyword_isPrefix_sql quoter
  have hright := right.keyword_isPrefix_sql quoter
  rw [h] at hleft
  -- No keyword is the beginning of another.
  have hcomparable := List.prefix_or_prefix_of_prefix hleft hright
  revert hcomparable
  cases left.keyword <;> cases right.keyword <;> decide

section Quoted

variable {settings : QuoteSettings} (hquote : settings.quoteIdentifiers = true)

include hquote

/-- Structured searches with the same text ask for the same. -/
theorem Select.asksSame_of_sql_eq {left right : Select} (hleft : left.IsStructured)
    (hright : right.IsStructured) (hleftPaging : left.offset ≠ none → left.limit ≠ none)
    (hrightPaging : right.offset ≠ none → right.limit ≠ none)
    (hsql : left.sql settings.quoter = right.sql settings.quoter) : left.AsksSame right := by
  obtain ⟨leftFilter, hleftFilter⟩ := hleft.filter.exists_forall₂
  obtain ⟨leftHaving, hleftHaving⟩ := hleft.having.exists_forall₂
  obtain ⟨rightFilter, hrightFilter⟩ := hright.filter.exists_forall₂
  obtain ⟨rightHaving, hrightHaving⟩ := hright.having.exists_forall₂
  have hread := readSearch_sql hquote hleft hleftPaging hleftFilter hleftHaving
  rw [hsql, readSearch_sql hquote hright hrightPaging hrightFilter hrightHaving] at hread
  obtain ⟨hindexes, hfilter, hgroupBy, hgroupOrder, hhaving, horderBy, hoffset, hlimit⟩ :=
    Search.mk.inj (Option.some.inj hread.symm)
  have hnumber : Function.Injective (Option.map UInt64.toNat) :=
    Option.map_injective fun _ _ h => UInt64.toNat_inj.mp h
  exact ⟨hindexes, ⟨leftFilter, hleftFilter, hfilter ▸ hrightFilter⟩, hgroupBy, hgroupOrder,
    ⟨leftHaving, hleftHaving, hhaving ▸ hrightHaving⟩, horderBy, hnumber hlimit, hnumber hoffset⟩

/-- Structured changes with the same text ask for the same. -/
theorem Update.asksSame_of_sql_eq {left right : Update} (hleft : left.IsStructured)
    (hright : right.IsStructured) (hleftSet : left.assignments ≠ [])
    (hrightSet : right.assignments ≠ [])
    (hsql : left.sql settings.quoter = right.sql settings.quoter) : left.AsksSame right := by
  obtain ⟨leftFilter, hleftFilter⟩ := hleft.filter.exists_forall₂
  obtain ⟨rightFilter, hrightFilter⟩ := hright.filter.exists_forall₂
  have hread := readChange_sql hquote hleft hleftSet hleftFilter
  rw [hsql, readChange_sql hquote hright hrightSet hrightFilter] at hread
  obtain ⟨hindex, hassignments, hfilter⟩ := Change.mk.inj (Option.some.inj hread.symm)
  exact ⟨hindex, hassignments, leftFilter, hleftFilter, hfilter ▸ hrightFilter⟩

/-- Structured removals with the same text ask for the same. -/
theorem Delete.asksSame_of_sql_eq {left right : Delete}
    (hleft : left.filter.All Condition.IsStructured)
    (hright : right.filter.All Condition.IsStructured)
    (hleftFilter : left.filter.conjunction.conditions ≠ [])
    (hrightFilter : right.filter.conjunction.conditions ≠ [])
    (hsql : left.sql settings.quoter = right.sql settings.quoter) : left.AsksSame right := by
  obtain ⟨leftPredicates, hleftMade⟩ := hleft.exists_forall₂
  obtain ⟨rightPredicates, hrightMade⟩ := hright.exists_forall₂
  have hread := readRemoval_sql hquote hleftFilter hleftMade
  rw [hsql, readRemoval_sql hquote hrightFilter hrightMade] at hread
  obtain ⟨hindex, hfilter⟩ := Removal.mk.inj (Option.some.inj hread.symm)
  exact ⟨hindex, leftPredicates, hleftMade, hfilter ▸ hrightMade⟩

/-- The text of an accepted search, change or removal determines what was asked. Two statements
that structured calls put together and that have the same text under a quoter that quotes names are
of the same kind, and they agree on their indexes, conditions, assignments, groups, orders, limit
and offset. Conditions and assignments agree up to what is left of values in SQL. -/
theorem Statement.asksSame_of_toSql_eq {left right : Statement} (hleft : left.IsStructured)
    (hright : right.IsStructured) {text : String}
    (hleftText : left.toSql settings.quoter = .ok text)
    (hrightText : right.toSql settings.quoter = .ok text) : left.AsksSame right := by
  obtain ⟨_, hleftValid, hleftSql⟩ := finishSql_eq_ok_iff.mp hleftText
  obtain ⟨_, hrightValid, hrightSql⟩ := finishSql_eq_ok_iff.mp hrightText
  have hsql : left.sql settings.quoter = right.sql settings.quoter := hleftSql.trans hrightSql.symm
  have hkeyword := keyword_eq_of_sql_eq hsql
  cases hleft with
  | select index hcalls =>
    cases hright with
    | select index' hcalls' =>
      exact Select.asksSame_of_sql_eq hquote (Select.isStructured_applyAll index hcalls)
        (Select.isStructured_applyAll index' hcalls')
        (Select.validate_eq_ok_iff.mp hleftValid).2.1
        (Select.validate_eq_ok_iff.mp hrightValid).2.1 hsql
    | update => cases hkeyword
    | delete => cases hkeyword
  | update index hcalls =>
    cases hright with
    | select => cases hkeyword
    | update index' hcalls' =>
      exact Update.asksSame_of_sql_eq hquote (Update.isStructured_applyAll index hcalls)
        (Update.isStructured_applyAll index' hcalls')
        (Update.validate_eq_ok_iff.mp hleftValid).1
        (Update.validate_eq_ok_iff.mp hrightValid).1 hsql
    | delete => cases hkeyword
  | delete index hcalls =>
    cases hright with
    | select => cases hkeyword
    | update => cases hkeyword
    | delete index' hcalls' =>
      exact Delete.asksSame_of_sql_eq hquote (Delete.all_isStructured_applyAll index hcalls)
        (Delete.all_isStructured_applyAll index' hcalls')
        (Delete.validate_eq_ok_iff.mp hleftValid) (Delete.validate_eq_ok_iff.mp hrightValid) hsql

end Quoted

/-- Keywords in names and texts are no clauses, the order of calls on different parts leaves no
trace, and a truth value cannot be told from the number that stands for it. -/
theorem Statement.asksSame_of_toSql_eq_keywords :
    (Statement.select ((Select.new "rt").applyAll
      [.filter (.request (.compare "a WHERE `b" .eq (.bool true))),
        .having (.script [.request (.operator (.text "n") " > " (.text "' LIMIT 1"))]),
        .groupBy "ORDER BY", .limit 2, .offset 1])).AsksSame
      (.select ((Select.new "rt").applyAll
        [.limit 2, .offset 1, .groupBy "ORDER BY",
          .having (.script [.request (.compare "n" .gt (.text "' LIMIT 1"))]),
          .filter (.request (.operator (.text "a WHERE `b") "=" (.int 1)))])) := by
  refine @asksSame_of_toSql_eq ⟨true, false⟩ rfl _ _ (.select "rt" ?_) (.select "rt" ?_) _ rfl rfl
  · simp only [List.forall_mem_cons, List.not_mem_nil, Select.Call.IsStructured]
    exact ⟨Request.brings_isStructured trivial, ⟨Request.brings_isStructured trivial, trivial⟩,
      trivial, trivial, trivial, fun _ h => h.elim⟩
  · simp only [List.forall_mem_cons, List.not_mem_nil, Select.Call.IsStructured]
    exact ⟨trivial, trivial, trivial, ⟨Request.brings_isStructured trivial, trivial⟩,
      Request.brings_isStructured trivial, fun _ h => h.elim⟩

end SearchSql
