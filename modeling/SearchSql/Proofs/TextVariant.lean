import SearchSql.Proofs.Filling
import SearchSql.Statement
import Mathlib.Data.List.Forall2

/-!
# Statements that differ in texts only

A text variant of a value has other texts in place of its own, at any depth of its lists. A text
variant of a statement has text variants in all places where values are quoted by their form, as
texts or as documents, and agrees with it everywhere else. What a statement copies without any
quoting is the caller's own SQL; a statement is tame if that SQL holds no quotes of its own.
-/

namespace SearchSql

/-- The second value is the first one with other texts, at any depth of lists. -/
inductive Value.TextVariant : Value → Value → Prop where
  /-- A value that is no list may stay as it is. -/
  | same {value : Value} (hvalue : value.isList = false) : TextVariant value value
  /-- A text may become any other. -/
  | text (before after : String) : TextVariant (.text before) (.text after)
  /-- A list keeps its length, and its elements are varied one by one. -/
  | list {before after : List Value} (hitems : List.Forall₂ TextVariant before after) :
      TextVariant (.list before) (.list after)

mutual

/-- Every value is a text variant of itself. -/
theorem Value.TextVariant.refl : ∀ value : Value, value.TextVariant value
  | .null | .bool _ | .int _ | .uint _ | .float _ | .json _ => .same rfl
  | .text s => .text s s
  | .list items => .list (Value.TextVariant.refl_items items)

/-- Every list of values is varied into itself. -/
theorem Value.TextVariant.refl_items : ∀ items : List Value,
    List.Forall₂ Value.TextVariant items items
  | [] => .nil
  | item :: rest => .cons (Value.TextVariant.refl item) (Value.TextVariant.refl_items rest)

end

/-- A parameter that stands for a name is kept, and one that stands for data is varied. -/
def Kind.TextVariant : Kind → Value → Value → Prop
  | .identifier, before, after => before = after
  | .value, before, after => before.TextVariant after

/-- Parameters are varied by their kinds. One without a kind stands for data. -/
def Fragment.ParametersVary (kinds : List Kind) (before after : List Value) : Prop :=
  before.length = after.length ∧
    ∀ (index : Nat) (old new : Value), before[index]? = some old → after[index]? = some new →
      (kinds[index]?.getD .value).TextVariant old new

/-- No parameters have nothing to vary. -/
theorem Fragment.ParametersVary.nil (kinds : List Kind) : ParametersVary kinds [] [] :=
  ⟨rfl, by simp⟩

/-- Parameters are varied when the first one is varied by the first kind and the others by the
other kinds. -/
theorem Fragment.ParametersVary.cons {kind : Kind} {kinds : List Kind} {old new : Value}
    {before after : List Value} (hhead : kind.TextVariant old new)
    (hrest : ParametersVary kinds before after) :
    ParametersVary (kind :: kinds) (old :: before) (new :: after) := by
  refine ⟨congrArg (· + 1) hrest.1, ?_⟩
  intro index first second hfirst hsecond
  cases index with
  | zero =>
    obtain rfl := Option.some.inj hfirst
    obtain rfl := Option.some.inj hsecond
    exact hhead
  | succ index => exact hrest.2 index first second hfirst hsecond

/-- The second condition is the first one with other texts as data. -/
inductive Condition.TextVariant : Condition → Condition → Prop where
  /-- The parameters of a template are varied by their kinds. -/
  | raw (template : String) {kinds : List Kind} {before after : List Value}
      (hparameters : Fragment.ParametersVary kinds before after) :
      TextVariant (.raw template before kinds) (.raw template after kinds)
  /-- Both sides of a comparison are varied by their kinds. -/
  | comparison {left left' right right' : Value} (operator : Comparison)
      {leftKind rightKind : Kind} (hleft : leftKind.TextVariant left left')
      (hright : rightKind.TextVariant right right') :
      TextVariant (.comparison left operator right leftKind rightKind)
        (.comparison left' operator right' leftKind rightKind)
  /-- Both ends of a range are varied. -/
  | between (column : String) {low low' high high' : Value} (hlow : low.TextVariant low')
      (hhigh : high.TextVariant high') :
      TextVariant (.between column low high) (.between column low' high')
  /-- The listed values are varied. -/
  | member (column : String) {values values' : List Value}
      (hvalues : List.Forall₂ Value.TextVariant values values') :
      TextVariant (.member column values) (.member column values')
  /-- The listed values are varied. -/
  | notMember (column : String) {values values' : List Value}
      (hvalues : List.Forall₂ Value.TextVariant values values') :
      TextVariant (.notMember column values) (.notMember column values')
  /-- Plain SQL is kept. -/
  | literal (sql : String) : TextVariant (.literal sql) (.literal sql)

/-- The conditions of a clause are varied one by one. -/
def Clause.TextVariant (before after : Clause) : Prop :=
  List.Forall₂ Condition.TextVariant before.conjunction.conditions after.conjunction.conditions

/-- Lists that are related one by one are both empty or both not. -/
theorem isEmpty_eq_of_forall₂ {α β : Type} {related : α → β → Prop} {olds : List α}
    {news : List β} (h : List.Forall₂ related olds news) : news.isEmpty = olds.isEmpty := by
  cases h <;> rfl

/-- Varying leaves no clause empty that was not, and the other way round. -/
theorem Clause.TextVariant.isEmpty_eq {before after : Clause} (h : before.TextVariant after) :
    after.isEmpty = before.isEmpty :=
  isEmpty_eq_of_forall₂ h

/-- The second value of an option is the first one with other texts as data. -/
inductive OptionValue.TextVariant : OptionValue → OptionValue → Prop where
  /-- A value is varied. -/
  | value {before after : Value} (hvalue : before.TextVariant after) :
      TextVariant (.value before) (.value after)
  /-- A word is kept. -/
  | word (word : String) : TextVariant (.word word) (.word word)
  /-- The values of a list are varied, and their names are kept. -/
  | named {before after : List (String × Value)}
      (hpairs : List.Forall₂ (fun old new => old.1 = new.1 ∧ old.2.TextVariant new.2)
        before after) :
      TextVariant (.named before) (.named after)

/-- The options are varied one by one under their names. -/
def Options.TextVariant (before after : Options) : Prop :=
  List.Forall₂ (fun old new => old.1 = new.1 ∧ old.2.TextVariant new.2)
    before.entries after.entries

/-- Options are there after varying just when they were before. -/
theorem Options.TextVariant.isEmpty_eq {before after : Options} (h : before.TextVariant after) :
    after.isEmpty = before.isEmpty :=
  isEmpty_eq_of_forall₂ h

/-- A cell is varied if it is written by its form, as a text or as a document. Under any other
type it is kept, since its text may count as a number. -/
inductive AttrType.CellVaries : Option AttrType → Value → Value → Prop where
  /-- Any cell may be kept. -/
  | same (type : Option AttrType) (value : Value) : CellVaries type value value
  /-- A cell without a type is varied. -/
  | untyped {before after : Value} (hvalue : before.TextVariant after) :
      CellVaries none before after
  /-- A cell written as a text is varied. -/
  | string {before after : Value} (hvalue : before.TextVariant after) :
      CellVaries (some .string) before after
  /-- A cell written as a document is varied. -/
  | json {before after : Value} (hvalue : before.TextVariant after) :
      CellVaries (some .json) before after

/-- The cells of a row are varied by the types of their columns. Cells without a column have no
type. -/
inductive Insert.RowVaries : List (Option AttrType) → List Value → List Value → Prop where
  /-- An empty row. -/
  | nil (types : List (Option AttrType)) : RowVaries types [] []
  /-- A cell with a column. -/
  | cell {type : Option AttrType} {types : List (Option AttrType)} {old new : Value}
      {before after : List Value} (hcell : AttrType.CellVaries type old new)
      (hrest : RowVaries types before after) :
      RowVaries (type :: types) (old :: before) (new :: after)
  /-- A cell without a column. -/
  | excess {old new : Value} {before after : List Value} (hcell : old.TextVariant new)
      (hrest : RowVaries [] before after) : RowVaries [] (old :: before) (new :: after)

/-- The conditions and the options of a SELECT statement are varied. -/
structure Select.TextVariant (before after : Select) : Prop where
  /-- The conditions on documents are varied. -/
  filter : before.filter.TextVariant after.filter
  /-- The conditions on groups are varied. -/
  having : before.having.TextVariant after.having
  /-- The options are varied. -/
  options : before.options.TextVariant after.options
  /-- Everything else is kept. -/
  others : after = { before with
    filter := after.filter, having := after.having, options := after.options }

/-- The cells of an INSERT or REPLACE statement are varied. -/
structure Insert.TextVariant (before after : Insert) : Prop where
  /-- The rows are varied one by one, each under the types of the columns. -/
  rows : List.Forall₂ (Insert.RowVaries (before.columns.map before.typeOf)) before.rows after.rows
  /-- Everything else is kept. -/
  others : after = { before with rows := after.rows }

/-- The changes, the conditions and the options of an UPDATE statement are varied. -/
structure Update.TextVariant (before after : Update) : Prop where
  /-- The new values are varied by their types. -/
  assignments : List.Forall₂ (fun old new => old.column = new.column ∧ old.type = new.type ∧
    AttrType.CellVaries old.type old.value new.value) before.assignments after.assignments
  /-- The conditions are varied. -/
  filter : before.filter.TextVariant after.filter
  /-- The options are varied. -/
  options : before.options.TextVariant after.options
  /-- Everything else is kept. -/
  others : after = { before with
    assignments := after.assignments, filter := after.filter, options := after.options }

/-- The conditions of a DELETE statement are varied. -/
structure Delete.TextVariant (before after : Delete) : Prop where
  /-- The conditions are varied. -/
  filter : before.filter.TextVariant after.filter
  /-- Everything else is kept. -/
  others : after = { before with filter := after.filter }

/-- The second statement is of the same kind as the first one, with other texts as data. -/
inductive Statement.TextVariant : Statement → Statement → Prop where
  /-- Two SELECT statements. -/
  | select {before after : Select} (h : before.TextVariant after) :
      TextVariant (.select before) (.select after)
  /-- Two INSERT or REPLACE statements. -/
  | insert {before after : Insert} (h : before.TextVariant after) :
      TextVariant (.insert before) (.insert after)
  /-- Two UPDATE statements. -/
  | update {before after : Update} (h : before.TextVariant after) :
      TextVariant (.update before) (.update after)
  /-- Two DELETE statements. -/
  | delete {before after : Delete} (h : before.TextVariant after) :
      TextVariant (.delete before) (.delete after)

/-- A text has neither quotes of any kind nor backslashes. -/
def Text.IsQuoteFree (text : String) : Prop :=
  ∀ c ∈ text.toList, c ≠ '\'' ∧ c ≠ '"' ∧ c ≠ '\x60' ∧ c ≠ '\\'

instance (text : String) : Decidable (Text.IsQuoteFree text) :=
  List.decidableBAll _ _

/-- A tame condition copies only SQL without quotes. Full-text queries and conditions of a caller's
own are left out. -/
def Condition.IsTame : Condition → Prop
  | .raw template _ _ => Text.IsQuoteFree template
  | .literal sql => Text.IsQuoteFree sql
  | .fullText _ | .extension _ => False
  | .comparison .. | .between .. | .member .. | .notMember .. => True

/-- All conditions of a tame clause are tame. -/
def Clause.IsTame (clause : Clause) : Prop :=
  ∀ condition ∈ clause.conjunction.conditions, condition.IsTame

/-- The words and the names inside of a tame option hold no quotes. -/
def OptionValue.IsTame : OptionValue → Prop
  | .value _ => True
  | .word given => Text.IsQuoteFree given
  | .named pairs => ∀ pair ∈ pairs, Text.IsQuoteFree pair.1

/-- Tame options have names without quotes and tame values. -/
def Options.IsTame (options : Options) : Prop :=
  ∀ entry ∈ options.entries, Text.IsQuoteFree entry.1 ∧ entry.2.IsTame

/-- A tame criterion copies only SQL without quotes. -/
def SortKey.IsTame : SortKey → Prop
  | .column _ _ => True
  | .raw sql => Text.IsQuoteFree sql

/-- All parts of a tame SELECT statement are tame. -/
structure Select.IsTame (select : Select) : Prop where
  /-- The expressions to read hold no quotes. -/
  columns : ∀ column ∈ select.columns, Text.IsQuoteFree column
  /-- The conditions on documents are tame. -/
  filter : select.filter.IsTame
  /-- The order within a group is tame. -/
  groupOrder : ∀ key ∈ select.groupOrder, key.IsTame
  /-- The conditions on groups are tame. -/
  having : select.having.IsTame
  /-- The order of the result is tame. -/
  orderBy : ∀ key ∈ select.orderBy, key.IsTame
  /-- The options are tame. -/
  options : select.options.IsTame

/-- An INSERT or REPLACE statement copies nothing, so that each one is tame. -/
def Statement.IsTame : Statement → Prop
  | .select given => given.IsTame
  | .insert _ => True
  | .update given => given.filter.IsTame ∧ given.options.IsTame
  | .delete given => given.filter.IsTame

end SearchSql
