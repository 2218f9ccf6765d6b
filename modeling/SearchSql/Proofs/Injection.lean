import SearchSql.Proofs.Skeleton
import SearchSql.Proofs.TextVariant

/-!
# Texts as data do not change a statement

Whatever texts stand as data in a statement, its skeleton is the same. Each part of a statement is
shown to be like the same part of its text variant, from single values up to whole statements, so
that no literal can end before its closing quote or run on behind it.
-/

namespace SearchSql

namespace Alike

section Joining

variable {escapes : Bool}

/-- A fixed text of SQL without quotes is like itself. -/
theorem word (text : String) (htext : Text.IsQuoteFree text) :
    Alike escapes text.toList text.toList :=
  of_forall fun c hc => ⟨(htext c hc).1, (htext c hc).2.2.1⟩

/-- Strings joined to each other are alike when they are alike one by one. -/
theorem append_string {left left' right right' : String}
    (hleft : Alike escapes left.toList left'.toList)
    (hright : Alike escapes right.toList right'.toList) :
    Alike escapes (left ++ right).toList (left' ++ right').toList := by
  rw [String.toList_append, String.toList_append]
  exact hleft.append hright

/-- Strings that are alike one by one stay so with a separator between them that opens nothing. -/
theorem intercalate_string {separator : String} {lefts rights : List String}
    (hseparator : Alike escapes separator.toList separator.toList)
    (h : List.Forall₂ (fun left right => Alike escapes left.toList right.toList) lefts rights) :
    Alike escapes (separator.intercalate lefts).toList (separator.intercalate rights).toList := by
  rw [String.toList_intercalate, String.toList_intercalate]
  exact hseparator.intercalate
    (List.forall₂_map_left_iff.mpr (List.forall₂_map_right_iff.mpr h))

/-- Strings that are alike one by one stay so with commas between them. -/
theorem commaSeparated {lefts rights : List String}
    (h : List.Forall₂ (fun left right => Alike escapes left.toList right.toList) lefts rights) :
    Alike escapes (", ".intercalate lefts).toList (", ".intercalate rights).toList :=
  intercalate_string (word ", " (by decide)) h

/-- Data that is related one by one is written alike one by one, if related data is. -/
theorem map_string {α β : Type} {related : α → β → Prop} {olds : List α} {news : List β}
    {write : α → String} {write' : β → String} (h : List.Forall₂ related olds news)
    (hwrite : ∀ old ∈ olds, ∀ new, related old new →
      Alike escapes (write old).toList (write' new).toList) :
    List.Forall₂ (fun left right => Alike escapes left.toList right.toList)
      (olds.map write) (news.map write') := by
  induction h with
  | nil => exact .nil
  | @cons old new olds news hhead _ ih =>
    refine .cons (hwrite old List.mem_cons_self new hhead) (ih ?_)
    exact fun other hother => hwrite other (List.mem_cons_of_mem old hother)

/-- Data whose texts open nothing is written alike one by one. -/
theorem map_self {α : Type} {items : List α} {write : α → String}
    (hwrite : ∀ item ∈ items, Alike escapes (write item).toList (write item).toList) :
    List.Forall₂ (fun left right => Alike escapes left.toList right.toList)
      (items.map write) (items.map write) := by
  rw [List.forall₂_map_left_iff, List.forall₂_map_right_iff, List.forall₂_same]
  exact hwrite

/-- Strings in parentheses are alike when they are alike one by one. -/
theorem listed {lefts rights : List String}
    (h : List.Forall₂ (fun left right => Alike escapes left.toList right.toList) lefts rights) :
    Alike escapes (Quoting.listed lefts).toList (Quoting.listed rights).toList := by
  have hopened := (word "(" (by decide)).append_string (commaSeparated h)
  exact hopened.append_string (word ")" (by decide))

/-- A truth value opens nothing. -/
theorem bitText (b : Bool) : Alike escapes (Value.bitText b).toList (Value.bitText b).toList := by
  cases b with
  | true => exact word "1" (by decide)
  | false => exact word "0" (by decide)

/-- A double opens nothing, whether it is finite or not. -/
theorem floatText (x : Binary64) :
    Alike escapes (Value.floatText x).toList (Value.floatText x).toList := by
  unfold Value.floatText
  split
  · exact of_isNumeral (isNumeral_numberFormat_text x)
  · exact word "NULL" (by decide)

end Joining

section Values

variable (settings : QuoteSettings)

mutual

/-- Text variants of a value are alike when they are written by their form. -/
theorem untyped : ∀ {before after : Value}, before.TextVariant after →
    Alike settings.escapeBackslashes (Quoting.untyped settings.quoteString before).toList
      (Quoting.untyped settings.quoteString after).toList
  | .null, _, .same _ => word "NULL" (by decide)
  | .bool b, _, .same _ => bitText b
  | .int i, _, .same _ => of_isNumeral (isNumeral_integerText _)
  | .uint u, _, .same _ => of_isNumeral (isNumeral_repr _)
  | .float x, _, .same _ => floatText x
  | .json document, _, .same _ => quoteString settings _ _
  | .text _, _, .same _ => quoteString settings _ _
  | .text _, _, .text _ _ => quoteString settings _ _
  | .list _, _, .list hitems => listed (untypedItems hitems)

/-- The elements of text variants of a list are alike one by one. -/
theorem untypedItems : ∀ {before after : List Value},
    List.Forall₂ Value.TextVariant before after →
    List.Forall₂
      (fun left right => Alike settings.escapeBackslashes left.toList right.toList)
      (Quoting.untypedItems settings.quoteString before)
      (Quoting.untypedItems settings.quoteString after)
  | [], _, .nil => .nil
  | _ :: _, _, .cons hhead htail => .cons (untyped hhead) (untypedItems htail)

end

/-- Any value under any type leaves nothing open. -/
theorem typed_self (type : AttrType) (value : Value) :
    Alike settings.escapeBackslashes (Quoting.typed settings.quoteString type value).toList
      (Quoting.typed settings.quoteString type value).toList := by
  have hnumbers (write : Value → String) (hwrite : ∀ item, IsNumeral (write item).toList) :
      Alike settings.escapeBackslashes (Quoting.listed (value.items.map write)).toList
        (Quoting.listed (value.items.map write)).toList := by
    exact listed (map_self fun item _ => of_isNumeral (hwrite item))
  cases type with
  | uint => exact of_isNumeral (isNumeral_repr _)
  | bool => exact bitText _
  | bigint => exact of_isNumeral (isNumeral_integerText _)
  | float => exact floatText _
  | string =>
    cases value with
    | null => exact word "NULL" (by decide)
    | _ => exact quoteString settings _ _
  | json =>
    cases value with
    | _ => exact quoteString settings _ _
  | mva =>
    exact hnumbers (fun item => Nat.repr (Quoting.setItem item)) fun _ => isNumeral_repr _
  | mva64 =>
    exact hnumbers (fun item => integerText item.asInt64.toInt) fun _ => isNumeral_integerText _

/-- A varied cell is written alike. Under the types of texts and of documents all that is not
absent is one literal. -/
theorem quoteValue {type : Option AttrType} {before after : Value}
    (hcell : AttrType.CellVaries type before after) :
    Alike settings.escapeBackslashes (settings.quoter.quoteValue before type).toList
      (settings.quoter.quoteValue after type).toList := by
  cases hcell with
  | same =>
    cases type with
    | none => exact untyped settings (Value.TextVariant.refl before)
    | some type => exact typed_self settings type before
  | untyped hvalue => exact untyped settings hvalue
  | string hvalue =>
    cases hvalue with
    | same => exact typed_self settings .string before
    | text => exact quoteString settings _ _
    | list => exact quoteString settings _ _
  | json hvalue =>
    cases hvalue with
    | same => exact typed_self settings .json before
    | text => exact quoteString settings _ _
    | list => exact quoteString settings _ _

end Values

section Conditions

variable {settings : QuoteSettings}

/-- Filled templates are alike when the template opens nothing and each placeholder is filled
alike, or in neither of the two. -/
theorem filled {escapes : Bool} {olds news : Nat → Option String} {cs : List Char}
    (hcs : ∀ c ∈ cs, c ≠ '\'' ∧ c ≠ '\x60')
    (htexts : ∀ index, Option.Rel (fun old new => Alike escapes old.toList new.toList)
      (olds index) (news index)) (index : Nat) :
    Alike escapes (Template.filled olds cs index) (Template.filled news cs index) := by
  induction cs generalizing index with
  | nil => exact of_forall (by simp [Template.filled])
  | cons c rest ih =>
    have hrest := ih fun d hd => hcs d (List.mem_cons_of_mem c hd)
    unfold Template.filled
    by_cases hc : c = Template.placeholder
    · rw [if_pos hc, if_pos hc]
      apply append _ (hrest (index + 1))
      have htext := htexts index
      revert htext
      rcases olds index with _ | old <;> rcases news index with _ | new <;> intro htext
      · exact word "?" (by decide)
      · cases htext
      · cases htext
      · cases htext with
        | some halike => exact halike
    · rw [if_neg hc, if_neg hc]
      have hhead : Alike escapes [c] [c] :=
        of_forall fun d hd => hcs d (List.mem_singleton.mp hd ▸ List.mem_cons_self)
      exact hhead.append (hrest index)

/-- A parameter is written alike by its kind: a name is the same name, and data is varied. -/
theorem kind (hquote : settings.quoteIdentifiers = true) {kind : Kind} {old new : Value}
    (h : kind.TextVariant old new) :
    Alike settings.escapeBackslashes
      (match kind with
        | .identifier => settings.quoter.quoteIdentifier old.plain
        | .value => settings.quoter.quoteValue old none).toList
      (match kind with
        | .identifier => settings.quoter.quoteIdentifier new.plain
        | .value => settings.quoter.quoteValue new none).toList := by
  cases kind with
  | identifier =>
    obtain rfl : old = new := h
    exact quoteIdentifier hquote _
  | value => exact untyped settings h

/-- A template that opens nothing is filled alike with varied parameters. -/
theorem fragment (hquote : settings.quoteIdentifiers = true) {template : String}
    {kinds : List Kind} {before after : List Value}
    (htemplate : Text.IsQuoteFree template)
    (hparameters : Fragment.ParametersVary kinds before after) :
    Alike settings.escapeBackslashes
      ((Fragment.mk template before kinds false).sql settings.quoter).toList
      ((Fragment.mk template after kinds false).sql settings.quoter).toList := by
  obtain ⟨hlength, hvary⟩ := hparameters
  by_cases hbefore : before = []
  · obtain rfl : after = [] := List.eq_nil_of_length_eq_zero (by simp [← hlength, hbefore])
    subst hbefore
    exact word template htemplate
  · have hafter : after ≠ [] := by
      rintro rfl
      exact hbefore (List.eq_nil_of_length_eq_zero hlength)
    rw [Fragment.toList_sql _ hbefore, Fragment.toList_sql _ hafter]
    apply filled fun c hc => ⟨(htemplate c hc).1, (htemplate c hc).2.2.1⟩
    intro index
    by_cases hindex : index < before.length
    · have hold := List.getElem?_eq_getElem hindex
      have hnew := List.getElem?_eq_getElem (hlength ▸ hindex)
      simp only [hold, hnew, Option.map_some]
      exact .some (kind hquote (hvary index _ _ hold hnew))
    · have hold := List.getElem?_eq_none (Nat.not_lt.mp hindex)
      have hnew := List.getElem?_eq_none (hlength ▸ Nat.not_lt.mp hindex)
      simp only [hold, hnew, Option.map_none]
      exact .none

/-- A varied condition is written alike if it is tame. Every form but that of a template has a
template of its own, which opens nothing. -/
theorem condition (hquote : settings.quoteIdentifiers = true) {before after : Condition}
    (htame : before.IsTame) (h : before.TextVariant after) :
    Alike settings.escapeBackslashes (before.sql settings.quoter).toList
      (after.sql settings.quoter).toList := by
  cases h with
  | raw template hparameters =>
    exact fragment hquote htame hparameters
  | comparison operator hleft hright =>
    have htemplate : Text.IsQuoteFree ("? " ++ operator.symbol ++ " ?") := by
      cases operator <;> decide
    exact fragment hquote htemplate (.cons hleft (.cons hright (.nil [])))
  | between column hlow hhigh =>
    exact fragment hquote (by decide) (.cons rfl (.cons hlow (.cons hhigh (.nil []))))
  | member column hvalues =>
    exact fragment hquote (by decide) (.cons rfl (.cons (.list hvalues) (.nil [])))
  | notMember column hvalues =>
    exact fragment hquote (by decide) (.cons rfl (.cons (.list hvalues) (.nil [])))
  | literal sql => exact word sql htame

/-- A varied clause is written alike if it is tame. -/
theorem clause (hquote : settings.quoteIdentifiers = true) {before after : Clause}
    (htame : before.IsTame) (h : before.TextVariant after) :
    Alike settings.escapeBackslashes (before.sql settings.quoter).toList
      (after.sql settings.quoter).toList := by
  exact (word Conjunction.separator (by decide)).intercalate_string
    (map_string h fun old hold new hvary => condition hquote (htame old hold) hvary)

/-- A varied clause is written alike after its keyword, or in neither statement. -/
theorem sqlAfter (hquote : settings.quoteIdentifiers = true) {before after : Clause}
    (htame : before.IsTame) (h : before.TextVariant after) (keyword : String)
    (hkeyword : Text.IsQuoteFree keyword) :
    Alike settings.escapeBackslashes (before.sqlAfter keyword settings.quoter).toList
      (after.sqlAfter keyword settings.quoter).toList := by
  unfold Clause.sqlAfter
  rw [h.isEmpty_eq]
  split
  · exact word "" (by decide)
  · exact (word keyword hkeyword).append_string (clause hquote htame h)

/-- A varied option is written alike if it is tame. -/
theorem optionValue {before after : OptionValue} (htame : before.IsTame)
    (h : before.TextVariant after) :
    Alike settings.escapeBackslashes (before.sql settings.quoter).toList
      (after.sql settings.quoter).toList := by
  cases h with
  | value hvalue => exact untyped settings hvalue
  | word given => exact word given htame
  | named hpairs =>
    apply listed
    apply map_string hpairs
    rintro ⟨name, old⟩ hold ⟨_, new⟩ ⟨rfl, hvary⟩
    exact ((word name (htame _ hold)).append_string (word " = " (by decide))).append_string
      (untyped settings hvary)

/-- Varied options are written alike if they are tame. -/
theorem options (settings : QuoteSettings) {before after : Options} (htame : before.IsTame)
    (h : before.TextVariant after) :
    Alike settings.escapeBackslashes
      (if before.isEmpty then "" else " OPTION " ++ before.sql settings.quoter).toList
      (if after.isEmpty then "" else " OPTION " ++ after.sql settings.quoter).toList := by
  rw [h.isEmpty_eq]
  split
  · exact word "" (by decide)
  · apply (word " OPTION " (by decide)).append_string
    apply commaSeparated
    apply map_string h
    rintro ⟨name, old⟩ hold ⟨_, new⟩ ⟨rfl, hvary⟩
    obtain ⟨hname, hvalue⟩ := htame _ hold
    exact ((word name hname).append_string (word " = " (by decide))).append_string
      (optionValue hvalue hvary)

end Conditions

section Statements

variable {settings : QuoteSettings}

/-- A list of names leaves nothing open. -/
theorem identifiers (hquote : settings.quoteIdentifiers = true) (names : List String) :
    Alike settings.escapeBackslashes (settings.quoter.quoteIdentifierList names).toList
      (settings.quoter.quoteIdentifierList names).toList :=
  commaSeparated (map_self fun name _ => quoteIdentifier hquote name)

/-- Tame criteria leave nothing open. -/
theorem sortKeys (hquote : settings.quoteIdentifiers = true) {keys : List SortKey}
    (htame : ∀ key ∈ keys, key.IsTame) (keyword : String)
    (hkeyword : Text.IsQuoteFree keyword) :
    Alike settings.escapeBackslashes (SortKey.sqlAfter keyword settings.quoter keys).toList
      (SortKey.sqlAfter keyword settings.quoter keys).toList := by
  unfold SortKey.sqlAfter
  split
  · exact word "" (by decide)
  · apply (word keyword hkeyword).append_string
    apply commaSeparated
    apply map_self
    intro key hkey
    cases key with
    | column name direction =>
      have hname := quoteIdentifier hquote name
      have hdirection : Text.IsQuoteFree direction.text := by
        cases direction <;> decide
      exact (hname.append_string (word " " (by decide))).append_string
        (word direction.text hdirection)
    | raw given => exact word given (htame _ hkey)

/-- A limit opens nothing. -/
theorem limitSql (settings : QuoteSettings) (offset limit : Option UInt64) :
    Alike settings.escapeBackslashes (Select.limitSql offset limit).toList
      (Select.limitSql offset limit).toList := by
  have hnumber (n : Nat) :
      Alike settings.escapeBackslashes (Nat.repr n).toList (Nat.repr n).toList :=
    of_isNumeral (isNumeral_repr n)
  rcases offset with _ | skipped <;> rcases limit with _ | count
  · exact word "" (by decide)
  · exact (word " LIMIT " (by decide)).append_string (hnumber _)
  · exact word "" (by decide)
  · have hskipped := (word " LIMIT " (by decide)).append_string (hnumber skipped.toNat)
    exact (hskipped.append_string (word ", " (by decide))).append_string (hnumber _)

/-- A varied SELECT statement is written alike if it is tame. -/
theorem select (hquote : settings.quoteIdentifiers = true) {before after : Select}
    (htame : before.IsTame) (h : before.TextVariant after) :
    Alike settings.escapeBackslashes (before.sql settings.quoter).toList
      (after.sql settings.quoter).toList := by
  have hcolumns : Alike settings.escapeBackslashes
      (if before.columns.isEmpty then "*" else ", ".intercalate before.columns).toList
      (if before.columns.isEmpty then "*" else ", ".intercalate before.columns).toList := by
    split
    · exact word "*" (by decide)
    · exact commaSeparated
        (List.forall₂_same.mpr fun column hcolumn => word column (htame.columns column hcolumn))
  have hgroupBy : Alike settings.escapeBackslashes
      (if before.groupBy.isEmpty then ""
        else " GROUP BY " ++ settings.quoter.quoteIdentifierList before.groupBy).toList
      (if before.groupBy.isEmpty then ""
        else " GROUP BY " ++ settings.quoter.quoteIdentifierList before.groupBy).toList := by
    split
    · exact word "" (by decide)
    · exact (word " GROUP BY " (by decide)).append_string (identifiers hquote before.groupBy)
  have hindexes := identifiers hquote before.indexes
  have hfilter := sqlAfter hquote htame.filter h.filter " WHERE " (by decide)
  have hgroupOrder := sortKeys hquote htame.groupOrder " WITHIN GROUP ORDER BY "
    (by decide)
  have hhaving := sqlAfter hquote htame.having h.having " HAVING " (by decide)
  have horderBy := sortKeys hquote htame.orderBy " ORDER BY " (by decide)
  have hlimit := limitSql settings before.offset before.limit
  have hoptions := options settings htame.options h.options
  rw [h.others]
  exact ((((((((((word "SELECT " (by decide)).append_string hcolumns).append_string
    (word " FROM " (by decide))).append_string hindexes).append_string hfilter).append_string
    hgroupBy).append_string hgroupOrder).append_string hhaving).append_string
    horderBy).append_string hlimit).append_string hoptions

/-- The cells of a varied row are written alike one by one. Cells without a column are not
written. -/
theorem rowCells (settings : QuoteSettings) {types : List (Option AttrType)}
    {before after : List Value} (h : Insert.RowVaries types before after) :
    List.Forall₂ (fun left right => Alike settings.escapeBackslashes left.toList right.toList)
      (List.zipWith settings.quoter.quoteValue before types)
      (List.zipWith settings.quoter.quoteValue after types) := by
  induction h with
  | nil => exact .nil
  | cell hcell _ ih => exact .cons (quoteValue settings hcell) ih
  | excess => exact .nil

/-- A varied INSERT or REPLACE statement is written alike. -/
theorem insert (hquote : settings.quoteIdentifiers = true) {before after : Insert}
    (h : before.TextVariant after) :
    Alike settings.escapeBackslashes (before.sql settings.quoter).toList
      (after.sql settings.quoter).toList := by
  have hkeyword : Text.IsQuoteFree before.keyword.text := by
    cases before.keyword <;> decide
  have hindex := quoteIdentifier hquote before.index
  have hcolumns := identifiers hquote before.columns
  have hrows := commaSeparated
    (map_string h.rows fun row _ row' hrow => listed (rowCells settings hrow))
  rw [h.others]
  exact ((((((word before.keyword.text hkeyword).append_string
    (word " INTO " (by decide))).append_string hindex).append_string
    (word " (" (by decide))).append_string hcolumns).append_string
    (word ") VALUES " (by decide))).append_string hrows

/-- A varied UPDATE statement is written alike if it is tame. -/
theorem update (hquote : settings.quoteIdentifiers = true) {before after : Update}
    (hfilter : before.filter.IsTame) (hoptions : before.options.IsTame)
    (h : before.TextVariant after) :
    Alike settings.escapeBackslashes (before.sql settings.quoter).toList
      (after.sql settings.quoter).toList := by
  have hindex := quoteIdentifier hquote before.index
  have hassignment (old new : Assignment) (hvary : old.column = new.column ∧
      old.type = new.type ∧ AttrType.CellVaries old.type old.value new.value) :
      Alike settings.escapeBackslashes (old.sql settings.quoter).toList
        (new.sql settings.quoter).toList := by
    obtain ⟨column, old, type⟩ := old
    obtain ⟨_, new, _⟩ := new
    obtain ⟨rfl, rfl, hcell⟩ := hvary
    exact ((quoteIdentifier hquote column).append_string (word " = " (by decide))).append_string
      (quoteValue settings hcell)
  have hassignments := commaSeparated
    (map_string h.assignments fun old _ new hvary => hassignment old new hvary)
  have hwhere := sqlAfter hquote hfilter h.filter " WHERE " (by decide)
  have hafter := options settings hoptions h.options
  rw [h.others]
  exact (((((word "UPDATE " (by decide)).append_string hindex).append_string
    (word " SET " (by decide))).append_string hassignments).append_string hwhere).append_string
    hafter

/-- A varied DELETE statement is written alike if it is tame. -/
theorem delete (hquote : settings.quoteIdentifiers = true) {before after : Delete}
    (hfilter : before.filter.IsTame) (h : before.TextVariant after) :
    Alike settings.escapeBackslashes (before.sql settings.quoter).toList
      (after.sql settings.quoter).toList := by
  have hindex := quoteIdentifier hquote before.index
  have hwhere := clause hquote hfilter h.filter
  rw [h.others]
  exact (((word "DELETE FROM " (by decide)).append_string hindex).append_string
    (word " WHERE " (by decide))).append_string hwhere

/-- A varied statement of any kind is written alike if it is tame. -/
theorem statement (hquote : settings.quoteIdentifiers = true) {before after : Statement}
    (htame : before.IsTame) (h : before.TextVariant after) :
    Alike settings.escapeBackslashes (before.sql settings.quoter).toList
      (after.sql settings.quoter).toList := by
  cases h with
  | select h => exact select hquote htame h
  | insert h => exact insert hquote h
  | update h => exact update hquote htame.1 htame.2 h
  | delete h => exact delete hquote htame h

end Statements

/-- Texts that are alike have one skeleton. -/
theorem skeleton_eq {escapes : Bool} {left right : String}
    (h : Alike escapes left.toList right.toList) :
    skeleton escapes left = skeleton escapes right := by
  obtain ⟨hsame, _⟩ := h .outside rfl
  unfold skeleton
  rw [hsame]

/-- Nothing is left open at the end of texts that are alike. -/
theorem endsClosed {escapes : Bool} {left right : String}
    (h : Alike escapes left.toList right.toList) :
    EndsClosed escapes left ∧ EndsClosed escapes right := by
  obtain ⟨hsame, hclosed⟩ := h .outside rfl
  exact ⟨hclosed, by unfold EndsClosed; rwa [← hsame]⟩

end Alike

/-- A varied row has as many cells as before. -/
theorem Insert.RowVaries.length_eq {types : List (Option AttrType)} {before after : List Value}
    (h : RowVaries types before after) : after.length = before.length := by
  induction h with
  | nil => rfl
  | cell _ _ ih => exact congrArg (· + 1) ih
  | excess _ _ ih => exact congrArg (· + 1) ih

/-- Varied rows have the same first row that does not fit the columns. -/
theorem Insert.raggedRow?_eq {types : List (Option AttrType)} {before after : List (List Value)}
    (h : List.Forall₂ (RowVaries types) before after) (columns number : Nat) :
    raggedRow? columns number after = raggedRow? columns number before := by
  induction h generalizing number with
  | nil => rfl
  | cons hrow _ ih =>
    unfold raggedRow?
    rw [hrow.length_eq, ih]

/-- Checking a varied statement finds what it found before. -/
theorem Statement.TextVariant.validate_eq {before after : Statement}
    (h : before.TextVariant after) : after.validate = before.validate := by
  cases h with
  | select h =>
    unfold Statement.validate
    rw [h.others]
    rfl
  | insert h =>
    unfold Statement.validate Insert.validate
    rw [h.others]
    simp only [isEmpty_eq_of_forall₂ h.rows, Insert.raggedRow?_eq h.rows]
    rfl
  | update h =>
    unfold Statement.validate Update.validate
    rw [h.others]
    simp only [isEmpty_eq_of_forall₂ h.assignments, h.filter.isEmpty_eq]
  | delete h =>
    unfold Statement.validate Delete.validate
    simp only [h.filter.isEmpty_eq]

/-- Varying a statement keeps the error that its calls left in it. -/
theorem Statement.TextVariant.error_eq {before after : Statement}
    (h : before.TextVariant after) : after.error = before.error := by
  cases h with
  | select h => exact (congrArg Select.error h.others).trans rfl
  | insert h => exact (congrArg Insert.error h.others).trans rfl
  | update h => exact (congrArg Update.error h.others).trans rfl
  | delete h => exact (congrArg Delete.error h.others).trans rfl

/-- No text that stands as data changes what a statement asks for. A tame statement and any text
variant of it have one skeleton, in which no literal and no name is left open, and checking both
gives the same error or none. -/
theorem skeleton_sql_of_textVariant {settings : QuoteSettings}
    (hquote : settings.quoteIdentifiers = true) {before after : Statement}
    (htame : before.IsTame) (h : before.TextVariant after) :
    skeleton settings.escapeBackslashes (after.sql settings.quoter) =
        skeleton settings.escapeBackslashes (before.sql settings.quoter) ∧
      EndsClosed settings.escapeBackslashes (before.sql settings.quoter) ∧
      EndsClosed settings.escapeBackslashes (after.sql settings.quoter) ∧
      (after.toSql settings.quoter).map (skeleton settings.escapeBackslashes) =
        (before.toSql settings.quoter).map (skeleton settings.escapeBackslashes) := by
  have halike := Alike.statement hquote htame h
  have hskeleton := halike.skeleton_eq
  obtain ⟨hbefore, hafter⟩ := halike.endsClosed
  refine ⟨hskeleton.symm, hbefore, hafter, ?_⟩
  unfold Statement.toSql
  rw [h.validate_eq, h.error_eq]
  cases before.error with
  | some e => rfl
  | none =>
    cases before.validate with
    | error e => rfl
    | ok => exact congrArg Except.ok hskeleton.symm

/-- A quote and a backslash in a text do not get out of its literal, not even where one literal
follows on another without a space. -/
theorem skeleton_sql_of_breakout :
    skeleton true
        ((Statement.delete ⟨"products", ⟨⟨[.raw "code IN (??)" [.text "' OR 1 = 1 --", .text "\\'"]
          [.value, .value]]⟩⟩, none⟩).sql (QuoteSettings.mk true true).quoter) =
      skeleton true
        ((Statement.delete ⟨"products", ⟨⟨[.raw "code IN (??)" [.text "a", .text "b"]
          [.value, .value]]⟩⟩, none⟩).sql (QuoteSettings.mk true true).quoter) := by
  have hquote : (QuoteSettings.mk true true).quoteIdentifiers = true := rfl
  have htame : (Statement.delete ⟨"products", ⟨⟨[.raw "code IN (??)" [.text "a", .text "b"]
      [.value, .value]]⟩⟩, none⟩).IsTame := by
    intro condition hcondition
    obtain rfl := List.mem_singleton.mp hcondition
    exact (by decide : Text.IsQuoteFree "code IN (??)")
  have htexts : Fragment.ParametersVary [.value, .value] [.text "a", .text "b"]
      [.text "' OR 1 = 1 --", .text "\\'"] := .cons (.text _ _) (.cons (.text _ _) (.nil []))
  have hfilter : Clause.TextVariant
      ⟨⟨[.raw "code IN (??)" [.text "a", .text "b"] [.value, .value]]⟩⟩
      ⟨⟨[.raw "code IN (??)" [.text "' OR 1 = 1 --", .text "\\'"] [.value, .value]]⟩⟩ :=
    .cons (.raw "code IN (??)" htexts) .nil
  have hvariant : Delete.TextVariant ⟨"products", _, none⟩ ⟨"products", _, none⟩ :=
    ⟨hfilter, rfl⟩
  exact (skeleton_sql_of_textVariant hquote htame (.delete hvariant)).1

end SearchSql
