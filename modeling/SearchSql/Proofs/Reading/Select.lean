import SearchSql.Proofs.Reading.Part
import SearchSql.Proofs.Structured

/-!
# Reading a SELECT

A search that structured calls put together is read back clause by clause. Each clause may be
missing, and is recognised by its keyword; none of the keywords is taken for another one, and
behind a name, a value or a direction none of them can be part of what stands before it.
-/

namespace SearchSql

namespace Reading

/-- What a search over all columns without options asks for. -/
structure Search where
  /-- The indexes to read from. -/
  indexes : List String
  /-- The condition on documents. -/
  filter : List Predicate
  /-- The columns to group by. -/
  groupBy : List String
  /-- The order within a group. -/
  groupOrder : List SortKey
  /-- The condition on groups. -/
  having : List Predicate
  /-- The order of the result. -/
  orderBy : List SortKey
  /-- The number of documents to skip. -/
  offset : Option Nat
  /-- The number of documents to read. -/
  limit : Option Nat

/-! ## Items of clauses -/

/-- The predicates of a clause at the front of a text. There are never more of them than
characters, and one more for a clause that is not empty. -/
def takePredicates (escapes : Bool) (text : List Char) : Option (List Predicate × List Char) :=
  readPredicates escapes (text.length + 1) text

/-- A column with a direction at the front of a text. -/
def readSortKey (text : List Char) : Option (SortKey × List Char) := do
  let (column, text) ← readIdentifier text
  match readWord " ASC" text with
  | some text => some (.column column .ascending, text)
  | none => (readWord " DESC" text).map (.column column .descending, ·)

/-- A natural number at the front of a text. -/
def readNatural (text : List Char) : Option (Nat × List Char) :=
  let digits := text.takeWhile Char.isDigit
  if digits = [] then none
  else some (Nat.ofDigitChars 10 digits 0, text.dropWhile Char.isDigit)

/-- A natural number is read back from its decimal text. -/
theorem readsAs_repr (n : Nat) : ReadsAs readNatural EndsValue n (Nat.repr n).toList := by
  intro tail htail
  have hdigits := isDigits_toDigits n
  obtain ⟨htake, hdrop⟩ := takeWhile_dropWhile_digits hdigits htail.isDigit_eq_false
  rw [Nat.toList_repr]
  simp only [readNatural, htake, hdrop, if_neg hdigits.ne_nil, Nat.ofDigitChars_ten_toDigits]

section Written

variable {settings : QuoteSettings} (hquote : settings.quoteIdentifiers = true)

include hquote

/-- A clause that is not empty is read up to the next part of the statement. -/
theorem readsAs_sql {clause : Clause} {predicates : List Predicate}
    (h : List.Forall₂ Made clause.conjunction.conditions predicates)
    (hne : clause.conjunction.conditions ≠ []) :
    ReadsAs (takePredicates settings.escapeBackslashes) EndsPart predicates
      (clause.sql settings.quoter).toList := by
  intro tail htail
  have hlength := Conjunction.length_le_sql settings.quoter clause.conjunction.conditions
  unfold takePredicates
  apply readPredicates_append hquote h hne _ htail.endsValue htail.not_and
  rw [List.length_append]
  exact Nat.le_trans hlength (Nat.succ_le_succ (Nat.le_add_right _ _))

/-- A clause is left out when it is empty. -/
theorem writesOptional_sqlAfter (keyword : String) {clause : Clause}
    {predicates : List Predicate}
    (h : List.Forall₂ Made clause.conjunction.conditions predicates) :
    WritesOptional keyword (takePredicates settings.escapeBackslashes) predicates
      (clause.sqlAfter keyword settings.quoter).toList := by
  refine .unless_isEmpty (fun hnone => ?_) (readsAs_sql hquote h)
  rw [hnone] at h
  exact List.forall₂_nil_left_iff.mp h

/-- Names are left out with their keyword when there are none. -/
theorem writesOptional_identifiers (keyword : String) (names : List String) :
    WritesOptional keyword (takeSeparated readIdentifier) names
      (if names.isEmpty then "" else
        keyword ++ settings.quoter.quoteIdentifierList names).toList :=
  .unless_isEmpty id (readsAs_quoteIdentifierList hquote)

/-- A column with a direction is read back. -/
theorem readsAs_sortKey {key : SortKey} (hkey : key.IsStructured) :
    ReadsAs readSortKey EndsValue key (key.sql settings.quoter).toList := by
  cases key with
  | raw sql => exact absurd hkey id
  | column name direction =>
    intro tail htail
    have hname (rest : List Char) :=
      readsAs_quoteIdentifier hquote name (' ' :: rest) (endsValue_cons (.inl rfl) _)
    have hsql : ((SortKey.column name direction).sql settings.quoter).toList ++ tail =
        (settings.quoter.quoteIdentifier name).toList ++
          ' ' :: (direction.text.toList ++ tail) := by
      simp [SortKey.sql]
    unfold readSortKey
    rw [hsql]
    simp only [hname, Option.bind_eq_bind, Option.bind_some]
    cases direction <;> simp [Direction.text, readWord, List.dropPrefix?]

/-- Criteria of an order are left out with their keyword when there are none. -/
theorem writesOptional_sortKeys (keyword : String) {keys : List SortKey}
    (hkeys : ∀ key ∈ keys, key.IsStructured) :
    WritesOptional keyword (takeSeparated readSortKey) keys
      (SortKey.sqlAfter keyword settings.quoter keys).toList := by
  refine .unless_isEmpty id (ReadsAs.intercalate ?_)
  rw [List.forall₂_map_right_iff]
  exact List.forall₂_same.mpr fun key hmem => readsAs_sortKey hquote (hkeys key hmem)

end Written

/-! ## Paging -/

/-- The numbers behind LIMIT. -/
def pagingNumbers (offset limit : Option UInt64) : List Nat :=
  match offset, limit with
  | some skipped, some count => [skipped.toNat, count.toNat]
  | none, some count => [count.toNat]
  | _, none => []

/-- The offset and the limit that the numbers behind LIMIT stand for. -/
def ofPagingNumbers : List Nat → Option (Option Nat × Option Nat)
  | [] => some (none, none)
  | [count] => some (none, some count)
  | [skipped, count] => some (some skipped, some count)
  | _ => none

/-- The offset and the limit come back from their numbers, as long as there is no offset without a
limit. -/
theorem ofPagingNumbers_pagingNumbers {offset limit : Option UInt64}
    (hpaging : offset ≠ none → limit ≠ none) :
    ofPagingNumbers (pagingNumbers offset limit) =
      some (offset.map UInt64.toNat, limit.map UInt64.toNat) := by
  cases limit with
  | some count => cases offset <;> rfl
  | none =>
    cases offset with
    | none => rfl
    | some skipped => exact absurd rfl (hpaging (Option.some_ne_none skipped))

/-- The numbers behind LIMIT are left out with it. -/
theorem writesOptional_limitSql (offset limit : Option UInt64) :
    WritesOptional " LIMIT " (takeSeparated readNatural) (pagingNumbers offset limit)
      (Select.limitSql offset limit).toList := by
  have hnumbers {numbers : List Nat} (hne : numbers ≠ []) :
      ReadsAs (takeSeparated readNatural) EndsPart numbers
        (", ".intercalate (numbers.map Nat.repr)).toList := by
    apply ReadsAs.intercalate _ hne
    rw [List.forall₂_map_right_iff]
    exact List.forall₂_same.mpr fun n _ => readsAs_repr n
  cases limit with
  | none => cases offset <;> exact .absent
  | some count =>
    cases offset with
    | none =>
      have hwritten : WritesOptional " LIMIT " _ _ _ :=
        .present (hnumbers (List.cons_ne_nil count.toNat []))
      simpa [Select.limitSql, pagingNumbers] using hwritten
    | some skipped =>
      have hwritten : WritesOptional " LIMIT " _ _ _ :=
        .present (hnumbers (List.cons_ne_nil skipped.toNat [count.toNat]))
      simpa [Select.limitSql, pagingNumbers, String.toList_intercalate] using hwritten

/-! ## The statement -/

/-- A search over all columns without options of which nothing is left over. -/
def readSearch (escapes : Bool) (text : String) : Option Search := do
  let text ← readWord "SELECT * FROM " text.toList
  let (indexes, text) ← takeSeparated readIdentifier text
  let (filter, text) ← readOptional " WHERE " (takePredicates escapes) text
  let (groupBy, text) ← readOptional " GROUP BY " (takeSeparated readIdentifier) text
  let (groupOrder, text) ←
    readOptional " WITHIN GROUP ORDER BY " (takeSeparated readSortKey) text
  let (having, text) ← readOptional " HAVING " (takePredicates escapes) text
  let (orderBy, text) ← readOptional " ORDER BY " (takeSeparated readSortKey) text
  let (numbers, text) ← readOptional " LIMIT " (takeSeparated readNatural) text
  let (offset, limit) ← ofPagingNumbers numbers
  if text.isEmpty then
    some ⟨indexes, filter, groupBy, groupOrder, having, orderBy, offset, limit⟩
  else none

/-- The parts of a structured search as text. -/
theorem toList_sql_select (quoter : Quoter) {select : Select} (h : select.IsStructured) :
    (select.sql quoter).toList = "SELECT * FROM ".toList ++
      ((quoter.quoteIdentifierList select.indexes).toList ++
      ((select.filter.sqlAfter " WHERE " quoter).toList ++
      ((if select.groupBy.isEmpty then "" else
        " GROUP BY " ++ quoter.quoteIdentifierList select.groupBy).toList ++
      ((SortKey.sqlAfter " WITHIN GROUP ORDER BY " quoter select.groupOrder).toList ++
      ((select.having.sqlAfter " HAVING " quoter).toList ++
      ((SortKey.sqlAfter " ORDER BY " quoter select.orderBy).toList ++
      ((Select.limitSql select.offset select.limit).toList ++ []))))))) := by
  unfold Select.sql Options.isEmpty
  rw [h.columns, h.options]
  simp

/-- A structured search is read back, as long as it has no offset without a limit. -/
theorem readSearch_sql {settings : QuoteSettings} (hquote : settings.quoteIdentifiers = true)
    {select : Select} (h : select.IsStructured)
    (hpaging : select.offset ≠ none → select.limit ≠ none) {filter having : List Predicate}
    (hfilter : List.Forall₂ Made select.filter.conjunction.conditions filter)
    (hhaving : List.Forall₂ Made select.having.conjunction.conditions having) :
    readSearch settings.escapeBackslashes (select.sql settings.quoter) =
      some ⟨select.indexes, filter, select.groupBy, select.groupOrder, having, select.orderBy,
        select.offset.map UInt64.toNat, select.limit.map UInt64.toNat⟩ := by
  have hwhere := writesOptional_sqlAfter hquote " WHERE " hfilter
  have hgroup := writesOptional_identifiers hquote " GROUP BY " select.groupBy
  have hwithin := writesOptional_sortKeys hquote " WITHIN GROUP ORDER BY " h.groupOrder
  have hhavingText := writesOptional_sqlAfter hquote " HAVING " hhaving
  have horder := writesOptional_sortKeys hquote " ORDER BY " h.orderBy
  have hlimit := writesOptional_limitSql select.offset select.limit
  -- What may stand behind each clause, from the end of the statement on.
  have htail : GoesOn [] [] := .nil
  have htailOrder := hlimit.goesOn htail
  have htailHaving := horder.goesOn htailOrder
  have htailWithin := hhavingText.goesOn htailHaving
  have htailGroup := hwithin.goesOn htailWithin
  have htailWhere := hgroup.goesOn htailGroup
  have htailIndexes := hwhere.goesOn htailWhere
  have hindexes := readsAs_quoteIdentifierList hquote h.indexes _
    (htailIndexes.endsPart " FROM " (by decide))
  unfold readSearch
  simp only [toList_sql_select settings.quoter h, readWord_append, hindexes,
    hwhere.readOptional_append htailWhere (by decide) (by decide),
    hgroup.readOptional_append htailGroup (by decide) (by decide),
    hwithin.readOptional_append htailWithin (by decide) (by decide),
    hhavingText.readOptional_append htailHaving (by decide) (by decide),
    horder.readOptional_append htailOrder (by decide) (by decide),
    hlimit.readOptional_append htail (by decide) (by decide),
    ofPagingNumbers_pagingNumbers hpaging, Option.bind_eq_bind, Option.bind_some,
    List.isEmpty_nil, if_true]

end Reading

end SearchSql
