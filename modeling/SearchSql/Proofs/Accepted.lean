import SearchSql.Statement

/-!
# Accepted statements

A statement has a text only if none of its calls recorded an error and it passes the check of its
kind. Each check is given here as the condition that it stands for.
-/

namespace SearchSql

/-- A statement has a text exactly when no error is recorded and none is found. -/
theorem finishSql_eq_ok_iff {recorded : Option QueryError} {checked : Except QueryError Unit}
    {sql text : String} :
    finishSql recorded checked sql = .ok text ↔
      recorded = none ∧ checked = .ok () ∧ sql = text := by
  cases recorded with
  | some e => simp [finishSql]
  | none =>
    cases checked with
    | error e => simp [finishSql]
    | ok passed => simp [finishSql]

namespace Insert

/-- No row is ragged exactly when each row has a value for each column. -/
theorem raggedRow?_eq_none_iff {columns number : Nat} {rows : List (List Value)} :
    raggedRow? columns number rows = none ↔ ∀ row ∈ rows, row.length = columns := by
  induction rows generalizing number with
  | nil => simp [raggedRow?]
  | cons row rest ih =>
    rw [raggedRow?, List.forall_mem_cons]
    by_cases hrow : row.length = columns
    · simp [hrow, ih]
    · simp [hrow]

/-- The check of rows asks for a column, for a row, and for rows that fit the columns. -/
theorem validate_eq_ok_iff {insert : Insert} :
    insert.validate = .ok () ↔
      insert.columns ≠ [] ∧ insert.rows ≠ [] ∧
        ∀ row ∈ insert.rows, row.length = insert.columns.length := by
  rw [← @raggedRow?_eq_none_iff _ 0 _]
  unfold validate
  cases hcolumns : insert.columns.isEmpty with
  | true => simp_all
  | false =>
    cases hrows : insert.rows.isEmpty with
    | true => simp_all
    | false =>
      cases hragged : raggedRow? insert.columns.length 0 insert.rows with
      | none => simp_all
      | some fault => simp

end Insert

/-- The check of a search asks for names of indexes, for a limit to each offset, and for a group
to each order within groups. -/
theorem Select.validate_eq_ok_iff {select : Select} :
    select.validate = .ok () ↔
      (∀ index ∈ select.indexes, Text.isBlankText index = false) ∧
        (select.offset ≠ none → select.limit ≠ none) ∧
        (select.groupOrder ≠ [] → select.groupBy ≠ []) := by
  unfold validate
  cases hblank : select.indexes.any Text.isBlankText with
  | true =>
    obtain ⟨index, hindex, hname⟩ := List.any_eq_true.mp hblank
    simp only [if_true, reduceCtorEq, false_iff]
    rintro ⟨hnames, _⟩
    simp [hnames index hindex] at hname
  | false =>
    have hnames : ∀ index ∈ select.indexes, Text.isBlankText index = false := by
      simpa using hblank
    rw [iff_true_intro hnames, true_and]
    cases hoffset : select.offset <;> cases hlimit : select.limit <;>
      cases horder : select.groupOrder <;> cases hgroup : select.groupBy <;> simp

/-- The check of a change asks for an assignment and a condition. -/
theorem Update.validate_eq_ok_iff {update : Update} :
    update.validate = .ok () ↔
      update.assignments ≠ [] ∧ update.filter.conjunction.conditions ≠ [] := by
  unfold validate Clause.isEmpty Conjunction.isEmpty
  cases hassignments : update.assignments <;>
    cases hconditions : update.filter.conjunction.conditions <;> simp

/-- The check of a removal asks for a condition. -/
theorem Delete.validate_eq_ok_iff {delete : Delete} :
    delete.validate = .ok () ↔ delete.filter.conjunction.conditions ≠ [] := by
  unfold validate Clause.isEmpty Conjunction.isEmpty
  cases hconditions : delete.filter.conjunction.conditions <;> simp

end SearchSql
