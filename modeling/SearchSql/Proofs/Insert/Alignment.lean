import Mathlib.Data.List.TakeWhile
import SearchSql.Proofs.Accepted
import SearchSql.Proofs.Insert.Refused

/-!
# Values and their columns

The columns and the first row of an INSERT or REPLACE can be given apart, and need not fit each
other while the calls go on. A call that sets one column adds to both, so how far they are apart
stays the same, and the check of an accepted statement says that they are not apart at all. So
every value that was set stands under the column it was set for.
-/

namespace SearchSql.Insert

/-! ### What calls give -/

/-- The column and the value that a call sets. -/
def Call.cell? : Call → Option (String × Value)
  | .columns _ | .values _ | .typeHint _ _ => none
  | .set column value | .setTyped column value _ => some (column, value)
  | .setDocument column document => some (column, .json document)

/-- The list of columns that a call gives. -/
def Call.columns? : Call → Option (List String)
  | .columns names => some names
  | _ => none

/-- The row that a call gives. -/
def Call.row? : Call → Option (List Value)
  | .values row => some row
  | _ => none

/-- The columns and values that calls set one by one, in order. -/
def cells (calls : List Call) : List (String × Value) :=
  calls.filterMap Call.cell?

/-- The calls before the first one that sets a column. -/
def opening (calls : List Call) : List Call :=
  calls.takeWhile fun call => call.cell?.isNone

/-- The calls from the first one on that sets a column. -/
def setting (calls : List Call) : List Call :=
  calls.dropWhile fun call => call.cell?.isNone

/-- The list of columns given last. -/
def givenColumns (calls : List Call) : List String :=
  (calls.filterMap Call.columns?).getLast?.getD []

/-- The row given first. -/
def givenRow (calls : List Call) : List Value :=
  (calls.filterMap Call.row?).headD []

/-! ### One call -/

variable {insert : Insert} {call : Call} {calls : List Call}

/-- A call that sets no column replaces the columns or adds a row. -/
theorem apply_of_cell?_eq_none (insert : Insert) (h : call.cell? = none) :
    (insert.apply call).columns = call.columns?.getD insert.columns ∧
      (insert.apply call).rows = insert.rows ++ call.row?.toList := by
  cases call with
  | columns columns => exact ⟨rfl, (List.append_nil _).symm⟩
  | values row => exact ⟨rfl, rfl⟩
  | typeHint column type => exact ⟨rfl, (List.append_nil _).symm⟩
  | set column value => cases h
  | setTyped column value type => cases h
  | setDocument column document => cases h

/-- Setting a column of the only row adds the column and its value at the ends. -/
theorem set_of_length_le (insert : Insert) (h : insert.rows.length ≤ 1) (column : String)
    (value : Value) :
    (insert.set column value).columns = insert.columns ++ [column] ∧
      (insert.set column value).rows = [insert.rows.headD [] ++ [value]] := by
  obtain ⟨index, replaces, columns, rows, types, error⟩ := insert
  match rows with
  | [] => exact ⟨rfl, rfl⟩
  | [row] => exact ⟨rfl, rfl⟩
  | first :: second :: rest => exact absurd h (by simp)

/-- A call that sets a column is refused if there is more than one row. -/
theorem length_rows_le_of_fault?_eq_none {cell : String × Value} (h : call.cell? = some cell)
    (haccepted : insert.fault? call = none) : insert.rows.length ≤ 1 := by
  by_contra hmany
  have hrefused : insert.fault? call = some (.argument .setOnManyRows) := by
    cases call with
    | columns columns => cases h
    | values row => cases h
    | typeHint column type => cases h
    | set column value => exact if_pos (by omega)
    | setTyped column value type => exact if_pos (by omega)
    | setDocument column document => exact if_pos (by omega)
  rw [hrefused] at haccepted
  cases haccepted

/-- A call that sets a column and is not refused adds the column and its value at the ends. -/
theorem apply_of_cell?_eq_some {column : String} {value : Value}
    (h : call.cell? = some (column, value)) (haccepted : insert.fault? call = none) :
    (insert.apply call).columns = insert.columns ++ [column] ∧
      (insert.apply call).rows = [insert.rows.headD [] ++ [value]] := by
  have hrows := length_rows_le_of_fault?_eq_none h haccepted
  cases call with
  | columns columns => cases h
  | values row => cases h
  | typeHint column type => cases h
  | set column value =>
    cases h
    exact set_of_length_le insert hrows column value
  | setTyped column value type =>
    cases h
    exact set_of_length_le (insert.typeHint column type) hrows column value
  | setDocument column document =>
    cases h
    exact set_of_length_le (insert.typeHint column .json) hrows column (.json document)

/-- If no error is recorded in the end, the first call was not refused. -/
theorem fault?_eq_none_of_error (h : (insert.applyAll (call :: calls)).error = none) :
    insert.fault? call = none := by
  have hfirst : (insert.apply call).error.or ((insert.apply call).faults calls).head? = none := by
    rw [← error_applyAll]
    exact h
  rw [error_apply] at hfirst
  exact (Option.or_eq_none_iff.1 (Option.or_eq_none_iff.1 hfirst).1).2

/-! ### All calls -/

/-- Calls that set no column leave the columns given last and all the rows. -/
theorem applyAll_of_forall_cell?_eq_none (insert : Insert) (h : ∀ call ∈ calls, call.cell? = none) :
    (insert.applyAll calls).columns =
        (calls.filterMap Call.columns?).getLast?.getD insert.columns ∧
      (insert.applyAll calls).rows = insert.rows ++ calls.filterMap Call.row? := by
  induction calls generalizing insert with
  | nil => exact ⟨rfl, (List.append_nil _).symm⟩
  | cons call calls ih =>
    rw [List.forall_mem_cons] at h
    obtain ⟨hcolumns, hrows⟩ := apply_of_cell?_eq_none insert h.1
    obtain ⟨hcolumnsAll, hrowsAll⟩ := ih (insert.apply call) h.2
    constructor
    · change ((insert.apply call).applyAll calls).columns = _
      rw [hcolumnsAll, hcolumns, List.filterMap_cons]
      cases call.columns? with
      | none => rfl
      | some columns => simp [List.getLast?_cons]
    · change ((insert.apply call).applyAll calls).rows = _
      rw [hrowsAll, hrows, List.filterMap_cons]
      cases call.row? with
      | none => simp
      | some row => simp

/-- Once there is a row, the columns and the first row both grow by what is set, if no call
replaces the columns and none is refused. -/
theorem applyAll_of_rows {row : List Value} {rest : List (List Value)}
    (hrow : insert.rows = row :: rest) (hcolumns : ∀ columns, Call.columns columns ∉ calls)
    (herror : (insert.applyAll calls).error = none) :
    (insert.applyAll calls).columns = insert.columns ++ (cells calls).map Prod.fst ∧
      ∃ rest, (insert.applyAll calls).rows = (row ++ (cells calls).map Prod.snd) :: rest := by
  induction calls generalizing insert row rest with
  | nil => exact ⟨by simp [cells, applyAll], rest, by simp [cells, applyAll, hrow]⟩
  | cons call calls ih =>
    have hlater : ∀ columns, Call.columns columns ∉ calls :=
      fun columns hmem => hcolumns columns (List.mem_cons_of_mem _ hmem)
    have hrun : insert.applyAll (call :: calls) = (insert.apply call).applyAll calls := rfl
    cases hcell : call.cell? with
    | none =>
      obtain ⟨hsame, hadded⟩ := apply_of_cell?_eq_none insert hcell
      have hkept : call.columns? = none := by
        cases call with
        | columns columns => exact absurd List.mem_cons_self (hcolumns columns)
        | _ => rfl
      rw [hkept, Option.getD_none] at hsame
      rw [hrow, List.cons_append] at hadded
      have hcells : cells (call :: calls) = cells calls := by simp [cells, hcell]
      rw [hrun, hcells, ← hsame]
      exact ih hadded hlater herror
    | some cell =>
      obtain ⟨column, value⟩ := cell
      obtain ⟨hnames, hgrown⟩ := apply_of_cell?_eq_some hcell (fault?_eq_none_of_error herror)
      obtain ⟨hnamesAll, rest, hrowsAll⟩ := ih hgrown hlater herror
      have hcells : cells (call :: calls) = (column, value) :: cells calls := by
        simp [cells, hcell]
      refine ⟨?_, rest, ?_⟩
      · rw [hrun, hcells, hnamesAll, hnames, List.map_cons, List.append_assoc]
        rfl
      · rw [hrun, hcells, hrowsAll, hrow]
        simp

/-- The calls are those before the first one that sets a column and those from it on. -/
theorem opening_append_setting (calls : List Call) : opening calls ++ setting calls = calls :=
  List.takeWhile_append_dropWhile

/-- No call of the opening sets a column. -/
theorem cell?_eq_none_of_mem_opening (h : call ∈ opening calls) : call.cell? = none := by
  simpa using List.mem_takeWhile_imp h

/-- The calls that set a column all come after the opening. -/
theorem cells_setting (calls : List Call) : cells (setting calls) = cells calls := by
  have hopening : cells (opening calls) = [] := by
    unfold cells
    rw [List.filterMap_eq_nil_iff]
    exact fun call hmem => cell?_eq_none_of_mem_opening hmem
  calc cells (setting calls) = cells (opening calls) ++ cells (setting calls) := by
        rw [hopening, List.nil_append]
    _ = cells (opening calls ++ setting calls) := List.filterMap_append.symm
    _ = cells calls := by rw [opening_append_setting]

/-- If no call replaces the columns once a column is set and none is refused, then the columns
are those given last before, followed by those that are set. The first row is the one given first
before, followed by the values that are set. -/
theorem columns_rows_applyAll {index : String} {replaces : Bool}
    (hcolumns : ∀ columns, Call.columns columns ∉ setting calls)
    (herror : ((new index replaces).applyAll calls).error = none)
    (hrows : ((new index replaces).applyAll calls).rows ≠ []) :
    ((new index replaces).applyAll calls).columns =
        givenColumns (opening calls) ++ (cells calls).map Prod.fst ∧
      ∃ rest, ((new index replaces).applyAll calls).rows =
        (givenRow (opening calls) ++ (cells calls).map Prod.snd) :: rest := by
  obtain ⟨hgivenColumns, hgivenRows⟩ := applyAll_of_forall_cell?_eq_none
    (new index replaces) fun call (hmem : call ∈ opening calls) => cell?_eq_none_of_mem_opening hmem
  have hrun : (new index replaces).applyAll calls =
      ((new index replaces).applyAll (opening calls)).applyAll (setting calls) := by
    conv_lhs => rw [← opening_append_setting calls]
    exact List.foldl_append
  rw [hrun] at herror hrows ⊢
  rw [← cells_setting]
  generalize (new index replaces).applyAll (opening calls) = start at *
  change start.columns = givenColumns (opening calls) at hgivenColumns
  change start.rows = (opening calls).filterMap Call.row? at hgivenRows
  have hgivenRow : start.rows.headD [] = givenRow (opening calls) := by
    rw [hgivenRows]
    rfl
  rw [← hgivenColumns, ← hgivenRow]
  cases hsetting : setting calls with
  | nil =>
    rw [hsetting] at hrows
    cases hstart : start.rows with
    | nil => exact absurd hstart hrows
    | cons row rest => exact ⟨by simp [cells, applyAll], rest, by simp [cells, applyAll, hstart]⟩
  | cons call later =>
    rw [hsetting] at hcolumns herror
    -- The first of these calls sets a column, and so it leaves a single row.
    have hsets : call.cell?.isNone = false := by
      have hfirst := List.head?_dropWhile_not (fun call : Call => call.cell?.isNone) calls
      rw [← setting, hsetting] at hfirst
      exact hfirst
    obtain ⟨cell, hcell⟩ := Option.isSome_iff_exists.1 (Option.isNone_eq_false_iff.1 hsets)
    obtain ⟨column, value⟩ := cell
    obtain ⟨hnames, hgrown⟩ := apply_of_cell?_eq_some hcell (fault?_eq_none_of_error herror)
    obtain ⟨hnamesAll, rest, hrowsAll⟩ := applyAll_of_rows hgrown
      (fun columns hmem => hcolumns columns (List.mem_cons_of_mem _ hmem)) herror
    have hcells : cells (call :: later) = (column, value) :: cells later := by
      simp [cells, hcell]
    have hstep : start.applyAll (call :: later) = (start.apply call).applyAll later := rfl
    refine ⟨?_, rest, ?_⟩
    · rw [hstep, hcells, hnamesAll, hnames, List.map_cons, List.append_assoc]
      rfl
    · rw [hstep, hcells, hrowsAll]
      simp

/-- No value lands under another column. If no call replaces the columns once a column is set and
the statement is accepted, then the columns and the values that are set one by one stand last, in
the order of their calls, each value at the place of its column. What was given before them fits
too: the columns given last and the row given first have one length and keep their places at the
front. -/
theorem columns_and_row_of_toSql_eq_ok {quoter : Quoter} {index text : String} {replaces : Bool}
    {calls : List Call} {insert : Insert} (hcalls : insert = (new index replaces).applyAll calls)
    (hcolumns : ∀ columns, Call.columns columns ∉ setting calls)
    (haccepted : insert.toSql quoter = .ok text) :
    ∃ row, insert.rows[0]? = some row ∧
      insert.columns = givenColumns (opening calls) ++ (cells calls).map Prod.fst ∧
      row = givenRow (opening calls) ++ (cells calls).map Prod.snd ∧
      (givenColumns (opening calls)).length = (givenRow (opening calls)).length ∧
      ∀ (k : Nat) (column : String) (value : Value), (cells calls)[k]? = some (column, value) →
        insert.columns[(givenColumns (opening calls)).length + k]? = some column ∧
          row[(givenColumns (opening calls)).length + k]? = some value := by
  obtain ⟨herror, hvalid, _⟩ := finishSql_eq_ok_iff.mp haccepted
  obtain ⟨_, hrows, hfits⟩ := validate_eq_ok_iff.mp hvalid
  rw [hcalls] at herror hrows
  obtain ⟨hnames, rest, hfirst⟩ := columns_rows_applyAll hcolumns herror hrows
  rw [← hcalls] at hnames hfirst
  have hlength : (givenColumns (opening calls)).length = (givenRow (opening calls)).length := by
    have hfit := hfits _ (hfirst ▸ List.mem_cons_self)
    rw [hnames, List.length_append, List.length_append, List.length_map, List.length_map] at hfit
    omega
  refine ⟨_, by rw [hfirst]; rfl, hnames, rfl, hlength, fun k column value hcell => ?_⟩
  constructor
  · rw [hnames, List.getElem?_append_right (by omega), Nat.add_sub_cancel_left, List.getElem?_map,
      hcell, Option.map_some]
  · rw [List.getElem?_append_right (by omega), hlength, Nat.add_sub_cancel_left,
      List.getElem?_map, hcell, Option.map_some]

/-- A row without columns and columns of another row fit each other in the end. A value that looks
like the next column, and the row that follows, move nothing. -/
theorem columns_and_row_of_toSql_eq_ok_outOfStep :
    let calls : List Call := [.values [.int 7], .columns ["a", "b"], .columns ["id"],
      .typeHint "n" .uint, .setTyped "n" (.text "a, b") .string, .setDocument "doc" .null,
      .values [.int 8, .null, .null]]
    let insert := (new "rt" false).applyAll calls
    (∀ columns, Call.columns columns ∉ setting calls) ∧
      insert.toSql (QuoteSettings.quoter ⟨true, true⟩) =
        .ok ("INSERT INTO \x60rt\x60 (\x60id\x60, \x60n\x60, \x60doc\x60) VALUES " ++
          "(7, 'a, b', 'null'), (8, NULL, 'null')") ∧
      ∃ row, insert.rows[0]? = some row ∧
        insert.columns[1]? = some "n" ∧ row[1]? = some (.text "a, b") ∧
        insert.columns[2]? = some "doc" ∧ row[2]? = some (.json .null) := by
  intro calls insert
  have hcolumns : ∀ columns, Call.columns columns ∉ setting calls := by
    intro columns hmem
    simp [calls, setting, Call.cell?] at hmem
  have haccepted : insert.toSql (QuoteSettings.quoter ⟨true, true⟩) =
      .ok ("INSERT INTO \x60rt\x60 (\x60id\x60, \x60n\x60, \x60doc\x60) VALUES " ++
        "(7, 'a, b', 'null'), (8, NULL, 'null')") := by
    unfold insert calls
    rfl
  obtain ⟨row, hrow, _, _, _, hplaces⟩ := columns_and_row_of_toSql_eq_ok rfl hcolumns haccepted
  obtain ⟨hnumber, hnumberValue⟩ := hplaces 0 "n" (.text "a, b") rfl
  obtain ⟨hdocument, hdocumentValue⟩ := hplaces 1 "doc" (.json .null) rfl
  exact ⟨hcolumns, haccepted, row, hrow, hnumber, hnumberValue, hdocument, hdocumentValue⟩

end SearchSql.Insert
