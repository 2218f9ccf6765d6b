import Mathlib.Data.List.Forall2
import SearchSql.Proofs.Insert.Calls
import SearchSql.Quoter.Settings

/-!
# Refused calls on INSERT and REPLACE

A single column cannot be set once there is more than one row: the statement records an error and
keeps its columns and rows. But a type that comes with the value is stated before the value is
refused, and it stays. The text without checks can show this if a value is written under the
column, unless the column had the type already.
-/

namespace SearchSql

section Joined

variable {separator : List Char} {texts others : List (List Char)}

/-- Joined texts have a length that depends on the lengths of the texts alone. -/
theorem length_intercalate_congr
    (h : List.Forall₂ (fun text other => text.length = other.length) texts others) :
    (separator.intercalate texts).length = (separator.intercalate others).length := by
  induction h with
  | nil => rfl
  | cons hhead htail ih =>
    cases htail with
    | nil => simpa using hhead
    | cons hnext hrest =>
      rw [List.intercalate_cons_cons, List.intercalate_cons_cons]
      simp only [List.length_append, hhead, ih]

/-- Texts of known lengths can be told apart after they are joined. -/
theorem eq_of_intercalate_eq
    (h : List.Forall₂ (fun text other => text.length = other.length) texts others)
    (heq : separator.intercalate texts = separator.intercalate others) : texts = others := by
  induction h with
  | nil => rfl
  | cons hhead htail ih =>
    cases htail with
    | nil => simpa using heq
    | cons hnext hrest =>
      rw [List.intercalate_cons_cons, List.intercalate_cons_cons] at heq
      obtain ⟨hleft, hright⟩ := List.append_inj heq (by simp only [List.length_append, hhead])
      obtain ⟨htext, -⟩ := List.append_inj hleft hhead
      rw [htext, ih hright]

end Joined

section Elements

variable {α : Type} {separator : String} {f g : α → String} {items : List α}

/-- Elements written in two ways with the same lengths, character by character. -/
theorem forall₂_length_toList (h : ∀ item ∈ items, (f item).length = (g item).length) :
    List.Forall₂ (fun text other => text.length = other.length)
      ((items.map f).map String.toList) ((items.map g).map String.toList) := by
  simp only [List.forall₂_map_left_iff, List.forall₂_map_right_iff, List.forall₂_same,
    String.length_toList]
  exact h

/-- The length of joined elements depends on the lengths of the elements alone. -/
theorem length_intercalate_map (h : ∀ item ∈ items, (f item).length = (g item).length) :
    (separator.intercalate (items.map f)).length =
      (separator.intercalate (items.map g)).length := by
  rw [← String.length_toList, ← String.length_toList, String.toList_intercalate,
    String.toList_intercalate]
  exact length_intercalate_congr (forall₂_length_toList h)

/-- Elements written with known lengths can be told apart after they are joined. -/
theorem eq_of_intercalate_map_eq (h : ∀ item ∈ items, (f item).length = (g item).length)
    (heq : separator.intercalate (items.map f) = separator.intercalate (items.map g)) :
    ∀ item ∈ items, f item = g item := by
  have hlists := congrArg String.toList heq
  rw [String.toList_intercalate, String.toList_intercalate] at hlists
  have htexts := eq_of_intercalate_eq (forall₂_length_toList h) hlists
  rw [List.map_map, List.map_map, List.map_inj_left] at htexts
  exact fun item hmem => String.toList_inj.1 (htexts item hmem)

end Elements

/-- A quoter that marks the values that are written under the given type, and writes every value
in one character. -/
def Quoter.marking (given : Option AttrType) : Quoter where
  quoteIdentifier name := name
  quoteString text := text
  quoteValue _ type := if type = given then "1" else "0"

namespace Quoter

/-- Whatever type a value is written under, a marking quoter writes one character. -/
theorem length_marking (given type : Option AttrType) (value : Value) :
    ((marking given).quoteValue value type).length = 1 := by
  change (if type = given then "1" else "0").length = 1
  split <;> rfl

/-- Only a value under the given type is marked. -/
theorem eq_of_marking {given type : Option AttrType} {value : Value}
    (h : (marking given).quoteValue value type = (marking given).quoteValue value given) :
    type = given := by
  by_contra hne
  change (if type = given then "1" else "0") = (if given = given then "1" else "0") at h
  rw [if_neg hne, if_pos rfl] at h
  exact absurd h (by decide)

end Quoter

/-- An error is recorded unless there is one already. -/
theorem firstError_error (recorded : Option QueryError) (e : QueryError) :
    firstError recorded (.error e) = recorded.or (some e) := by
  cases recorded <;> rfl

namespace Insert

/-! ### What a refused call leaves -/

/-- The error of a call that is refused. -/
def fault? (insert : Insert) : Call → Option QueryError
  | .columns _ | .values _ | .typeHint _ _ => none
  | .set _ _ | .setTyped _ _ _ | .setDocument _ _ =>
    if 1 < insert.rows.length then some (.argument .setOnManyRows) else none

/-- The errors of the calls that are refused, each where it stands, in order. -/
def faults (insert : Insert) : List Call → List QueryError
  | [] => []
  | call :: calls => (insert.fault? call).toList ++ faults (insert.apply call) calls

/-- The types after a call. -/
def Call.typesAfter (types : List (String × AttrType)) : Call → List (String × AttrType)
  | .columns _ | .values _ | .set _ _ => types
  | .setTyped column _ type | .typeHint column type => Keyed.set column type types
  | .setDocument column _ => Keyed.set column .json types

/-- With more than one row, setting a column does nothing but record an error. -/
theorem set_of_many (insert : Insert) (h : 1 < insert.rows.length) (column : String)
    (value : Value) :
    insert.set column value =
      { insert with error := insert.error.or (some (.argument .setOnManyRows)) } := by
  obtain ⟨index, replaces, columns, rows, types, error⟩ := insert
  match rows with
  | [] | [_] => exact absurd h (by simp)
  | first :: second :: rest => simp only [set, firstError_error]

/-- Setting a column records an error if there is more than one row, unless there is one. -/
theorem error_set (insert : Insert) (column : String) (value : Value) :
    (insert.set column value).error =
      insert.error.or
        (if 1 < insert.rows.length then some (.argument .setOnManyRows) else none) := by
  obtain ⟨index, replaces, columns, rows, types, error⟩ := insert
  match rows with
  | [] | [_] =>
    rw [if_neg (by simp), Option.or_none]
    rfl
  | first :: second :: rest =>
    rw [if_pos (by simp)]
    exact firstError_error error _

/-- A call records its error unless there is one already, and otherwise leaves the error. -/
theorem error_apply (insert : Insert) (call : Call) :
    (insert.apply call).error = insert.error.or (insert.fault? call) := by
  cases call with
  | columns _ | values _ | typeHint _ _ => exact (Option.or_none).symm
  | set column value => exact error_set insert column value
  | setTyped column value type => exact error_set (insert.typeHint column type) column value
  | setDocument column document =>
    exact error_set (insert.typeHint column .json) column (.json document)

/-- A refused call records its error and states its type, and does nothing else. -/
theorem apply_of_fault {insert : Insert} {call : Call} {e : QueryError}
    (h : insert.fault? call = some e) :
    insert.apply call =
      { insert with
        types := call.typesAfter insert.types
        error := insert.error.or (some e) } := by
  cases call with
  | columns _ | values _ | typeHint _ _ => cases h
  | set column value =>
    obtain ⟨hmany, ⟨⟩⟩ := Option.ite_none_right_eq_some.1 h
    exact set_of_many insert hmany column value
  | setTyped column value type =>
    obtain ⟨hmany, ⟨⟩⟩ := Option.ite_none_right_eq_some.1 h
    exact set_of_many (insert.typeHint column type) hmany column value
  | setDocument column document =>
    obtain ⟨hmany, ⟨⟩⟩ := Option.ite_none_right_eq_some.1 h
    exact set_of_many (insert.typeHint column .json) hmany column (.json document)

/-- The error recorded after calls is the one recorded before them, or else the first of theirs. -/
theorem error_applyAll (insert : Insert) (calls : List Call) :
    (insert.applyAll calls).error = insert.error.or (insert.faults calls).head? := by
  induction calls generalizing insert with
  | nil => exact (Option.or_none).symm
  | cons call calls ih =>
    have hrun : (insert.applyAll (call :: calls)).error =
        (insert.apply call).error.or ((insert.apply call).faults calls).head? := ih _
    rw [hrun, error_apply, Option.or_assoc, faults, List.head?_append, Option.head?_toList]

/-! ### What the text shows of the types -/

/-- A value is written under a column: in some row there is one at a place of the column. -/
def Writes (insert : Insert) (column : String) : Prop :=
  ∃ row ∈ insert.rows, ∃ value, (value, column) ∈ row.zip insert.columns

/-- Each value of a row is written under the type of the column at its place. -/
theorem rowSql_map (quoter : Quoter) (typeOf : String → Option AttrType) (columns : List String)
    (row : List Value) :
    rowSql quoter (columns.map typeOf) row =
      Quoting.listed
        ((row.zip columns).map fun cell => quoter.quoteValue cell.1 (typeOf cell.2)) := by
  unfold rowSql
  rw [List.zipWith_map_right, List.map_zip_eq_zipWith]
  rfl

/-- How long a marking quoter writes a row does not depend on the types of the columns. -/
theorem length_rowSql_marking (given : Option AttrType) (typeOf other : String → Option AttrType)
    (columns : List String) (row : List Value) :
    (rowSql (Quoter.marking given) (columns.map typeOf) row).length =
      (rowSql (Quoter.marking given) (columns.map other) row).length := by
  have hcells : ∀ cell ∈ row.zip columns,
      ((Quoter.marking given).quoteValue cell.1 (typeOf cell.2)).length =
        ((Quoter.marking given).quoteValue cell.1 (other cell.2)).length := by
    intro cell _
    rw [Quoter.length_marking, Quoter.length_marking]
  rw [rowSql_map, rowSql_map]
  unfold Quoting.listed
  rw [String.length_append, String.length_append, String.length_append, String.length_append,
    length_intercalate_map hcells]

/-- Every quoter writes the same after the types have changed exactly if no column that a value is
written under has another type. -/
theorem forall_sql_eq_iff (insert : Insert) (types : List (String × AttrType))
    (error : Option QueryError) :
    (∀ quoter, ({ insert with types := types, error := error } : Insert).sql quoter =
        insert.sql quoter) ↔
      ∀ column, insert.Writes column → Keyed.get? column types = insert.typeOf column := by
  constructor
  · rintro h column ⟨row, hrow, value, hcell⟩
    -- The quoter that marks the old type would show any other one at the place of the value.
    have hrows := (String.append_right_inj _).1 (h (Quoter.marking (insert.typeOf column)))
    have hsame := eq_of_intercalate_map_eq
      (fun row _ => length_rowSql_marking _ _ _ insert.columns row) hrows row hrow
    rw [rowSql_map, rowSql_map] at hsame
    have hcells := (String.append_right_inj _).1 ((String.append_left_inj _).1 hsame)
    have hmark := eq_of_intercalate_map_eq
      (fun cell _ => by rw [Quoter.length_marking, Quoter.length_marking]) hcells _ hcell
    exact Quoter.eq_of_marking hmark
  · intro h quoter
    refine congrArg (_ ++ ", ".intercalate ·) (List.map_congr_left fun row hrow => ?_)
    rw [rowSql_map, rowSql_map]
    refine congrArg Quoting.listed (List.map_congr_left fun cell hcell => ?_)
    exact congrArg (quoter.quoteValue cell.1) (h cell.2 ⟨row, hrow, cell.1, hcell⟩)

/-- After a refused call every quoter writes what it wrote before exactly if each column that a
value is written under had the type that the call states for it. -/
theorem forall_sql_apply_iff {insert : Insert} {call : Call} {e : QueryError}
    (h : insert.fault? call = some e) :
    (∀ quoter, (insert.apply call).sql quoter = insert.sql quoter) ↔
      ∀ column type, call.statedType? column = some type → insert.Writes column →
        insert.typeOf column = some type := by
  have htypes : ∀ column, Keyed.get? column (call.typesAfter insert.types) =
      (call.statedType? column).or (insert.typeOf column) := by
    intro column
    rw [← typeOf_apply, apply_of_fault h]
    rfl
  rw [apply_of_fault h, forall_sql_eq_iff]
  constructor
  · intro hsame column type hstated hwrites
    rw [← hsame column hwrites, htypes, hstated, Option.some_or]
  · intro hsame column hwrites
    rw [htypes]
    cases hstated : call.statedType? column with
    | none => exact Option.none_or
    | some type => rw [hsame column type hstated hwrites, Option.some_or]

/-- A refused call leaves everything but the recorded error and the types, where the type that it
states stays. So the text may change: every quoter writes what it wrote before exactly if each
column that a value is written under had the stated type already. Of all errors the first one is
recorded. -/
theorem apply_of_refused {insert : Insert} {call : Call} {e : QueryError}
    (h : insert.fault? call = some e) :
    insert.apply call =
        { insert with
          types := call.typesAfter insert.types
          error := insert.error.or (some e) } ∧
      ((∀ quoter, (insert.apply call).sql quoter = insert.sql quoter) ↔
        ∀ column type, call.statedType? column = some type → insert.Writes column →
          insert.typeOf column = some type) ∧
      ∀ (start : Insert) (calls : List Call),
        (start.applyAll calls).error = start.error.or (start.faults calls).head? :=
  ⟨apply_of_fault h, forall_sql_apply_iff h, error_applyAll⟩

/-- A column that has the type already shows nothing of the refused call. -/
theorem apply_of_refused_sameType :
    let insert := (new "rt" false).applyAll
      [.columns ["a"], .typeHint "a" .string, .values [.uint 1], .values [.uint 2]]
    let call := Call.setTyped "a" (.uint 3) .string
    insert.fault? call = some (.argument .setOnManyRows) ∧
      (insert.apply call).error = some (.argument .setOnManyRows) ∧
      ∀ quoter, (insert.apply call).sql quoter = insert.sql quoter := by
  intro insert call
  have hfault : insert.fault? call = some (.argument .setOnManyRows) := rfl
  obtain ⟨hleft, htext, -⟩ := apply_of_refused hfault
  refine ⟨hfault, by rw [hleft]; rfl, htext.2 fun column type hstated _ => ?_⟩
  obtain ⟨rfl, ⟨⟩⟩ := Option.ite_none_right_eq_some.1 hstated
  rfl

/-- The type of a refused value stays, and the values of both rows are written under it. -/
theorem sql_apply_setTyped_refused :
    let insert := (new "rt" false).applyAll
      [.columns ["a"], .values [.uint 1], .values [.uint 2]]
    let call := Call.setTyped "a" (.uint 3) .string
    insert.fault? call = some (.argument .setOnManyRows) ∧
      insert.types = [] ∧ (insert.apply call).types = [("a", .string)] ∧
      insert.sql (QuoteSettings.quoter ⟨true, true⟩) =
        "INSERT INTO \x60rt\x60 (\x60a\x60) VALUES (1), (2)" ∧
      (insert.apply call).sql (QuoteSettings.quoter ⟨true, true⟩) =
        "INSERT INTO \x60rt\x60 (\x60a\x60) VALUES ('1'), ('2')" :=
  ⟨rfl, rfl, rfl, rfl, rfl⟩

end Insert

end SearchSql
