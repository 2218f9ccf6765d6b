import SearchSql.Statement.Insert

/-!
# What calls leave of an INSERT or REPLACE

Calls never change the index or the kind of the statement. The type of a column is the one that the
last call about it states, wherever the other calls stand.
-/

namespace SearchSql.Insert

/-- The type that a call states for a column. -/
def Call.statedType? (column : String) : Call → Option AttrType
  | .columns _ | .values _ | .set _ _ => none
  | .setTyped stated _ type => if stated = column then some type else none
  | .setDocument stated _ => if stated = column then some .json else none
  | .typeHint stated type => if stated = column then some type else none

/-- The type that is stated last for a column. -/
def lastStated? (column : String) (calls : List Call) : Option AttrType :=
  (calls.filterMap (Call.statedType? column)).getLast?

/-- Setting a column changes neither the index, nor the kind, nor any stated type. -/
theorem set_frame (insert : Insert) (column : String) (value : Value) :
    (insert.set column value).index = insert.index ∧
      (insert.set column value).replaces = insert.replaces ∧
      (insert.set column value).types = insert.types := by
  unfold set
  split <;> exact ⟨rfl, rfl, rfl⟩

/-- A stated type is the type of its column, and of no other one. -/
theorem typeOf_typeHint (insert : Insert) (stated column : String) (type : AttrType) :
    (insert.typeHint stated type).typeOf column =
      (if stated = column then some type else none).or (insert.typeOf column) := by
  unfold typeHint typeOf
  by_cases h : stated = column
  · rw [h, if_pos rfl, Keyed.get?_set_self, Option.some_or]
  · rw [if_neg h, Keyed.get?_set_of_ne (Ne.symm h), Option.none_or]

/-- Setting a column leaves the types of all columns as they are. -/
theorem typeOf_set (insert : Insert) (set column : String) (value : Value) :
    (insert.set set value).typeOf column = insert.typeOf column := by
  unfold typeOf
  rw [(set_frame insert set value).2.2]

/-- After a call a column has the type that the call states, or else the type it had. -/
theorem typeOf_apply (insert : Insert) (call : Call) (column : String) :
    (insert.apply call).typeOf column =
      (call.statedType? column).or (insert.typeOf column) := by
  cases call with
  | columns columns => rfl
  | values row => rfl
  | set set value => exact typeOf_set insert set column value
  | setTyped set value type =>
    rw [apply, setTyped, typeOf_set, typeOf_typeHint]
    rfl
  | setDocument set document =>
    rw [apply, setDocument, setTyped, typeOf_set, typeOf_typeHint]
    rfl
  | typeHint stated type =>
    rw [apply, typeOf_typeHint]
    rfl

/-- After calls a column has the type stated last for it, or else the type it had. -/
theorem typeOf_applyAll (insert : Insert) (calls : List Call) (column : String) :
    (insert.applyAll calls).typeOf column =
      (lastStated? column calls).or (insert.typeOf column) := by
  induction calls generalizing insert with
  | nil => rfl
  | cons call calls ih =>
    have hrun : (insert.applyAll (call :: calls)).typeOf column =
        (lastStated? column calls).or ((insert.apply call).typeOf column) := ih (insert.apply call)
    rw [hrun, typeOf_apply, ← Option.or_assoc]
    congr 1
    unfold lastStated?
    rw [List.filterMap_cons]
    cases call.statedType? column with
    | none => rw [Option.or_none]
    | some type => rw [List.getLast?_cons, Option.or_some]

/-- A column keeps its type as long as no call states one for it. -/
theorem typeOf_applyAll_of_forall {column : String} {calls : List Call}
    (h : ∀ call ∈ calls, call.statedType? column = none) (insert : Insert) :
    (insert.applyAll calls).typeOf column = insert.typeOf column := by
  have hnone : lastStated? column calls = none := by
    unfold lastStated?
    rw [List.filterMap_eq_nil_iff.mpr h, List.getLast?_nil]
  rw [typeOf_applyAll, hnone, Option.none_or]

/-- A column that is set under a type has this type. -/
theorem typeOf_setTyped (insert : Insert) (column : String) (value : Value) (type : AttrType) :
    (insert.setTyped column value type).typeOf column = some type := by
  unfold setTyped
  rw [typeOf_set, typeOf_typeHint, if_pos rfl, Option.some_or]

/-- No call changes the index or the kind of the statement. -/
theorem apply_frame (insert : Insert) (call : Call) :
    (insert.apply call).index = insert.index ∧
      (insert.apply call).replaces = insert.replaces := by
  cases call with
  | columns columns => exact ⟨rfl, rfl⟩
  | values row => exact ⟨rfl, rfl⟩
  | set column value =>
    exact ⟨(set_frame insert column value).1, (set_frame insert column value).2.1⟩
  | setTyped column value type =>
    have hframe := set_frame (insert.typeHint column type) column value
    exact ⟨hframe.1, hframe.2.1⟩
  | setDocument column document =>
    have hframe := set_frame (insert.typeHint column .json) column (.json document)
    exact ⟨hframe.1, hframe.2.1⟩
  | typeHint column type => exact ⟨rfl, rfl⟩

/-- No sequence of calls changes the index or the kind of the statement. -/
theorem applyAll_frame (insert : Insert) (calls : List Call) :
    (insert.applyAll calls).index = insert.index ∧
      (insert.applyAll calls).replaces = insert.replaces := by
  induction calls generalizing insert with
  | nil => exact ⟨rfl, rfl⟩
  | cons call calls ih =>
    obtain ⟨hindex, hreplaces⟩ := ih (insert.apply call)
    obtain ⟨hfirst, hfirstReplaces⟩ := apply_frame insert call
    exact ⟨hindex.trans hfirst, hreplaces.trans hfirstReplaces⟩

end SearchSql.Insert
