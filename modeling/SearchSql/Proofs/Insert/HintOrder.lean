import SearchSql.Proofs.Insert.Refused

/-!
# Where types are stated

Columns, rows and errors of an INSERT or REPLACE come about as if no type were ever stated. The
types are looked up when the text is written, and then a column has the type stated last for it.
So it does not matter where a type is stated among the other calls, as long as the last call about
each column stays the last.
-/

namespace SearchSql.Insert

/-- The column of a call that does nothing but state a type. -/
def Call.hintedColumn? : Call → Option String
  | .typeHint column _ => some column
  | .columns _ | .values _ | .set _ _ | .setTyped _ _ _ | .setDocument _ _ => none

/-- The calls that are no type hints. -/
def unhinted (calls : List Call) : List Call :=
  calls.filter fun call => call.hintedColumn?.isNone

/-- The calls that state a type for a column, whether they do more than that or not. -/
def stating (column : String) (calls : List Call) : List Call :=
  calls.filter fun call => (call.statedType? column).isSome

/-- The same calls with type hints at other places. All other calls stay in their order, and so do
the calls that state a type for one and the same column. -/
structure HintsMoved (calls others : List Call) : Prop where
  /-- The calls that are no type hints stay in their order. -/
  unhinted_eq : unhinted calls = unhinted others
  /-- The calls about the type of a column stay in their order. -/
  stating_eq : ∀ column, stating column calls = stating column others

/-! ### Without types -/

/-- A statement without the types of its columns. -/
def untyped (insert : Insert) : Insert := { insert with types := [] }

/-- What is set does not depend on the types. -/
theorem untyped_set (insert : Insert) (column : String) (value : Value) :
    (insert.set column value).untyped = (insert.untyped.set column value).untyped := by
  obtain ⟨index, replaces, columns, rows, types, error⟩ := insert
  match rows with
  | [] => rfl
  | [_] => rfl
  | _ :: _ :: _ => rfl

/-- What a call does apart from types does not depend on them. -/
theorem untyped_apply (insert : Insert) (call : Call) :
    (insert.apply call).untyped = (insert.untyped.apply call).untyped := by
  -- A type that is stated on the way to a value is forgotten in the end.
  have hset (types others : List (String × AttrType)) (column : String) (value : Value) :
      (({ insert with types := types } : Insert).set column value).untyped =
        (({ insert with types := others } : Insert).set column value).untyped := by
    rw [untyped_set, untyped_set { insert with types := others }]
    rfl
  cases call with
  | columns columns => rfl
  | values row => rfl
  | set column value => exact untyped_set insert column value
  | setTyped column value type => exact hset _ _ column value
  | setDocument column document => exact hset _ _ column (.json document)
  | typeHint column type => rfl

/-- A type hint does nothing apart from types. -/
theorem untyped_apply_of_hint (insert : Insert) {call : Call} (h : call.hintedColumn?.isSome) :
    (insert.apply call).untyped = insert.untyped := by
  cases call with
  | typeHint column type => rfl
  | _ => exact absurd h Bool.false_ne_true

/-- Calls on statements that differ in their types alone leave such statements. -/
theorem untyped_applyAll_congr {first second : Insert} (h : first.untyped = second.untyped)
    (calls : List Call) :
    (first.applyAll calls).untyped = (second.applyAll calls).untyped := by
  induction calls generalizing first second with
  | nil => exact h
  | cons call calls ih =>
    apply ih
    rw [untyped_apply, h, ← untyped_apply]

/-- Apart from types, calls do what those do that are no type hints. -/
theorem untyped_applyAll_unhinted (insert : Insert) (calls : List Call) :
    (insert.applyAll (unhinted calls)).untyped = (insert.applyAll calls).untyped := by
  induction calls generalizing insert with
  | nil => rfl
  | cons call calls ih =>
    cases hhint : call.hintedColumn? with
    | none =>
      have hkept : unhinted (call :: calls) = call :: unhinted calls :=
        List.filter_cons_of_pos (by rw [hhint]; rfl)
      rw [hkept]
      exact ih (insert.apply call)
    | some column =>
      have hdropped : unhinted (call :: calls) = unhinted calls :=
        List.filter_cons_of_neg (by rw [hhint]; exact Bool.false_ne_true)
      have hsame : (insert.apply call).untyped = insert.untyped :=
        untyped_apply_of_hint insert (by rw [hhint]; rfl)
      rw [hdropped]
      exact (ih insert).trans (untyped_applyAll_congr hsame calls).symm

/-- Calls that are the same but for type hints do the same apart from types. -/
theorem untyped_applyAll_of_unhinted_eq (insert : Insert) {calls others : List Call}
    (h : unhinted calls = unhinted others) :
    (insert.applyAll calls).untyped = (insert.applyAll others).untyped := by
  rw [← untyped_applyAll_unhinted, h, untyped_applyAll_unhinted]

/-! ### The last statement of a type -/

/-- Only the calls about the type of a column can be the last one about it. -/
theorem lastStated?_stating (column : String) (calls : List Call) :
    lastStated? column (stating column calls) = lastStated? column calls := by
  unfold lastStated? stating
  rw [List.filterMap_filter]
  congr 2
  funext call
  cases call.statedType? column <;> rfl

/-- Calls with the same calls about the type of a column leave it with the same type. -/
theorem typeOf_applyAll_of_stating_eq (insert : Insert) {calls others : List Call} {column : String}
    (h : stating column calls = stating column others) :
    (insert.applyAll calls).typeOf column = (insert.applyAll others).typeOf column := by
  rw [typeOf_applyAll, typeOf_applyAll, ← lastStated?_stating, h, lastStated?_stating]

/-! ### Hints for listed columns -/

/-- Calls without the type hints for columns that are not listed. -/
def listedHints (columns : List String) (calls : List Call) : List Call :=
  calls.filter fun call => call.hintedColumn?.all (· ∈ columns)

/-- Every call that is no type hint is kept. -/
theorem unhinted_listedHints (columns : List String) (calls : List Call) :
    unhinted (listedHints columns calls) = unhinted calls := by
  unfold unhinted listedHints
  rw [List.filter_filter]
  apply List.filter_congr
  intro call _
  cases call.hintedColumn? <;> simp

/-- Every call about the type of a listed column is kept. -/
theorem stating_listedHints {columns : List String} {column : String}
    (hcolumn : column ∈ columns) (calls : List Call) :
    stating column (listedHints columns calls) = stating column calls := by
  unfold stating listedHints
  rw [List.filter_filter]
  apply List.filter_congr
  intro call _
  cases call with
  | typeHint stated type =>
    by_cases hstated : stated = column
    · simp [Call.hintedColumn?, hstated, hcolumn]
    · simp [Call.statedType?, hstated]
  | _ => simp [Call.hintedColumn?]

/-! ### The text -/

/-- Statements that differ in their types alone have the same text and pass the same check, if the
types of their columns are the same. -/
theorem sql_toSql_of_untyped_eq {first second : Insert} (h : first.untyped = second.untyped)
    (htypes : ∀ column ∈ first.columns, second.typeOf column = first.typeOf column)
    (quoter : Quoter) :
    second.sql quoter = first.sql quoter ∧ second.toSql quoter = first.toSql quoter := by
  have hsecond : second = { first with types := second.types, error := first.error } := by
    obtain ⟨index, replaces, columns, rows, types, error⟩ := first
    obtain ⟨_, _, _, _, others, _⟩ := second
    cases h
    rfl
  have hsql : second.sql quoter = first.sql quoter := by
    rw [hsecond]
    refine (forall_sql_eq_iff first second.types first.error).mpr ?_ quoter
    rintro column ⟨row, _, value, hcell⟩
    exact htypes column (List.of_mem_zip hcell).2
  refine ⟨hsql, ?_⟩
  unfold toSql
  rw [hsql, hsecond]
  rfl

/-- The text of a statement by its cells, each written under the type stated last for the name of
its column. -/
theorem sql_applyAll_new (index : String) (replaces : Bool) (calls : List Call) (quoter : Quoter) :
    let insert := (new index replaces).applyAll calls
    insert.sql quoter =
      insert.keyword.text ++ " INTO " ++ quoter.quoteIdentifier index ++
        " (" ++ quoter.quoteIdentifierList insert.columns ++ ") VALUES " ++
        ", ".intercalate (insert.rows.map fun row =>
          Quoting.listed ((row.zip insert.columns).map fun cell =>
            quoter.quoteValue cell.1 (lastStated? cell.2 calls))) := by
  intro insert
  have hindex : insert.index = index := (applyAll_frame (new index replaces) calls).1
  have htypes : insert.typeOf = fun column => lastStated? column calls :=
    funext fun column => (typeOf_applyAll _ calls column).trans Option.or_none
  have hrows (row : List Value) :
      rowSql quoter (insert.columns.map insert.typeOf) row =
        Quoting.listed ((row.zip insert.columns).map fun cell =>
          quoter.quoteValue cell.1 (lastStated? cell.2 calls)) := by
    rw [htypes, rowSql_map]
  unfold sql
  dsimp only
  rw [hindex, List.map_congr_left fun row _ => hrows row]

/-- It does not matter where types are stated. Type hints can be moved anywhere among the other
calls, as long as the calls about the type of each column stay in their order, and every quoter
gives the same text, with and without checks. Each cell is written under the type that is stated
last for the name of its column, or without a type if none is. Hints for names that are not among
the columns do nothing. -/
theorem sql_toSql_of_hintsMoved (index : String) (replaces : Bool) (calls : List Call) :
    let insert := (new index replaces).applyAll calls
    (∀ others, HintsMoved calls others → ∀ quoter,
        ((new index replaces).applyAll others).sql quoter = insert.sql quoter ∧
          ((new index replaces).applyAll others).toSql quoter = insert.toSql quoter) ∧
      (∀ quoter, insert.sql quoter =
        insert.keyword.text ++ " INTO " ++ quoter.quoteIdentifier index ++
          " (" ++ quoter.quoteIdentifierList insert.columns ++ ") VALUES " ++
          ", ".intercalate (insert.rows.map fun row =>
            Quoting.listed ((row.zip insert.columns).map fun cell =>
              quoter.quoteValue cell.1 (lastStated? cell.2 calls)))) ∧
      ∀ quoter,
        let listed := (new index replaces).applyAll (listedHints insert.columns calls)
        listed.sql quoter = insert.sql quoter ∧ listed.toSql quoter = insert.toSql quoter := by
  intro insert
  refine ⟨fun others hmoved quoter => ?_, sql_applyAll_new index replaces calls, fun quoter => ?_⟩
  · apply sql_toSql_of_untyped_eq
    · exact untyped_applyAll_of_unhinted_eq _ hmoved.unhinted_eq
    · intro column _
      exact typeOf_applyAll_of_stating_eq _ (hmoved.stating_eq column).symm
  · apply sql_toSql_of_untyped_eq
    · exact untyped_applyAll_of_unhinted_eq _ (unhinted_listedHints _ calls).symm
    · intro column hcolumn
      exact typeOf_applyAll_of_stating_eq _ (stating_listedHints hcolumn calls)

/-- Hints move past values and past hints for other names. The last one for a column holds, not the
type that came with its value. -/
theorem sql_toSql_of_hintsMoved_bothEnds :
    let calls : List Call := [.setTyped "n" (.text "7x") .json, .typeHint "n" .bool,
      .typeHint "tags" .mva, .set "tags" (.int 3), .typeHint "n" .bigint, .typeHint "other" .uint]
    let others : List Call := [.typeHint "other" .uint, .typeHint "tags" .mva,
      .setTyped "n" (.text "7x") .json, .set "tags" (.int 3), .typeHint "n" .bool,
      .typeHint "n" .bigint]
    HintsMoved calls others ∧
      ((new "rt" true).applyAll calls).toSql (QuoteSettings.quoter ⟨true, true⟩) =
        .ok "REPLACE INTO \x60rt\x60 (\x60n\x60, \x60tags\x60) VALUES (7, (3))" ∧
      ((new "rt" true).applyAll others).toSql (QuoteSettings.quoter ⟨true, true⟩) =
        ((new "rt" true).applyAll calls).toSql (QuoteSettings.quoter ⟨true, true⟩) := by
  intro calls others
  have hmoved : HintsMoved calls others := by
    refine ⟨rfl, fun column => ?_⟩
    unfold calls others
    by_cases hnumber : "n" = column
    · subst hnumber
      rfl
    · by_cases htags : "tags" = column
      · subst htags
        rfl
      · by_cases hother : "other" = column
        · subst hother
          rfl
        · simp [stating, Call.statedType?, hnumber, htags, hother]
  refine ⟨hmoved, ?_, ((sql_toSql_of_hintsMoved "rt" true calls).1 others hmoved _).2⟩
  unfold calls
  rfl

end SearchSql.Insert
