import SearchSql.Proofs.AllOrNothing
import SearchSql.Statement

/-!
# The first error

The calls that put a statement together never fail by themselves: the statement remembers the
error of the first call that went wrong and goes on. Apart from that error it is what the other
calls make, as if those that failed had never been made.

What is true of one call is stated as the laws of a recorder, and what is true of many follows for
every recorder by induction over the calls.
-/

namespace SearchSql

/-- The error of an operation that failed. -/
def Outcome.error? {σ : Type} (outcome : Outcome σ) : Option QueryError :=
  match outcome.result with
  | .ok () => none
  | .error e => some e

/-- An operation with an error has failed. -/
theorem Outcome.result_eq_of_error? {σ : Type} {outcome : Outcome σ} {e : QueryError}
    (h : outcome.error? = some e) : outcome.result = .error e := by
  unfold error? at h
  cases hresult : outcome.result with
  | ok done =>
    rw [hresult] at h
    cases h
  | error fault =>
    rw [hresult] at h
    rw [Option.some.inj h]

/-- The error of an operation is recorded if there is none before it. -/
theorem firstError_eq_or {σ : Type} (recorded : Option QueryError) (outcome : Outcome σ) :
    firstError recorded outcome.result = recorded.or outcome.error? := by
  unfold Outcome.error?
  cases recorded with
  | some e => rfl
  | none =>
    cases outcome.result with
    | ok done => rfl
    | error e => rfl

/-- Something that calls put together and that records an error of theirs. Calls look neither at
the recorded error nor beyond it, and a call that fails changes nothing else. -/
structure Recorder (σ κ : Type) where
  /-- What a call leaves. -/
  apply : σ → κ → σ
  /-- The error of a call that fails where it stands. -/
  fault? : σ → κ → Option QueryError
  /-- The recorded error. -/
  error : σ → Option QueryError
  /-- Everything but the recorded error. -/
  clear : σ → σ
  /-- The error of a call is recorded unless there is one. -/
  error_apply : ∀ state call, error (apply state call) = (error state).or (fault? state call)
  /-- A call that fails changes nothing but the recorded error. -/
  clear_apply_of_fault : ∀ {state call e}, fault? state call = some e →
    clear (apply state call) = clear state
  /-- What a call leaves does not depend on the recorded error. -/
  clear_apply : ∀ state call, clear (apply (clear state) call) = clear (apply state call)
  /-- Whether a call fails does not depend on the recorded error. -/
  fault?_clear : ∀ state call, fault? (clear state) call = fault? state call
  /-- Without an error there is nothing to clear. -/
  clear_of_error : ∀ {state}, error state = none → clear state = state

namespace Recorder

variable {σ κ : Type} (recorder : Recorder σ κ)

/-- The errors of the calls that fail, each where it stands, in order. -/
def faults (state : σ) : List κ → List QueryError
  | [] => []
  | call :: calls =>
    (recorder.fault? state call).toList ++ faults (recorder.apply state call) calls

/-- The calls without those that fail where they stand. -/
def succeeding (state : σ) : List κ → List κ
  | [] => []
  | call :: calls =>
    match recorder.fault? state call with
    | none => call :: succeeding (recorder.apply state call) calls
    | some _ => succeeding (recorder.apply state call) calls

/-- The recorded error is the one that was there, or else the first error of the calls. -/
theorem error_foldl (state : σ) (calls : List κ) :
    recorder.error (calls.foldl recorder.apply state) =
      (recorder.error state).or (recorder.faults state calls).head? := by
  induction calls generalizing state with
  | nil => simp [faults]
  | cons call calls ih =>
    rw [List.foldl_cons, ih, recorder.error_apply, Option.or_assoc, faults, List.head?_append,
      Option.head?_toList]

/-- What calls leave does not depend on the error recorded before them. -/
theorem clear_foldl_congr {state other : σ} (h : recorder.clear state = recorder.clear other)
    (calls : List κ) :
    recorder.clear (calls.foldl recorder.apply state) =
      recorder.clear (calls.foldl recorder.apply other) := by
  induction calls generalizing state other with
  | nil => exact h
  | cons call calls ih =>
    rw [List.foldl_cons, List.foldl_cons]
    apply ih
    rw [← recorder.clear_apply state, ← recorder.clear_apply other, h]

/-- Which calls fail does not depend on the error recorded before them. -/
theorem faults_congr {state other : σ} (h : recorder.clear state = recorder.clear other)
    (calls : List κ) : recorder.faults state calls = recorder.faults other calls := by
  induction calls generalizing state other with
  | nil => rfl
  | cons call calls ih =>
    have hfault : recorder.fault? state call = recorder.fault? other call := by
      rw [← recorder.fault?_clear state, ← recorder.fault?_clear other, h]
    have hnext : recorder.clear (recorder.apply state call) =
        recorder.clear (recorder.apply other call) := by
      rw [← recorder.clear_apply state, ← recorder.clear_apply other, h]
    rw [faults, faults, hfault, ih hnext]

/-- Apart from the recorded error, calls leave what those of them leave that succeed. -/
theorem clear_foldl_succeeding (state : σ) (calls : List κ) :
    recorder.clear (calls.foldl recorder.apply state) =
      recorder.clear ((recorder.succeeding state calls).foldl recorder.apply state) := by
  induction calls generalizing state with
  | nil => rfl
  | cons call calls ih =>
    rw [List.foldl_cons, ih, succeeding]
    cases hfault : recorder.fault? state call with
    | none => rfl
    | some e =>
      -- Without the call, the others start from a state that differs in the recorded error alone.
      exact recorder.clear_foldl_congr (recorder.clear_apply_of_fault hfault) _

/-- None of the calls that succeed fails once the others are gone. -/
theorem faults_succeeding (state : σ) (calls : List κ) :
    recorder.faults state (recorder.succeeding state calls) = [] := by
  induction calls generalizing state with
  | nil => rfl
  | cons call calls ih =>
    rw [succeeding]
    cases hfault : recorder.fault? state call with
    | none => simp [faults, hfault, ih]
    | some e =>
      have hclear := recorder.clear_apply_of_fault hfault
      exact (recorder.faults_congr hclear.symm _).trans (ih _)

/-- Calls on something without an error leave, apart from the error, exactly what those of them
leave that succeed. -/
theorem clear_foldl_eq {state : σ} (hstate : recorder.error state = none) (calls : List κ) :
    recorder.clear (calls.foldl recorder.apply state) =
      (recorder.succeeding state calls).foldl recorder.apply state := by
  rw [clear_foldl_succeeding, recorder.clear_of_error]
  rw [error_foldl, faults_succeeding, hstate]
  rfl

end Recorder

/-- A call that fails leaves the clause that it restricts as it was. -/
theorem Filter.state_applyTo_of_error? {filter : Filter} {clause : Clause} {e : QueryError}
    (h : (filter.applyTo clause).error? = some e) : (filter.applyTo clause).state = clause := by
  have hresult := Outcome.result_eq_of_error? h
  cases filter with
  | request given =>
    rw [applyTo, make_eq_pushBuilt] at hresult ⊢
    cases hbuilt : given.build with
    | ok condition =>
      rw [hbuilt] at hresult
      cases hresult
    | error e => rfl
  | input given => exact (clause.allOrNothing_add given).state_eq hresult

namespace Select

/-- The error of a call that fails where it stands. -/
def fault? (select : Select) : Call → Option QueryError
  | .filter call => (call.applyTo select.filter).error?
  | .having input => (select.having.add input).error?
  | _ => none

/-- A search records the first error of the calls that restrict its documents or its groups. -/
def recorder : Recorder Select Call where
  apply := apply
  fault? := fault?
  error := error
  clear select := { select with error := none }
  error_apply select call := by
    cases call with
    | filter call => exact firstError_eq_or _ _
    | having input => exact firstError_eq_or _ _
    | _ => exact (Option.or_none).symm
  clear_apply_of_fault {select call e} h := by
    cases call with
    | filter call =>
      simp only [apply, applyFilter, Filter.state_applyTo_of_error? h]
    | having input =>
      have hstate := (select.having.allOrNothing_add input).state_eq (Outcome.result_eq_of_error? h)
      simp only [apply, applyHaving, hstate]
    | _ => cases h
  clear_apply select call := by
    cases call <;> rfl
  fault?_clear select call := by
    cases call <;> rfl
  clear_of_error {select} h := by
    rw [← h]

end Select

namespace Update

/-- The error of a call that fails where it stands. -/
def fault? (update : Update) : Call → Option QueryError
  | .filter call => (call.applyTo update.filter).error?
  | _ => none

/-- A change records the first error of the calls that restrict it. -/
def recorder : Recorder Update Call where
  apply := apply
  fault? := fault?
  error := error
  clear update := { update with error := none }
  error_apply update call := by
    cases call with
    | filter call => exact firstError_eq_or _ _
    | _ => exact (Option.or_none).symm
  clear_apply_of_fault {update call e} h := by
    cases call with
    | filter call => simp only [apply, applyFilter, Filter.state_applyTo_of_error? h]
    | _ => cases h
  clear_apply update call := by
    cases call <;> rfl
  fault?_clear update call := by
    cases call <;> rfl
  clear_of_error {update} h := by
    rw [← h]

end Update

/-- A removal records the first error of its calls. -/
def Delete.recorder : Recorder Delete Filter where
  apply := apply
  fault? delete call := (call.applyTo delete.filter).error?
  error := error
  clear delete := { delete with error := none }
  error_apply delete call := firstError_eq_or _ _
  clear_apply_of_fault {delete call e} h := by
    simp only [apply, Filter.state_applyTo_of_error? h]
  clear_apply delete call := rfl
  fault?_clear delete call := rfl
  clear_of_error {delete} h := by
    rw [← h]

/-- A statement that can be restricted, as the calls in order that put it together. -/
inductive Draft where
  /-- A SELECT statement. -/
  | select (index : String) (calls : List Select.Call)
  /-- An UPDATE statement. -/
  | update (index : String) (calls : List Update.Call)
  /-- A DELETE statement. -/
  | delete (index : String) (calls : List Filter)

namespace Draft

/-- The statement that the calls put together. -/
def statement : Draft → Statement
  | .select index calls => .select ((Select.new index).applyAll calls)
  | .update index calls => .update ((Update.new index).applyAll calls)
  | .delete index calls => .delete ((Delete.new index).applyAll calls)

/-- The errors of the calls that fail, each where it stands, in order. -/
def faults : Draft → List QueryError
  | .select index calls => Select.recorder.faults (.new index) calls
  | .update index calls => Update.recorder.faults (.new index) calls
  | .delete index calls => Delete.recorder.faults (.new index) calls

/-- The draft without the calls that fail. -/
def succeeding : Draft → Draft
  | .select index calls => .select index (Select.recorder.succeeding (.new index) calls)
  | .update index calls => .update index (Update.recorder.succeeding (.new index) calls)
  | .delete index calls => .delete index (Delete.recorder.succeeding (.new index) calls)

end Draft

/-- A statement without its recorded error. -/
def Statement.clear : Statement → Statement
  | .select given => .select { given with error := none }
  | .insert given => .insert { given with error := none }
  | .update given => .update { given with error := none }
  | .delete given => .delete { given with error := none }

/-- The recorded error is the first error of the calls. -/
theorem Draft.error_statement (draft : Draft) : draft.statement.error = draft.faults.head? := by
  cases draft with
  | select index calls => exact Select.recorder.error_foldl (.new index) calls
  | update index calls => exact Update.recorder.error_foldl (.new index) calls
  | delete index calls => exact Delete.recorder.error_foldl (.new index) calls

/-- Apart from the recorded error, a statement is what those of its calls make that succeed. -/
theorem Draft.clear_statement (draft : Draft) :
    draft.statement.clear = draft.succeeding.statement := by
  cases draft with
  | select index calls =>
    exact congrArg Statement.select (Select.recorder.clear_foldl_eq rfl calls)
  | update index calls =>
    exact congrArg Statement.update (Update.recorder.clear_foldl_eq rfl calls)
  | delete index calls =>
    exact congrArg Statement.delete (Delete.recorder.clear_foldl_eq rfl calls)

/-- A statement is what those of its calls make that succeed, together with the first error of the
others. Its text is refused for that error, also if the statement does not pass its check, and
otherwise for the error of the check. -/
theorem Draft.statement_firstError (draft : Draft) :
    draft.statement.clear = draft.succeeding.statement ∧
      draft.statement.error = draft.faults.head? ∧
      ∀ quoter, draft.statement.toSql quoter =
        match draft.faults.head?, draft.statement.validate with
        | some e, _ => .error e
        | none, .error e => .error e
        | none, .ok () => .ok (draft.statement.sql quoter) := by
  refine ⟨draft.clear_statement, draft.error_statement, fun quoter => ?_⟩
  rw [← draft.error_statement]
  rfl

/-- The error of a condition on groups comes first here, and the good entry of a mapping with a bad
one leaves nothing. -/
example :
    (Draft.select "rt"
        [.having (.mapping (Mapping.empty.set "n" (.uint 1) |>.set "m" (.list []))),
          .filter (.request (.operator (.text "a") "~" .null)),
          .filter (.request (.literal "b"))]).statement =
      .select { Select.new "rt" with
        filter := ⟨⟨[.literal "b"]⟩⟩
        error := some (.argument (.emptyList "IN" "m")) } :=
  rfl

end SearchSql
