import SearchSql.Proofs.Accepted
import SearchSql.Proofs.FirstError

/-!
# Calls in another order

Each call on a statement works on one part of it, such as the condition on documents or the order of
the result. Calls on different parts can change places: the statement stays what it is, the same
calls fail, and at most another of their errors is the first.

That two lists of calls differ only by such changes is said once by their content and once as a
chain of exchanges of neighbours. A recorder needs laws for one exchange only.
-/

namespace SearchSql

section Order

variable {κ π : Type} {part : κ → π}

/-- One list becomes the other by exchanges of neighbours on different parts. -/
inductive Exchanged (part : κ → π) : List κ → List κ → Prop
  /-- Nothing is exchanged. -/
  | refl (calls : List κ) : Exchanged part calls calls
  /-- Exchanges after the first call. -/
  | cons {first second : List κ} (call : κ) (h : Exchanged part first second) :
      Exchanged part (call :: first) (call :: second)
  /-- The first two calls are exchanged. -/
  | swap {a b : κ} (h : part a ≠ part b) (calls : List κ) :
      Exchanged part (a :: b :: calls) (b :: a :: calls)
  /-- Exchanges after others. -/
  | trans {first second third : List κ} (h : Exchanged part first second)
      (h' : Exchanged part second third) : Exchanged part first third

/-- The first call can move behind calls on other parts. -/
theorem Exchanged.behind {call : κ} {before : List κ} (h : ∀ each ∈ before, part each ≠ part call)
    (after : List κ) : Exchanged part (call :: (before ++ after)) (before ++ call :: after) := by
  induction before with
  | nil => exact .refl _
  | cons each before ih =>
    rw [List.forall_mem_cons] at h
    exact .trans (.swap (Ne.symm h.1) _) (.cons each (ih h.2))

variable [DecidableEq π]

/-- The same calls in another order, in which the calls on each part come in the same order. -/
structure Rearranged (part : κ → π) (first second : List κ) : Prop where
  /-- Both have the same calls. -/
  perm : first.Perm second
  /-- The calls on each part come in the same order. -/
  order : ∀ given, first.filter (fun call => part call = given) =
    second.filter (fun call => part call = given)

/-- Without a call that comes first in one list, the other calls are still rearranged. -/
theorem Rearranged.tail {call : κ} {first before after : List κ}
    (h : Rearranged part (call :: first) (before ++ call :: after))
    (hbefore : ∀ each ∈ before, part each ≠ part call) :
    Rearranged part first (before ++ after) where
  perm := (h.perm.trans List.perm_middle).cons_inv
  order given := by
    have horder := h.order given
    rw [List.filter_append] at horder ⊢
    by_cases hpart : part call = given
    · have hnone : before.filter (fun each => part each = given) = [] := by
        simpa [List.filter_eq_nil_iff, ← hpart] using hbefore
      simpa [hnone, hpart] using horder
    · simpa [hpart] using horder

/-- Every rearrangement is a chain of exchanges. -/
theorem Rearranged.exchanged {first second : List κ} (h : Rearranged part first second) :
    Exchanged part first second := by
  induction first generalizing second with
  | nil =>
    rw [h.perm.nil_eq]
    exact .refl _
  | cons call first ih =>
    have horder := (h.order (part call)).symm
    rw [List.filter_cons_of_pos (by simp)] at horder
    obtain ⟨before, after, rfl, hbefore, _, _⟩ := List.filter_eq_cons_iff.mp horder
    have hothers : ∀ each ∈ before, part each ≠ part call := by simpa using hbefore
    exact .trans (.cons call (ih (h.tail hothers))) (.behind hothers after)

end Order

/-- The laws of calls on parts. Calls on different parts leave the same in either order, and none of
them makes the other fail. -/
structure Recorder.Parted {σ κ π : Type} (recorder : Recorder σ κ) (part : κ → π) : Prop where
  /-- Both orders leave the same apart from the recorded error. -/
  clear_apply_comm : ∀ state {a b}, part a ≠ part b →
    recorder.clear (recorder.apply (recorder.apply state a) b) =
      recorder.clear (recorder.apply (recorder.apply state b) a)
  /-- A call on another part does not change whether a call fails. -/
  fault?_apply : ∀ state {a b}, part a ≠ part b →
    recorder.fault? (recorder.apply state a) b = recorder.fault? state b

/-- Calls after exchanges leave the same apart from the recorded error, and fail with the same
errors. -/
theorem Recorder.Parted.agree {σ κ π : Type} {recorder : Recorder σ κ} {part : κ → π}
    (hparted : recorder.Parted part) {first second : List κ} (h : Exchanged part first second)
    (state : σ) :
    recorder.clear (first.foldl recorder.apply state) =
        recorder.clear (second.foldl recorder.apply state) ∧
      (recorder.faults state first).Perm (recorder.faults state second) := by
  induction h generalizing state with
  | refl calls => exact ⟨rfl, .refl _⟩
  | cons call _ ih =>
    obtain ⟨hclear, hfaults⟩ := ih (recorder.apply state call)
    exact ⟨hclear, hfaults.append_left _⟩
  | swap hne calls =>
    have hclear := hparted.clear_apply_comm state hne
    refine ⟨recorder.clear_foldl_congr hclear calls, ?_⟩
    rw [faults, faults, faults, faults, hparted.fault?_apply state hne,
      hparted.fault?_apply state (Ne.symm hne), recorder.faults_congr hclear]
    exact List.perm_append_comm_assoc _ _ _
  | trans _ _ ih ih' =>
    exact ⟨(ih state).1.trans (ih' state).1, (ih state).2.trans (ih' state).2⟩

/-- The parts of a search. -/
inductive Select.Part where
  /-- The expressions to read. -/
  | columns
  /-- The indexes to read from. -/
  | indexes
  /-- The condition on documents. -/
  | filter
  /-- The columns to group by. -/
  | groupBy
  /-- The order within a group. -/
  | groupOrder
  /-- The condition on groups. -/
  | having
  /-- The order of the result. -/
  | orderBy
  /-- The number of documents to read. -/
  | limit
  /-- The number of documents to skip. -/
  | offset
  /-- The options. -/
  | options
deriving DecidableEq

/-- The part of a search that a call works on. -/
def Select.Call.part : Call → Part
  | .columns _ | .column _ => .columns
  | .index _ => .indexes
  | .filter _ => .filter
  | .groupBy _ => .groupBy
  | .groupOrder _ _ => .groupOrder
  | .having _ => .having
  | .orderBy _ => .orderBy
  | .limit _ => .limit
  | .offset _ => .offset
  | .option _ _ => .options

/-- The parts of a change. -/
inductive Update.Part where
  /-- The assignments. -/
  | assignments
  /-- The condition on documents. -/
  | filter
  /-- The options. -/
  | options
deriving DecidableEq

/-- The part of a change that a call works on. -/
def Update.Call.part : Call → Part
  | .set _ _ | .setTyped _ _ _ => .assignments
  | .filter _ => .filter
  | .option _ _ => .options

/-- Calls on different parts of a search write to different fields, and a condition looks at none
but its own. -/
theorem Select.parted_recorder : recorder.Parted Call.part where
  clear_apply_comm select a b h := by
    cases a <;> cases b <;> first | rfl | exact absurd rfl h
  fault?_apply select a b h := by
    cases b <;> cases a <;> first | rfl | exact absurd rfl h

/-- Calls on different parts of a change write to different fields, and its condition looks at no
other one. -/
theorem Update.parted_recorder : recorder.Parted Call.part where
  clear_apply_comm update a b h := by
    cases a <;> cases b <;> first | rfl | exact absurd rfl h
  fault?_apply update a b h := by
    cases b <;> cases a <;> first | rfl | exact absurd rfl h

/-- All calls on a removal work on its condition. -/
theorem Delete.parted_recorder : recorder.Parted fun _ => () where
  clear_apply_comm _ _ _ h := absurd rfl h
  fault?_apply _ _ _ h := absurd rfl h

namespace Draft

/-- Two drafts of one kind for the same index, with the same calls in another order that keeps the
order of those on each part. -/
def Rearranged : Draft → Draft → Prop
  | .select index calls, .select other others =>
    index = other ∧ SearchSql.Rearranged Select.Call.part calls others
  | .update index calls, .update other others =>
    index = other ∧ SearchSql.Rearranged Update.Call.part calls others
  | .delete index calls, .delete other others =>
    index = other ∧ SearchSql.Rearranged (fun _ => ()) calls others
  | _, _ => False

variable {draft other : Draft}

/-- Rearranged calls make the same statement, apart from which of their errors is the first. -/
theorem Rearranged.agree (h : draft.Rearranged other) :
    draft.statement.clear = other.statement.clear ∧ draft.faults.Perm other.faults := by
  cases draft <;> cases other <;> try exact absurd h id
  case select.select index calls _ others =>
    obtain ⟨rfl, hcalls⟩ := h
    obtain ⟨hclear, hfaults⟩ := Select.parted_recorder.agree hcalls.exchanged (.new index)
    exact ⟨congrArg Statement.select hclear, hfaults⟩
  case update.update index calls _ others =>
    obtain ⟨rfl, hcalls⟩ := h
    obtain ⟨hclear, hfaults⟩ := Update.parted_recorder.agree hcalls.exchanged (.new index)
    exact ⟨congrArg Statement.update hclear, hfaults⟩
  case delete.delete index calls _ others =>
    obtain ⟨rfl, hcalls⟩ := h
    obtain ⟨hclear, hfaults⟩ := Delete.parted_recorder.agree hcalls.exchanged (.new index)
    exact ⟨congrArg Statement.delete hclear, hfaults⟩

end Draft

/-- The text of a statement without any check does not show a recorded error. -/
theorem Statement.sql_clear (quoter : Quoter) (statement : Statement) :
    statement.clear.sql quoter = statement.sql quoter := by
  cases statement <;> rfl

/-- The check of a statement does not look at a recorded error. -/
theorem Statement.validate_clear (statement : Statement) :
    statement.clear.validate = statement.validate := by
  cases statement <;> rfl

/-- Calls on different parts of a statement can be made in any order. The unchecked text and the
result of the check are the same, the same errors arise, and so one statement is accepted exactly if
the other is, with the same text. -/
theorem Draft.statement_of_rearranged {draft other : Draft} (h : draft.Rearranged other) :
    (∀ quoter, draft.statement.sql quoter = other.statement.sql quoter) ∧
      draft.statement.validate = other.statement.validate ∧
      draft.faults.Perm other.faults ∧
      draft.statement.error.isSome = other.statement.error.isSome ∧
      ∀ quoter text, draft.statement.toSql quoter = .ok text ↔
        other.statement.toSql quoter = .ok text := by
  obtain ⟨hclear, hfaults⟩ := h.agree
  have hsql (quoter : Quoter) : draft.statement.sql quoter = other.statement.sql quoter := by
    rw [← Statement.sql_clear, hclear, Statement.sql_clear]
  have hvalidate : draft.statement.validate = other.statement.validate := by
    rw [← Statement.validate_clear, hclear, Statement.validate_clear]
  have herror : draft.statement.error = none ↔ other.statement.error = none := by
    rw [draft.error_statement, other.error_statement, List.head?_eq_none_iff,
      List.head?_eq_none_iff, ← List.isEmpty_iff, hfaults.isEmpty_eq, List.isEmpty_iff]
  refine ⟨hsql, hvalidate, hfaults, ?_, fun quoter text => ?_⟩
  · rw [Bool.eq_iff_iff, Option.isSome_iff_ne_none, Option.isSome_iff_ne_none, ne_eq, ne_eq,
      herror]
  · unfold Statement.toSql
    rw [finishSql_eq_ok_iff, finishSql_eq_ok_iff, herror, hvalidate, hsql]

/-- The restriction of the groups and that of the documents fail both. Made the other way round, the
calls differ in the first error and in nothing else. -/
theorem Draft.statement_of_rearranged_bothRestrictions :
    let filters : List Select.Call :=
      [.filter (.request (.member "a" [])), .filter (.request (.literal "b"))]
    let others : List Select.Call :=
      [.having (.mapping (Mapping.empty.set "n" (.list []))), .groupBy "g", .limit 5]
    let first := Draft.select "rt" (filters ++ others)
    let second := Draft.select "rt" (others ++ filters)
    first.Rearranged second ∧
      first.statement.error = some (.argument (.emptyList "IN" "a")) ∧
      second.statement.error = some (.argument (.emptyList "IN" "n")) ∧
      ∀ quoter, first.statement.sql quoter = second.statement.sql quoter := by
  intro filters others first second
  have h : first.Rearranged second :=
    ⟨rfl, List.perm_append_comm, fun given => by cases given <;> rfl⟩
  exact ⟨h, rfl, rfl, (Draft.statement_of_rearranged h).1⟩

end SearchSql
