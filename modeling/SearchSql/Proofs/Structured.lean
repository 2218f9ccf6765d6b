import SearchSql.Proofs.Brought
import SearchSql.Proofs.Reading.Clause
import SearchSql.Statement

/-!
# Structured statements

A structured call says what is asked for by names, operators and values and brings no SQL of its
own. What such calls put together has only conditions that can be read back, orders by column, and
neither expressions to read nor options.
-/

namespace SearchSql

/-- The condition was made by a call that asks for a predicate. -/
def Condition.IsStructured (condition : Condition) : Prop :=
  ∃ predicate, Reading.Made condition predicate

/-- The criterion of an order is a column with a direction. -/
def SortKey.IsStructured : SortKey → Prop
  | .column _ _ => True
  | .raw _ => False

/-- The requests that name a column, or a name and an operator, ask for structured conditions. -/
theorem Request.brings_isStructured {request : Request} (hrequest : match request with
      | .compare .. | .operator .. | .between .. | .member .. | .notMember .. => True
      | _ => False) :
    request.Brings Condition.IsStructured := by
  intro condition hbuild
  cases request with
  | compare column operator value =>
    rw [build_compare] at hbuild
    obtain rfl := Except.ok.inj hbuild
    exact ⟨_, .compare column operator value⟩
  | operator left symbol right =>
    cases hsymbol : Comparison.parse symbol with
    | error e => simp [build, Condition.operator, hsymbol, bind, Except.bind] at hbuild
    | ok operator => exact ⟨_, .operator hsymbol hbuild⟩
  | between column low high =>
    obtain rfl := Except.ok.inj hbuild
    exact ⟨_, .between column low high⟩
  | member column values => exact ⟨_, .isIn hbuild⟩
  | notMember column values => exact ⟨_, .isNotIn hbuild⟩
  | condition _ | operatorWithKinds _ _ _ _ _ | matching _ | raw _ _ | rawWithKinds _ _ _
  | literal _ | extension _ => exact absurd hrequest id

/-- Structured conditions ask for predicates one by one. -/
theorem Clause.All.exists_forall₂ {clause : Clause} (h : clause.All Condition.IsStructured) :
    ∃ predicates, List.Forall₂ Reading.Made clause.conjunction.conditions predicates := by
  obtain ⟨⟨conditions⟩⟩ := clause
  have hmade : ∀ condition ∈ conditions, condition.IsStructured := h
  clear h
  induction conditions with
  | nil => exact ⟨[], .nil⟩
  | cons condition conditions ih =>
    rw [List.forall_mem_cons] at hmade
    obtain ⟨predicate, hfirst⟩ := hmade.1
    obtain ⟨predicates, hothers⟩ := ih hmade.2
    exact ⟨predicate :: predicates, .cons hfirst hothers⟩

namespace Select

/-- The calls that bring no SQL of their own. -/
def Call.IsStructured : Call → Prop
  | .columns _ | .column _ | .option _ _ => False
  | .filter call => call.Brings Condition.IsStructured
  | .having input => input.Brings Condition.IsStructured
  | .orderBy key => key.IsStructured
  | .index _ | .groupBy _ | .groupOrder _ _ | .limit _ | .offset _ => True

/-- A search that structured calls put together. -/
structure IsStructured (select : Select) : Prop where
  /-- All columns are read. -/
  columns : select.columns = []
  /-- There is an index to read from. -/
  indexes : select.indexes ≠ []
  /-- The condition on documents is structured. -/
  filter : select.filter.All Condition.IsStructured
  /-- Groups are ordered by columns. -/
  groupOrder : ∀ key ∈ select.groupOrder, key.IsStructured
  /-- The condition on groups is structured. -/
  having : select.having.All Condition.IsStructured
  /-- The result is ordered by columns. -/
  orderBy : ∀ key ∈ select.orderBy, key.IsStructured
  /-- There is no option. -/
  options : select.options.entries = []

/-- Nothing but the index is given at first. -/
theorem isStructured_new (index : String) : (new index).IsStructured :=
  ⟨rfl, by simp [new], Clause.all_empty, by simp [new], Clause.all_empty, by simp [new], rfl⟩

/-- A structured call leaves a structured search. -/
theorem IsStructured.apply {select : Select} (h : select.IsStructured) {call : Call}
    (hcall : call.IsStructured) : (select.apply call).IsStructured := by
  have hkeys {keys : List SortKey} (hold : ∀ key ∈ keys, key.IsStructured) {key : SortKey}
      (hnew : key.IsStructured) : ∀ each ∈ keys ++ [key], each.IsStructured := by
    intro each hmem
    rcases List.mem_append.mp hmem with hmem | hmem
    · exact hold each hmem
    · rwa [List.mem_singleton.mp hmem]
  cases call with
  | columns _ | column _ | option _ _ => exact absurd hcall id
  | index index => exact { h with indexes := by simp [Select.apply] }
  | filter call => exact { h with filter := Filter.all_applyTo hcall h.filter }
  | having input => exact { h with having := Input.all_addTo input _ hcall h.having }
  | groupOrder column direction =>
    have hkey : SortKey.IsStructured (.column column direction) := trivial
    exact { h with groupOrder := hkeys h.groupOrder hkey }
  | orderBy key => exact { h with orderBy := hkeys h.orderBy hcall }
  | groupBy _ | limit _ | offset _ => exact { h with }

/-- Structured calls put together a structured search. -/
theorem isStructured_applyAll (index : String) {calls : List Call}
    (hcalls : ∀ call ∈ calls, call.IsStructured) :
    ((new index).applyAll calls).IsStructured :=
  List.foldlRecOn calls apply (isStructured_new index)
    fun _ h call hmem => h.apply (hcalls call hmem)

end Select

namespace Update

/-- The calls that bring no SQL of their own. -/
def Call.IsStructured : Call → Prop
  | .set _ _ | .setTyped _ _ _ => True
  | .filter call => call.Brings Condition.IsStructured
  | .option _ _ => False

/-- A change that structured calls put together. -/
structure IsStructured (update : Update) : Prop where
  /-- The condition is structured. -/
  filter : update.filter.All Condition.IsStructured
  /-- There is no option. -/
  options : update.options.entries = []

/-- A structured call leaves a structured change. -/
theorem IsStructured.apply {update : Update} (h : update.IsStructured) {call : Call}
    (hcall : call.IsStructured) : (update.apply call).IsStructured := by
  cases call with
  | set _ _ | setTyped _ _ _ => exact { h with }
  | filter call => exact { h with filter := Filter.all_applyTo hcall h.filter }
  | option _ _ => exact absurd hcall id

/-- Structured calls put together a structured change. -/
theorem isStructured_applyAll (index : String) {calls : List Call}
    (hcalls : ∀ call ∈ calls, call.IsStructured) :
    ((new index).applyAll calls).IsStructured :=
  List.foldlRecOn calls apply ⟨Clause.all_empty, rfl⟩
    fun _ h call hmem => h.apply (hcalls call hmem)

end Update

/-- Structured calls put together a removal with a structured condition. -/
theorem Delete.all_isStructured_applyAll (index : String) {calls : List Filter}
    (hcalls : ∀ call ∈ calls, call.Brings Condition.IsStructured) :
    ((new index).applyAll calls).filter.All Condition.IsStructured :=
  List.foldlRecOn (motive := fun delete : Delete => delete.filter.All Condition.IsStructured)
    calls apply Clause.all_empty fun _ h call hmem => Filter.all_applyTo (hcalls call hmem) h

end SearchSql
