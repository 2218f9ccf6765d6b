import SearchSql.Statement.Filter

/-!
# Conditions that calls bring

A clause only ever gets conditions from what is added to it. If every condition that calls can
bring has a property, then so has every condition of the clause that they leave, however deep
scripts are nested and whichever of their steps fail.
-/

namespace SearchSql

variable (P : Condition → Prop)

/-- Every condition of a clause has the property. -/
def Clause.All (clause : Clause) : Prop :=
  ∀ condition ∈ clause.conjunction.conditions, P condition

/-- The condition that a request asks for has the property. -/
def Request.Brings (request : Request) : Prop :=
  ∀ condition, request.build = .ok condition → P condition

/-- The conditions that the entries of a mapping stand for have the property. -/
def Mapping.Brings (mapping : Mapping) : Prop :=
  ∀ conditions, mapping.conditions = .ok conditions → ∀ condition ∈ conditions, P condition

mutual

/-- Every condition that input can bring to a clause has the property. -/
def Input.Brings : Input → Prop
  | .clause given => given.All P
  | .conjunction given => ∀ condition ∈ given.conditions, P condition
  | .condition given => P given
  | .literal sql => P (.literal sql)
  | .mapping given => given.Brings P
  | .script steps => Step.AllBring steps

/-- Every condition that a step can bring has the property. -/
def Step.Brings : Step → Prop
  | .add input => input.Brings
  | .request given => given.Brings P
  | .attempt step => step.Brings
  | .fail _ => True

/-- Every condition that one of the steps can bring has the property. -/
def Step.AllBring : List Step → Prop
  | [] => True
  | step :: rest => step.Brings ∧ Step.AllBring rest

end

/-- Every condition that a call can bring has the property. -/
def Filter.Brings : Filter → Prop
  | .request given => given.Brings P
  | .input given => given.Brings P

variable {P} {clause : Clause}

/-- An empty clause has no condition without the property. -/
theorem Clause.all_empty : Clause.empty.All P := by
  intro condition hmem
  exact absurd hmem List.not_mem_nil

/-- Conditions added at the end have to have the property as well. -/
theorem Clause.All.append {conditions : List Condition} (hclause : clause.All P)
    (hconditions : ∀ condition ∈ conditions, P condition) :
    Clause.All P ⟨clause.conjunction.append conditions⟩ := by
  intro condition hmem
  rw [Conjunction.conditions_append, List.mem_append] at hmem
  rcases hmem with hmem | hmem
  · exact hclause condition hmem
  · exact hconditions condition hmem

/-- One condition added at the end has to have the property as well. -/
theorem Clause.All.push {condition : Condition} (hclause : clause.All P)
    (hcondition : P condition) : (clause.push condition).All P := by
  have hconditions : ∀ given ∈ [condition], P given := by simpa using hcondition
  exact hclause.append hconditions

/-- A request leaves a clause as it was, or with the condition it asks for. -/
theorem Clause.All.request {request : Request} (hclause : clause.All P)
    (hrequest : request.Brings P) : (clause.request request).state.All P := by
  rw [Clause.request_eq_pushBuilt]
  cases hbuild : request.build with
  | error e => exact hclause
  | ok condition => exact hclause.push (hrequest condition hbuild)

/-- A mapping leaves a clause as it was, or with the conditions of its entries. -/
theorem Clause.All.addMapping {mapping : Mapping} (hclause : clause.All P)
    (hmapping : mapping.Brings P) : (clause.addMapping mapping).state.All P := by
  unfold Clause.addMapping
  cases hconditions : mapping.conditions with
  | error e => exact hclause
  | ok conditions => exact hclause.append (hmapping conditions hconditions)

mutual

/-- Input of any shape keeps the property. -/
theorem Input.all_addTo : (input : Input) → (clause : Clause) → input.Brings P →
    clause.All P → (input.addTo clause).state.All P
  | .clause _, _, hinput, _ => hinput
  | .conjunction _, _, hinput, _ => hinput
  | .condition _, _, hinput, hclause => hclause.push hinput
  | .literal _, _, hinput, hclause => hclause.push hinput
  | .mapping _, _, hinput, hclause => hclause.addMapping hinput
  | .script steps, clause, hinput, hclause => by
    have hrun := Step.all_runAll steps clause hinput hclause
    rw [Input.addTo]
    split
    · next heq => rwa [heq] at hrun
    · exact hclause

/-- A step keeps the property, also when it fails. -/
theorem Step.all_run : (step : Step) → (clause : Clause) → step.Brings P → clause.All P →
    (step.run clause).state.All P
  | .add input, clause, hstep, hclause => Input.all_addTo input clause hstep hclause
  | .request _, _, hstep, hclause => hclause.request hstep
  | .attempt step, clause, hstep, hclause => Step.all_run step clause hstep hclause
  | .fail _, _, _, hclause => hclause

/-- Steps in a row keep the property, wherever they stop. -/
theorem Step.all_runAll : (steps : List Step) → (clause : Clause) → Step.AllBring P steps →
    clause.All P → (Step.runAll steps clause).state.All P
  | [], _, _, hclause => hclause
  | step :: rest, clause, hsteps, hclause => by
    have hrun := Step.all_run step clause hsteps.1 hclause
    rw [Step.runAll]
    split
    · next heq =>
      rw [heq] at hrun
      exact Step.all_runAll rest _ hsteps.2 hrun
    · next heq => rwa [heq] at hrun

end

/-- A call keeps the property, also when it fails. -/
theorem Filter.all_applyTo {filter : Filter} (hfilter : filter.Brings P)
    (hclause : clause.All P) : (filter.applyTo clause).state.All P := by
  cases filter with
  | request given =>
    rw [Filter.applyTo, Filter.make_eq_request]
    exact hclause.request hfilter
  | input given => exact Input.all_addTo given clause hfilter hclause

end SearchSql
