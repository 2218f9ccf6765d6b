import SearchSql.Clause
import SearchSql.Proofs.Results

/-!
# All or nothing

Input is taken by a clause as a whole, or the clause stays as it was. Scripts keep this promise by
working on copies. Here the effect of input is also given without any copy: as a function from one
list of conditions to another, for which a failure is an error and no list at all. Both agree at
every depth of nesting, whichever errors a script ignores.
-/

namespace SearchSql

/-- The operation either succeeded and left things as described, or failed and left them as they
were. -/
def Outcome.AllOrNothing {σ : Type} (outcome : Outcome σ) (before : σ) (Left : σ → Prop) : Prop :=
  match outcome.result with
  | .ok () => Left outcome.state
  | .error _ => outcome.state = before

/-- What a failed operation leaves is what was there before. -/
theorem Outcome.AllOrNothing.state_eq {σ : Type} {outcome : Outcome σ} {before : σ}
    {Left : σ → Prop} (h : outcome.AllOrNothing before Left) {e : QueryError}
    (hfails : outcome.result = .error e) : outcome.state = before := by
  unfold AllOrNothing at h
  rwa [hfails] at h

mutual

/-- What input makes of a list of conditions. A script works on the list itself. -/
def Input.effect : Input → List Condition → Except QueryError (List Condition)
  | .clause other, _ => .ok other.conjunction.conditions
  | .conjunction other, _ => .ok other.conditions
  | .condition given, conditions => .ok (conditions ++ [given])
  | .literal sql, conditions => .ok (conditions ++ [.literal sql])
  | .mapping given, conditions => given.conditions.map (conditions ++ ·)
  | .script steps, conditions => Step.effects steps conditions

/-- What a step makes of a list of conditions. A step whose error is ignored adds nothing if it
fails. -/
def Step.effect : Step → List Condition → Except QueryError (List Condition)
  | .add input, conditions => input.effect conditions
  | .request given, conditions => given.build.map fun condition => conditions ++ [condition]
  | .attempt step, conditions =>
    match step.effect conditions with
    | .ok next => .ok next
    | .error _ => .ok conditions
  | .fail e, _ => .error e

/-- What steps in a row make of a list of conditions. The first error is the result. -/
def Step.effects : List Step → List Condition → Except QueryError (List Condition)
  | [], conditions => .ok conditions
  | step :: rest, conditions =>
    match step.effect conditions with
    | .ok next => Step.effects rest next
    | .error e => .error e

end

namespace Clause

/-- The outcome of an effect on the conditions of a clause: the new list takes their place, and
without one the clause stays. -/
def settle (clause : Clause) : Except QueryError (List Condition) → Outcome Clause
  | .ok next => ⟨⟨⟨next⟩⟩, .ok ()⟩
  | .error e => ⟨clause, .error e⟩

/-- A request adds its condition or changes nothing. -/
theorem request_eq_settle (clause : Clause) (given : Request) :
    clause.request given =
      clause.settle (Step.effect (.request given) clause.conjunction.conditions) := by
  rw [request_eq_pushBuilt, Step.effect]
  cases given.build with
  | ok condition => rfl
  | error e => rfl

/-- A mapping adds the conditions of all its entries or changes nothing. -/
theorem addMapping_eq_settle (clause : Clause) (given : Mapping) :
    clause.addMapping given =
      clause.settle (Input.effect (.mapping given) clause.conjunction.conditions) := by
  unfold addMapping
  rw [Input.effect]
  cases given.conditions with
  | ok conditions => rfl
  | error e => rfl

end Clause

mutual

/-- Adding input gives the list of its effect, or leaves the clause as it was. -/
theorem Input.addTo_eq_settle : (input : Input) → (clause : Clause) →
    input.addTo clause = clause.settle (input.effect clause.conjunction.conditions)
  | .clause _, _ => rfl
  | .conjunction _, _ => rfl
  | .condition _, _ => rfl
  | .literal _, _ => rfl
  | .mapping given, clause => clause.addMapping_eq_settle given
  | .script steps, clause => by
    have hrun := Step.runAll_eq steps clause
    rw [Input.addTo, Input.effect]
    cases heffects : Step.effects steps clause.conjunction.conditions with
    | ok next =>
      rw [heffects] at hrun
      rw [hrun]
      rfl
    | error e =>
      -- What the steps before the error made stands in the copy, which is dropped.
      rw [heffects] at hrun
      obtain ⟨left, hleft⟩ := hrun
      rw [hleft]
      rfl

/-- A single step gives the list of its effect, or leaves the clause as it was. -/
theorem Step.run_eq_settle : (step : Step) → (clause : Clause) →
    step.run clause = clause.settle (step.effect clause.conjunction.conditions)
  | .add input, clause => Input.addTo_eq_settle input clause
  | .request given, clause => clause.request_eq_settle given
  | .attempt step, clause => by
    rw [Step.run, Step.effect, Step.run_eq_settle step clause]
    cases step.effect clause.conjunction.conditions with
    | ok next => rfl
    | error e => rfl
  | .fail _, _ => rfl

/-- Steps in a row that all succeed give the list of their effect. If one fails, the steps before
it may have left something, which only the copy of their script holds. -/
theorem Step.runAll_eq : (steps : List Step) → (clause : Clause) →
    match Step.effects steps clause.conjunction.conditions with
    | .ok next => Step.runAll steps clause = ⟨⟨⟨next⟩⟩, .ok ()⟩
    | .error e => ∃ left, Step.runAll steps clause = ⟨left, .error e⟩
  | [], _ => rfl
  | step :: rest, clause => by
    rw [Step.effects, Step.runAll, Step.run_eq_settle step clause]
    cases step.effect clause.conjunction.conditions with
    | ok next => exact Step.runAll_eq rest ⟨⟨next⟩⟩
    | error e => exact ⟨clause, rfl⟩

end

/-- Steps that all succeed have an effect, and it is what they leave. -/
theorem Step.effects_eq_ok_of_runAll {steps : List Step} {clause left : Clause}
    (h : Step.runAll steps clause = ⟨left, .ok ()⟩) :
    Step.effects steps clause.conjunction.conditions = .ok left.conjunction.conditions := by
  have hrun := Step.runAll_eq steps clause
  cases heffects : Step.effects steps clause.conjunction.conditions with
  | ok next =>
    rw [heffects, h] at hrun
    cases hrun
    rfl
  | error e =>
    rw [heffects, h] at hrun
    obtain ⟨_, hleft⟩ := hrun
    cases hleft

/-- A step that fails has no effect. -/
theorem Step.effect_eq_error_of_run {step : Step} {clause : Clause} {e : QueryError}
    (h : (step.run clause).result = .error e) :
    step.effect clause.conjunction.conditions = .error e := by
  rw [Step.run_eq_settle] at h
  cases heffect : step.effect clause.conjunction.conditions with
  | ok next =>
    rw [heffect] at h
    cases h
  | error fault =>
    rw [heffect] at h
    rw [Except.error.inj h]

/-- A mapping stands for conditions exactly when its entries do one by one. -/
theorem Mapping.conditions_eq_ok_iff {mapping : Mapping} {conditions : List Condition} :
    mapping.conditions = .ok conditions ↔
      List.Forall₂ (fun entry condition => entry.condition = .ok condition)
        mapping.entries conditions :=
  mapM_eq_ok_iff_forall₂

/-- Steps after others work on the list that those make. -/
theorem Step.effects_append (first second : List Step) (conditions : List Condition) :
    Step.effects (first ++ second) conditions =
      (Step.effects first conditions).bind (Step.effects second) := by
  induction first generalizing conditions with
  | nil => rfl
  | cons step first ih =>
    rw [List.cons_append, Step.effects, Step.effects]
    cases step.effect conditions with
    | ok next => exact ih next
    | error e => rfl

/-- What a clause is after it has taken input: another clause or conjunction takes its place, a
condition goes last, a mapping adds one condition an entry, and a script does what its steps do on
the clause itself. -/
def Input.Left (before : Clause) : Input → Clause → Prop
  | .clause other, left => left = other
  | .conjunction other, left => left.conjunction = other
  | .condition given, left =>
    left.conjunction.conditions = before.conjunction.conditions ++ [given]
  | .literal sql, left =>
    left.conjunction.conditions = before.conjunction.conditions ++ [.literal sql]
  | .mapping given, left =>
    ∃ added, List.Forall₂ (fun entry condition => entry.condition = .ok condition)
        given.entries added ∧
      left.conjunction.conditions = before.conjunction.conditions ++ added
  | .script steps, left =>
    Step.runAll steps before = ⟨left, .ok ()⟩ ∧
      Step.effects steps before.conjunction.conditions = .ok left.conjunction.conditions

namespace Clause

/-- Input of any shape is taken as a whole or leaves the clause as it was. -/
theorem allOrNothing_add (clause : Clause) (input : Input) :
    (clause.add input).AllOrNothing clause (input.Left clause) := by
  unfold add Outcome.AllOrNothing
  rw [Input.addTo_eq_settle]
  cases heffect : input.effect clause.conjunction.conditions with
  | error e => rfl
  | ok next =>
    cases input with
    | clause other | conjunction other =>
      obtain rfl := Except.ok.inj heffect
      rfl
    | condition given | literal sql => exact (Except.ok.inj heffect).symm
    | mapping given =>
      rw [Input.effect] at heffect
      cases hconditions : given.conditions with
      | error e =>
        rw [hconditions] at heffect
        cases heffect
      | ok added =>
        rw [hconditions] at heffect
        exact ⟨added, Mapping.conditions_eq_ok_iff.mp hconditions, (Except.ok.inj heffect).symm⟩
    | script steps =>
      rw [Input.effect] at heffect
      have hrun := Step.runAll_eq steps clause
      rw [heffect] at hrun
      exact ⟨hrun, heffect⟩

/-- A step that fails where it stands and whose error is ignored can be left out of a script. -/
theorem add_script_attempt {clause left : Clause} {first second : List Step} {step : Step}
    {e : QueryError} (hfirst : Step.runAll first clause = ⟨left, .ok ()⟩)
    (hfails : (step.run left).result = .error e) :
    clause.add (.script (first ++ .attempt step :: second)) =
      clause.add (.script (first ++ second)) := by
  have hbefore := Step.effects_eq_ok_of_runAll hfirst
  have hstep := Step.effect_eq_error_of_run hfails
  unfold add
  rw [Input.addTo_eq_settle, Input.addTo_eq_settle, Input.effect, Input.effect,
    Step.effects_append, Step.effects_append, hbefore]
  simp only [Except.bind, Step.effects, Step.effect, hstep]

end Clause

/-- A request on a conjunction adds the condition it asks for at the end, or changes nothing. -/
theorem Conjunction.allOrNothing_request (conjunction : Conjunction) (given : Request) :
    (conjunction.request given).AllOrNothing conjunction fun left =>
      ∃ condition, given.build = .ok condition ∧
        left.conditions = conjunction.conditions ++ [condition] := by
  rw [request_eq_pushBuilt]
  cases hbuild : given.build with
  | ok condition => exact ⟨condition, rfl, rfl⟩
  | error e => rfl

/-- What a clause or a conjunction is asked to take is taken as a whole or leaves no trace. A clause
takes input exactly when it has an effect without any copy, at every depth of nesting. In a script
that goes on after an error, the step that failed is as good as absent. -/
theorem Clause.add_allOrNothing (clause : Clause) (input : Input) :
    (clause.add input).AllOrNothing clause (input.Left clause) ∧
      clause.add input = clause.settle (input.effect clause.conjunction.conditions) ∧
      (∀ first step second left e, Step.runAll first clause = ⟨left, .ok ()⟩ →
        (step.run left).result = .error e →
        clause.add (.script (first ++ .attempt step :: second)) =
          clause.add (.script (first ++ second))) ∧
      ∀ (conjunction : Conjunction) (given : Request),
        (conjunction.request given).AllOrNothing conjunction fun left =>
          ∃ condition, given.build = .ok condition ∧
            left.conditions = conjunction.conditions ++ [condition] :=
  ⟨clause.allOrNothing_add input, input.addTo_eq_settle clause,
    fun _ _ _ _ _ hfirst hfails => add_script_attempt hfirst hfails,
    Conjunction.allOrNothing_request⟩

/-- A script inside a script throws all conditions away and then fails. If its error is ignored,
nothing is lost; if a later step fails, not even the first one stays. -/
theorem Clause.add_script_of_failedReplacement :
    (Clause.add ⟨⟨[.literal "a"]⟩⟩ (.script
        [.request (.literal "b"),
          .attempt (.add (.script
            [.add (.conjunction .empty), .fail (.argument (.reported "no"))]))])) =
      Clause.add ⟨⟨[.literal "a"]⟩⟩ (.script [.request (.literal "b")]) ∧
    (Clause.add ⟨⟨[.literal "a"]⟩⟩ (.script
        [.request (.literal "b"), .add (.conjunction .empty),
          .request (.member "c" [])])).state = ⟨⟨[.literal "a"]⟩⟩ := by
  constructor
  · exact (Clause.add_allOrNothing ⟨⟨[.literal "a"]⟩⟩ (.literal "b")).2.2.1
      [.request (.literal "b")] _ [] _ _ rfl rfl
  · exact (Clause.add_allOrNothing ⟨⟨[.literal "a"]⟩⟩ (.script
      [.request (.literal "b"), .add (.conjunction .empty), .request (.member "c" [])])).1

end SearchSql
