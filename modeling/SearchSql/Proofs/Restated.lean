import SearchSql.Proofs.Entries
import SearchSql.Proofs.FirstError

/-!
# Ways to state a condition

A condition can be asked for by a call of a statement, handed over once a constructor has built it,
asked for by a method of the conjunction inside a script, or written as the only entry of a mapping.
Statements, constructors and conjunctions each have methods of their own for this. What a request
means is said here from its parts alone, and every way to state it does to a clause what this
meaning says, also when it is an error. So two statements whose calls state the same requests, each
in its own way, are one statement.
-/

namespace SearchSql

namespace Request

/-! ### What a request means -/

/-- What a template with its parameters and their kinds means. Each placeholder takes one parameter
and each parameter has one kind. -/
def templateMeaning (template : String) (parameters : List Value) (kinds : List Kind) :
    Except QueryError Condition :=
  if Template.count template = parameters.length then
    if kinds.length = parameters.length then .ok (.raw template parameters kinds)
    else .error (.argument (.kindCount template parameters.length kinds.length))
  else
    .error (.argument (.placeholderCount template (Template.count template) parameters.length))

/-- What a request means: the condition with the parts of the request in their places, or what is
wrong with the first part that is bad. -/
def meaning : Request → Except QueryError Condition
  | .condition given => .ok given
  | .compare column comparison value =>
    .ok (.comparison (.text column) comparison value .identifier .value)
  | .operator left symbol right =>
    match Comparison.parse symbol with
    | .ok comparison => .ok (.comparison left comparison right .identifier .value)
    | .error e => .error e
  | .operatorWithKinds left symbol right leftKind rightKind =>
    match Comparison.parse symbol, Kind.parse leftKind, Kind.parse rightKind with
    | .ok comparison, .ok leftKind, .ok rightKind =>
      .ok (.comparison left comparison right leftKind rightKind)
    | .error e, _, _ => .error e
    | .ok _, .error e, _ => .error e
    | .ok _, .ok _, .error e => .error e
  | .between column low high => .ok (.between column low high)
  | .member column [] => .error (.argument (.emptyList "IN" column))
  | .member column (value :: values) => .ok (.member column (value :: values))
  | .notMember column [] => .error (.argument (.emptyList "NOT IN" column))
  | .notMember column (value :: values) => .ok (.notMember column (value :: values))
  | .matching query => .ok (.fullText (String.ofList (Condition.stripQuotes query.toList)))
  | .raw template parameters =>
    templateMeaning template parameters (List.replicate parameters.length .value)
  | .rawWithKinds template parameters names =>
    match names.mapM Kind.parse with
    | .ok kinds => templateMeaning template parameters kinds
    | .error e => .error e
  | .literal sql => .ok (.literal sql)
  | .extension own => .ok (.extension own)

/-! ### Constructors -/

/-- The request is put to a constructor, with the given result. A comparison of a column has more
than one: it can also be built by the symbol of its operator and by the names of the usual kinds. -/
inductive Constructed : Request → Except QueryError Condition → Prop
  /-- A condition that is there already. -/
  | given (condition : Condition) : Constructed (.condition condition) (.ok condition)
  /-- The constructor for `=`. -/
  | eq (column : String) (value : Value) :
      Constructed (.compare column .eq value) (.ok (.eq column value))
  /-- The constructor for `!=`. -/
  | ne (column : String) (value : Value) :
      Constructed (.compare column .ne value) (.ok (.ne column value))
  /-- The constructor for `<`. -/
  | lt (column : String) (value : Value) :
      Constructed (.compare column .lt value) (.ok (.lt column value))
  /-- The constructor for `<=`. -/
  | le (column : String) (value : Value) :
      Constructed (.compare column .le value) (.ok (.le column value))
  /-- The constructor for `>`. -/
  | gt (column : String) (value : Value) :
      Constructed (.compare column .gt value) (.ok (.gt column value))
  /-- The constructor for `>=`. -/
  | ge (column : String) (value : Value) :
      Constructed (.compare column .ge value) (.ok (.ge column value))
  /-- A comparison of a column by the symbol of its operator. -/
  | bySymbol {symbol : String} {comparison : Comparison}
      (h : Comparison.parse symbol = .ok comparison) (column : String) (value : Value) :
      Constructed (.compare column comparison value)
        (Condition.operator (.text column) symbol value)
  /-- A comparison of a column by symbol, with the usual kinds by name. -/
  | byNames {symbol leftKind rightKind : String} {comparison : Comparison}
      (h : Comparison.parse symbol = .ok comparison) (hleft : Kind.parse leftKind = .ok .identifier)
      (hright : Kind.parse rightKind = .ok .value) (column : String) (value : Value) :
      Constructed (.compare column comparison value)
        (Condition.operatorWithKinds (.text column) symbol value leftKind rightKind)
  /-- The constructor for any operator by its symbol. -/
  | operator (left : Value) (symbol : String) (right : Value) :
      Constructed (.operator left symbol right) (Condition.operator left symbol right)
  /-- The constructor for any operator and kinds by their names. -/
  | operatorWithKinds (left : Value) (symbol : String) (right : Value)
      (leftKind rightKind : String) :
      Constructed (.operatorWithKinds left symbol right leftKind rightKind)
        (Condition.operatorWithKinds left symbol right leftKind rightKind)
  /-- The constructor for a range. -/
  | between (column : String) (low high : Value) :
      Constructed (.between column low high) (.ok (.between column low high))
  /-- The constructor for membership. -/
  | isIn (column : String) (values : List Value) :
      Constructed (.member column values) (Condition.isIn column values)
  /-- The constructor for absence. -/
  | isNotIn (column : String) (values : List Value) :
      Constructed (.notMember column values) (Condition.isNotIn column values)
  /-- The constructor for a full-text query. -/
  | matching (query : String) : Constructed (.matching query) (.ok (.matching query))
  /-- The constructor for a template with data. -/
  | ofValues (template : String) (parameters : List Value) :
      Constructed (.raw template parameters) (Condition.ofValues template parameters)
  /-- A template with data as the kind of each parameter by name. -/
  | ofValueKinds {parameters : List Value} {names : List String}
      (h : names.mapM Kind.parse = .ok (parameters.map fun _ => .value)) (template : String) :
      Constructed (.raw template parameters) (Condition.ofNamedKinds template parameters names)
  /-- The constructor for a template with kinds by name. -/
  | ofNamedKinds (template : String) (parameters : List Value) (names : List String) :
      Constructed (.rawWithKinds template parameters names)
        (Condition.ofNamedKinds template parameters names)
  /-- The constructor for plain SQL. -/
  | literal (sql : String) : Constructed (.literal sql) (.ok (.literal sql))
  /-- The constructor for a condition of a caller's own. -/
  | extension (own : Extension) : Constructed (.extension own) (.ok (.extension own))

/-- A template is checked against its parameters and then against their kinds. -/
theorem ofTemplate_eq_templateMeaning (template : String) (parameters : List Value)
    (kinds : List Kind) :
    Condition.ofTemplate template parameters kinds = templateMeaning template parameters kinds := by
  unfold Condition.ofTemplate Fragment.make templateMeaning
  by_cases hcount : Template.count template = parameters.length
  · rw [if_neg (not_not_intro hcount), if_pos hcount]
    by_cases hkinds : kinds.length = parameters.length
    · rw [if_neg (not_not_intro hkinds), if_pos hkinds]
      rfl
    · rw [if_pos hkinds, if_neg hkinds]
      rfl
  · rw [if_pos hcount, if_neg hcount]
    rfl

/-- The names of kinds are read before a template is checked. -/
theorem ofNamedKinds_eq_meaning (template : String) (parameters : List Value)
    (names : List String) :
    Condition.ofNamedKinds template parameters names =
      meaning (.rawWithKinds template parameters names) := by
  rw [Condition.ofNamedKinds, meaning]
  cases names.mapM Kind.parse with
  | ok kinds => exact ofTemplate_eq_templateMeaning template parameters kinds
  | error e => rfl

/-- Every constructor makes of a request what the request means. -/
theorem Constructed.eq_meaning {request : Request} {built : Except QueryError Condition}
    (h : request.Constructed built) : built = request.meaning := by
  cases h with
  | given | eq | ne | lt | le | gt | ge | between | matching | literal | extension => rfl
  | bySymbol h column value =>
    rw [Condition.operator, h]
    rfl
  | byNames h hleft hright column value =>
    rw [Condition.operatorWithKinds, h, hleft, hright]
    rfl
  | operator left symbol right =>
    rw [Condition.operator, meaning]
    cases Comparison.parse symbol <;> rfl
  | operatorWithKinds left symbol right leftKind rightKind =>
    rw [Condition.operatorWithKinds, meaning]
    cases Comparison.parse symbol with
    | error e => rfl
    | ok comparison =>
      cases Kind.parse leftKind with
      | error e => rfl
      | ok left => cases Kind.parse rightKind <;> rfl
  | isIn column values => cases values <;> rfl
  | isNotIn column values => cases values <;> rfl
  | ofValues template parameters =>
    rw [Condition.ofValues, List.map_const']
    exact ofTemplate_eq_templateMeaning template parameters _
  | @ofValueKinds parameters names h template =>
    rw [ofNamedKinds_eq_meaning, meaning, meaning, h, ← List.map_const']
  | ofNamedKinds template parameters names =>
    exact ofNamedKinds_eq_meaning template parameters names

/-- Every request can be put to a constructor. -/
theorem constructed_build (request : Request) : request.Constructed request.build := by
  cases request with
  | condition given => exact .given given
  | compare column comparison value =>
    cases comparison with
    | eq => exact .eq column value
    | ne => exact .ne column value
    | lt => exact .lt column value
    | le => exact .le column value
    | gt => exact .gt column value
    | ge => exact .ge column value
  | operator left symbol right => exact .operator left symbol right
  | operatorWithKinds left symbol right leftKind rightKind =>
    exact .operatorWithKinds left symbol right leftKind rightKind
  | between column low high => exact .between column low high
  | member column values => exact .isIn column values
  | notMember column values => exact .isNotIn column values
  | matching query => exact .matching query
  | raw template parameters => exact .ofValues template parameters
  | rawWithKinds template parameters names => exact .ofNamedKinds template parameters names
  | literal sql => exact .literal sql
  | extension own => exact .extension own

/-- A request is built as what it means. -/
theorem build_eq_meaning (request : Request) : request.build = request.meaning :=
  request.constructed_build.eq_meaning

/-! ### Methods and input -/

/-- The second request puts the first one to a method of a conjunction. -/
inductive Rewords : Request → Request → Prop
  /-- The request has a method of its own. -/
  | self (request : Request) : Rewords request request
  /-- The condition itself is added, once it is built. -/
  | condition {request : Request} {condition : Condition}
      (h : request.Constructed (.ok condition)) : Rewords request (.condition condition)
  /-- A comparison of a column by the symbol of its operator. -/
  | operator {symbol : String} {comparison : Comparison}
      (h : Comparison.parse symbol = .ok comparison) (column : String) (value : Value) :
      Rewords (.compare column comparison value) (.operator (.text column) symbol value)
  /-- A template with data as the kind of each parameter by name. -/
  | rawWithKinds {parameters : List Value} {names : List String}
      (h : names.mapM Kind.parse = .ok (parameters.map fun _ => .value)) (template : String) :
      Rewords (.raw template parameters) (.rawWithKinds template parameters names)

/-- Other words mean the same. -/
theorem Rewords.meaning_eq {request asked : Request} (h : request.Rewords asked) :
    asked.meaning = request.meaning := by
  cases h with
  | self => rfl
  | condition h => exact h.eq_meaning
  | operator h column value =>
    exact (Constructed.operator ..).eq_meaning.symm.trans
      (Constructed.bySymbol h column value).eq_meaning
  | rawWithKinds h template =>
    exact (Constructed.ofNamedKinds ..).eq_meaning.symm.trans
      (Constructed.ofValueKinds h template).eq_meaning

end Request

mutual

/-- The ways to state a request as input of a clause. -/
inductive Input.States : Request → Input → Prop
  /-- The condition itself, once it is built. -/
  | condition {request : Request} {condition : Condition}
      (h : request.Constructed (.ok condition)) : Input.States request (.condition condition)
  /-- Plain SQL as a text. -/
  | literal (sql : String) : Input.States (.literal sql) (.literal sql)
  /-- A column with a value that is no list. -/
  | equality {column : String} {value : Value} (hcolumn : Template.hasPlaceholder column = false)
      (hvalue : value.isList = false) :
      Input.States (.compare column .eq value) (.mapping (Mapping.empty.set column value))
  /-- A column with a list. -/
  | membership {column : String} (hcolumn : Template.hasPlaceholder column = false)
      (values : List Value) :
      Input.States (.member column values) (.mapping (Mapping.empty.set column (.list values)))
  /-- A template with its parameters, or with its only one. -/
  | template {template : String} (htemplate : Template.hasPlaceholder template = true)
      (value : Value) :
      Input.States (.raw template value.items) (.mapping (Mapping.empty.set template value))
  /-- Plain SQL as an entry without a name. -/
  | text (sql : String) :
      Input.States (.literal sql) (.mapping (Mapping.empty.push (.value (.text sql))))
  /-- The condition itself as an entry without a name. -/
  | entry {request : Request} {condition : Condition}
      (h : request.Constructed (.ok condition)) :
      Input.States request (.mapping (Mapping.empty.push (.condition condition)))
  /-- A script of one step. -/
  | script {request : Request} {step : Step} (h : Step.States request step) :
      Input.States request (.script [step])

/-- The ways to state a request as a step of a script. -/
inductive Step.States : Request → Step → Prop
  /-- Input that states the request is added. -/
  | add {request : Request} {input : Input} (h : Input.States request input) :
      Step.States request (.add input)
  /-- The request is put to a method of the conjunction. -/
  | request {request asked : Request} (h : request.Rewords asked) :
      Step.States request (.request asked)
  /-- A constructor fails inside the script. -/
  | fail {request : Request} {e : QueryError} (h : request.Constructed (.error e)) :
      Step.States request (.fail e)

end

/-- The ways to state a request by a call of a statement. -/
inductive Filter.States : Request → Filter → Prop
  /-- The request has a call of its own. -/
  | request (request : Request) : Filter.States request (.request request)
  /-- Input that states the request is added. -/
  | input {request : Request} {input : Input} (h : input.States request) :
      Filter.States request (.input input)

/-- A mapping of one entry adds the condition that the entry stands for. -/
theorem Input.effect_mapping_singleton {entry : Mapping.Entry}
    {built : Except QueryError Condition} (h : entry.condition = built)
    (conditions : List Condition) :
    Input.effect (.mapping ⟨[entry]⟩) conditions =
      built.map fun condition => conditions ++ [condition] := by
  rw [Input.effect, Mapping.conditions, List.mapM_cons, List.mapM_nil, h]
  cases built with
  | ok condition => rfl
  | error e => rfl

mutual

/-- Input that states a request adds what the request means. -/
theorem Input.States.effect_eq {request : Request} {input : Input} :
    Input.States request input → ∀ conditions, input.effect conditions =
      request.meaning.map fun condition => conditions ++ [condition]
  | .condition h, conditions => by
    rw [← h.eq_meaning]
    rfl
  | .literal _, _ => rfl
  | .equality hcolumn hvalue, conditions =>
    Input.effect_mapping_singleton (Mapping.Entry.condition_scalar hcolumn hvalue) conditions
  | .membership hcolumn values, conditions =>
    Input.effect_mapping_singleton ((Mapping.Entry.condition_list hcolumn values).trans
      (Request.Constructed.isIn _ values).eq_meaning) conditions
  | .template htemplate value, conditions =>
    Input.effect_mapping_singleton ((Mapping.Entry.condition_template htemplate value).trans
      (Request.Constructed.ofValues _ value.items).eq_meaning) conditions
  | .text _, conditions => Input.effect_mapping_singleton rfl conditions
  | .entry h, conditions => by
    rw [← h.eq_meaning]
    exact Input.effect_mapping_singleton rfl conditions
  | .script h, conditions => by
    rw [Input.effect, Step.effects, Step.States.effect_eq h conditions]
    cases request.meaning with
    | ok condition => rfl
    | error e => rfl

/-- A step that states a request adds what the request means. -/
theorem Step.States.effect_eq {request : Request} {step : Step} :
    Step.States request step → ∀ conditions, step.effect conditions =
      request.meaning.map fun condition => conditions ++ [condition]
  | .add h, conditions => Input.States.effect_eq h conditions
  | .request h, conditions => by rw [Step.effect, Request.build_eq_meaning, h.meaning_eq]
  | .fail h, conditions => by
    rw [← h.eq_meaning]
    rfl

end

/-- A call that states a request adds what the request means. -/
theorem Filter.States.applyTo_eq {request : Request} {filter : Filter} (h : filter.States request)
    (clause : Clause) : filter.applyTo clause = clause.pushBuilt request.meaning := by
  cases h with
  | request => rw [Filter.applyTo, Filter.make_eq_pushBuilt, Request.build_eq_meaning]
  | input h =>
    rw [Filter.applyTo, Clause.add, Input.addTo_eq_settle, h.effect_eq]
    cases request.meaning with
    | ok condition => rfl
    | error e => rfl

/-- Two calls on a statement are the same, or restrict it by stating the same request. -/
inductive Restated {κ : Type} (restrict : Filter → κ) : κ → κ → Prop
  /-- The same call. -/
  | same (call : κ) : Restated restrict call call
  /-- Two ways to state a request. -/
  | states {request : Request} {filter other : Filter} (h : filter.States request)
      (h' : other.States request) : Restated restrict (restrict filter) (restrict other)

/-- Calls that are restated one by one leave the same, if what a restricting call leaves depends on
nothing but what it does to clauses. -/
theorem foldl_eq_of_restated {σ κ : Type} {restrict : Filter → κ} {apply : σ → κ → σ}
    (hrestrict : ∀ {filter other}, (∀ clause, filter.applyTo clause = other.applyTo clause) →
      ∀ state, apply state (restrict filter) = apply state (restrict other))
    {calls others : List κ} (h : List.Forall₂ (Restated restrict) calls others) (state : σ) :
    calls.foldl apply state = others.foldl apply state := by
  induction h generalizing state with
  | nil => rfl
  | cons hcall _ ih =>
    rw [List.foldl_cons, List.foldl_cons, ih]
    cases hcall with
    | same call => rfl
    | states hfilter hother =>
      rw [hrestrict fun clause => (hfilter.applyTo_eq clause).trans (hother.applyTo_eq clause).symm]

section Congr

variable {filter other : Filter} (h : ∀ clause, filter.applyTo clause = other.applyTo clause)
include h

/-- A search that is restricted depends on nothing but what the call does to clauses. -/
theorem Select.apply_filter_congr (select : Select) :
    select.apply (.filter filter) = select.apply (.filter other) := by
  rw [apply, apply, applyFilter, applyFilter, h]

/-- A change that is restricted depends on nothing but what the call does to clauses. -/
theorem Update.apply_filter_congr (update : Update) :
    update.apply (.filter filter) = update.apply (.filter other) := by
  rw [apply, apply, applyFilter, applyFilter, h]

/-- A removal that is restricted depends on nothing but what the call does to clauses. -/
theorem Delete.apply_filter_congr (delete : Delete) :
    delete.apply filter = delete.apply other := by
  rw [apply, apply, h]

end Congr

namespace Draft

/-- Two drafts of one kind for the same index, with calls that are restated one by one. -/
def Restated : Draft → Draft → Prop
  | .select index calls, .select other others =>
    index = other ∧ List.Forall₂ (SearchSql.Restated Select.Call.filter) calls others
  | .update index calls, .update other others =>
    index = other ∧ List.Forall₂ (SearchSql.Restated Update.Call.filter) calls others
  | .delete index calls, .delete other others =>
    index = other ∧ List.Forall₂ (SearchSql.Restated id) calls others
  | _, _ => False

/-- Restated calls make the same statement. -/
theorem Restated.statement_eq {draft other : Draft} (h : draft.Restated other) :
    draft.statement = other.statement := by
  cases draft <;> cases other <;> try exact absurd h id
  case select.select index calls _ others =>
    obtain ⟨rfl, hcalls⟩ := h
    exact congrArg Statement.select (foldl_eq_of_restated Select.apply_filter_congr hcalls _)
  case update.update index calls _ others =>
    obtain ⟨rfl, hcalls⟩ := h
    exact congrArg Statement.update (foldl_eq_of_restated Update.apply_filter_congr hcalls _)
  case delete.delete index calls _ others =>
    obtain ⟨rfl, hcalls⟩ := h
    exact congrArg Statement.delete (foldl_eq_of_restated Delete.apply_filter_congr hcalls _)

end Draft

/-- Constructors, methods of conjunctions and calls of statements each make of a request what it
means. So whatever way is taken to state it, a clause gets the condition that the request means at
its end, or stays and the call fails with the error that the request means. Statements that differ
in these ways alone have the same conditions, the same first error and the same text. -/
theorem Draft.statement_of_restated :
    (∀ request : Request,
      (∀ built, request.Constructed built → built = request.meaning) ∧
      (∀ conjunction : Conjunction,
        conjunction.request request = conjunction.pushBuilt request.meaning) ∧
      ∀ clause, Filter.make request clause = clause.pushBuilt request.meaning) ∧
    (∀ request filter clause, Filter.States request filter →
      filter.applyTo clause =
        match request.meaning with
        | .ok condition => ⟨clause.push condition, .ok ()⟩
        | .error e => ⟨clause, .error e⟩) ∧
    ∀ draft other, Draft.Restated draft other →
      draft.statement = other.statement ∧
        ∀ quoter, draft.statement.toSql quoter = other.statement.toSql quoter := by
  refine ⟨fun request => ⟨fun _ h => h.eq_meaning, fun conjunction => ?_, fun clause => ?_⟩,
    fun request filter clause h => ?_, fun draft other h => ?_⟩
  · rw [conjunction.request_eq_pushBuilt, request.build_eq_meaning]
  · rw [Filter.make_eq_pushBuilt, request.build_eq_meaning]
  · rw [h.applyTo_eq]
    cases request.meaning with
    | ok condition => rfl
    | error e => rfl
  · exact ⟨h.statement_eq, fun quoter => by rw [h.statement_eq]⟩

/-- A change restricted by calls of its own, and by mappings, methods and constructors that state
the same. The list without a value is refused either way, in the script by its constructor before
there is a condition to add. -/
theorem Draft.statement_of_restated_mapping :
    let draft := Draft.update "rt" [.filter (.request (.compare "a" .eq (.uint 1))),
      .set "x" .null, .filter (.request (.member "b" [])),
      .filter (.request (.raw "c > ?" [.text "?"])), .filter (.request (.matching "'q'")),
      .filter (.request (.compare "d" .lt (.int 2))),
      .filter (.request (.notMember "e" [.null])), .filter (.request (.literal "f"))]
    let other := Draft.update "rt" [
      .filter (.input (.mapping (Mapping.empty.set "a" (.uint 1)))),
      .set "x" .null, .filter (.input (.script [.fail (.argument (.emptyList "IN" "b"))])),
      .filter (.input (.mapping (Mapping.empty.set "c > ?" (.list [.text "?"])))),
      .filter (.input (.script [.add (.condition (.fullText "q"))])),
      .filter (.input (.script [.request (.operator (.text "d") " < " (.int 2))])),
      .filter (.input (.condition (.notMember "e" [.null]))),
      .filter (.input (.mapping (Mapping.empty.push (.value (.text "f")))))]
    draft.Restated other ∧ draft.statement = other.statement ∧
      other.statement.error = some (.argument (.emptyList "IN" "b")) ∧
      (Filter.applyTo (.request (.compare "d" .ge (.int 2))) .empty).state =
        ⟨⟨[.comparison (.text "d") .ge (.int 2) .identifier .value]⟩⟩ := by
  intro draft other
  have hrefused : (Request.member "b" []).Constructed (.error (.argument (.emptyList "IN" "b"))) :=
    .isIn "b" []
  have hquery : (Request.matching "'q'").Constructed (.ok (.fullText "q")) := .matching "'q'"
  have habsent : (Request.notMember "e" [.null]).Constructed (.ok (.notMember "e" [.null])) :=
    .isNotIn "e" [.null]
  have hsymbol :
      (Request.compare "d" .lt (.int 2)).Rewords (.operator (.text "d") " < " (.int 2)) :=
    .operator rfl "d" (.int 2)
  have h : draft.Restated other := by
    refine ⟨rfl, .cons (.states (.request _) (.input (.equality rfl rfl))) (.cons (.same _) ?_)⟩
    refine .cons (.states (.request _) (.input (.script (.fail hrefused)))) ?_
    refine .cons (.states (.request _) (.input (.template rfl (.list [.text "?"])))) ?_
    refine .cons (.states (.request _) (.input (.script (.add (.condition hquery))))) ?_
    refine .cons (.states (.request _) (.input (.script (.request hsymbol)))) ?_
    refine .cons (.states (.request _) (.input (.condition habsent))) ?_
    exact .cons (.states (.request _) (.input (.text "f"))) .nil
  have hmeant := Draft.statement_of_restated.2.1 (.compare "d" .ge (.int 2)) _ .empty (.request _)
  exact ⟨h, (Draft.statement_of_restated.2.2 draft other h).1, rfl, congrArg Outcome.state hmeant⟩

end SearchSql
