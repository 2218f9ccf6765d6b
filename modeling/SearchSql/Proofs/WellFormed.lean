import SearchSql.Proofs.AllOrNothing
import SearchSql.Proofs.Brought
import SearchSql.Proofs.DirectForm
import SearchSql.Quoter.Settings
import SearchSql.Statement

/-!
# Well-formed conditions

A fragment is rendered whatever its parts are: a missing parameter leaves its placeholder and a
missing kind means data. None of this ever happens to a caller, because every condition comes from
a constructor that checks its parts or fixes them, and nothing but conditions so obtained ever
enters a clause.
-/

namespace SearchSql

namespace Fragment

/-- Every placeholder has a parameter and every parameter a kind, or there are neither parameters
nor kinds. -/
def IsBalanced (fragment : Fragment) : Prop :=
  (fragment.parameters = [] ∧ fragment.kinds = []) ∨
    (fragment.parameters.length = Template.count fragment.template ∧
      fragment.kinds.length = Template.count fragment.template)

/-- The fragments that callers can make for conditions of their own. -/
inductive Obtained : Fragment → Prop
  /-- A template that fits its parameters and kinds. -/
  | make {template : String} {parameters : List Value} {kinds : List Kind} {fragment : Fragment}
      (h : make template parameters kinds = .ok fragment) : Obtained fragment
  /-- Plain SQL. -/
  | literal (sql : String) : Obtained (literal sql)
  /-- A fragment made before, with its parameters as plain text. -/
  | bypassingQuotes {fragment : Fragment} (h : Obtained fragment) :
      Obtained fragment.bypassingQuotes

/-- Parts that fit are balanced. -/
theorem isBalanced_of_count {template : String} {parameters : List Value} {kinds : List Kind}
    (hcount : Template.count template = parameters.length)
    (hkinds : kinds.length = parameters.length) (bypasses : Bool) :
    IsBalanced ⟨template, parameters, kinds, bypasses⟩ :=
  .inr ⟨hcount.symm, hkinds.trans hcount.symm⟩

/-- The fragments that callers can make are balanced. -/
theorem Obtained.isBalanced {fragment : Fragment} (h : fragment.Obtained) :
    fragment.IsBalanced := by
  induction h with
  | make h =>
    obtain ⟨hcount, hkinds, rfl⟩ := make_eq_ok_iff.mp h
    exact isBalanced_of_count hcount hkinds false
  | literal sql => exact .inl ⟨rfl, rfl⟩
  | bypassingQuotes _ ih => exact ih

/-- The pieces of a template with parameters between them, without any fallback: each placeholder
takes the next parameter and quotes it by the next kind, and there is no text if anything is missing
or left over. -/
def placed? (quoter : Quoter) (fragment : Fragment) :
    List (List Char) → List Value → List Kind → Option (List Char)
  | [piece], [], [] => some piece
  | piece :: next :: pieces, value :: values, kind :: kinds =>
    (placed? quoter fragment (next :: pieces) values kinds).map fun rest =>
      piece ++ ((fragment.quote quoter kind value).toList ++ rest)
  | _, _, _ => none

/-- Placing succeeds when there is a parameter and a kind between each two pieces. -/
theorem placed?_eq_some (quoter : Quoter) (fragment : Fragment) {pieces : List (List Char)}
    {values : List Value} {kinds : List Kind} (hpieces : pieces.length = values.length + 1)
    (hkinds : kinds.length = values.length) :
    fragment.placed? quoter pieces values kinds =
      some (Template.interleave pieces (fragment.quoteAll quoter values kinds)) := by
  induction values generalizing pieces kinds with
  | nil =>
    obtain ⟨piece, rfl⟩ := List.length_eq_one_iff.mp hpieces
    obtain rfl := List.eq_nil_of_length_eq_zero hkinds
    rfl
  | cons value values ih =>
    match pieces, kinds with
    | piece :: next :: pieces, kind :: kinds =>
      have hlength : (next :: pieces).length = values.length + 1 := by simpa using hpieces
      have hrest := ih hlength (by simpa using hkinds)
      rw [placed?, hrest]
      rfl
    | [], _ => simp at hpieces
    | [_], _ => simp at hpieces
    | _ :: _ :: _, [] => simp at hkinds

/-- A balanced fragment with parameters is written without any fallback. -/
theorem IsBalanced.placed? {fragment : Fragment} (h : fragment.IsBalanced)
    (hparameters : fragment.parameters ≠ []) (quoter : Quoter) :
    fragment.placed? quoter (Template.pieces fragment.template) fragment.parameters
      fragment.kinds = some (fragment.sql quoter).toList := by
  obtain ⟨hcount, hkinds⟩ := h.resolve_left fun hnone => hparameters hnone.1
  have hpieces : (Template.pieces fragment.template).length = fragment.parameters.length + 1 := by
    rw [Template.length_pieces, hcount]
  rw [placed?_eq_some quoter fragment hpieces (hkinds.trans hcount.symm), sql_eq_direct, direct,
    if_neg (by simpa using hparameters), String.toList_ofList]

end Fragment

namespace Condition

/-- The conditions that callers can make. Comparisons and kinds are given by name or as such. -/
inductive Obtained : Condition → Prop
  /-- A template whose parameters are all data. -/
  | ofValues {template : String} {parameters : List Value} {condition : Condition}
      (h : ofValues template parameters = .ok condition) : Obtained condition
  /-- A template with the kind of each parameter. -/
  | ofTemplate {template : String} {parameters : List Value} {kinds : List Kind}
      {condition : Condition} (h : ofTemplate template parameters kinds = .ok condition) :
      Obtained condition
  /-- A template with the kind of each parameter by name. -/
  | ofNamedKinds {template : String} {parameters : List Value} {kinds : List String}
      {condition : Condition} (h : ofNamedKinds template parameters kinds = .ok condition) :
      Obtained condition
  /-- A comparison of a name with data, by symbol. -/
  | operator {left right : Value} {symbol : String} {condition : Condition}
      (h : operator left symbol right = .ok condition) : Obtained condition
  /-- A comparison by symbol with kinds by name. -/
  | operatorWithKinds {left right : Value} {symbol leftKind rightKind : String}
      {condition : Condition}
      (h : operatorWithKinds left symbol right leftKind rightKind = .ok condition) :
      Obtained condition
  /-- A comparison with kinds. -/
  | comparison (left : Value) (operator : Comparison) (right : Value)
      (leftKind rightKind : Kind) : Obtained (comparison left operator right leftKind rightKind)
  /-- A column compared with a value. -/
  | compare (column : String) (operator : Comparison) (value : Value) :
      Obtained (compare column operator value)
  /-- A range of a column. -/
  | between (column : String) (low high : Value) : Obtained (between column low high)
  /-- Membership of a column in a list. -/
  | isIn {column : String} {values : List Value} {condition : Condition}
      (h : isIn column values = .ok condition) : Obtained condition
  /-- Absence of a column from a list. -/
  | isNotIn {column : String} {values : List Value} {condition : Condition}
      (h : isNotIn column values = .ok condition) : Obtained condition
  /-- A full-text query. -/
  | matching (query : String) : Obtained (matching query)
  /-- Plain SQL. -/
  | literal (sql : String) : Obtained (literal sql)
  /-- A condition of a caller's own. -/
  | extension {own : Extension} (h : own.fragment.Obtained) : Obtained (extension own)

/-- The parts of a condition fit together, its list is not empty, and plain SQL has no
parameters. -/
structure IsWellFormed (condition : Condition) : Prop where
  /-- The fragment is balanced. -/
  balanced : condition.fragment.IsBalanced
  /-- A list of values has an element. -/
  values_ne_nil : match condition with
    | .member _ values | .notMember _ values => values ≠ []
    | _ => True
  /-- Plain SQL has no parameters. -/
  literal : condition.form = .literal → condition.fragment.parameters = []

/-- A comparison is well-formed, whatever the kinds of its sides. -/
theorem isWellFormed_comparison (left : Value) (operator : Comparison) (right : Value)
    (leftKind rightKind : Kind) :
    (comparison left operator right leftKind rightKind).IsWellFormed where
  balanced := by
    refine Fragment.isBalanced_of_count ?_ rfl false
    cases operator <;> rfl
  values_ne_nil := trivial
  literal hform := by cases hform

/-- A template that is accepted makes a well-formed condition. -/
theorem isWellFormed_of_ofTemplate {template : String} {parameters : List Value}
    {kinds : List Kind} {condition : Condition}
    (h : ofTemplate template parameters kinds = .ok condition) : condition.IsWellFormed := by
  obtain ⟨fragment, hmake, h⟩ := exists_of_bind_eq_ok h
  obtain rfl := Except.ok.inj h
  obtain ⟨hcount, hkinds, rfl⟩ := Fragment.make_eq_ok_iff.mp hmake
  exact ⟨Fragment.isBalanced_of_count hcount hkinds false, trivial, fun hform => by cases hform⟩

/-- Every condition that a caller can make is well-formed. -/
theorem Obtained.isWellFormed {condition : Condition} (h : condition.Obtained) :
    condition.IsWellFormed := by
  cases h with
  | ofValues h => exact isWellFormed_of_ofTemplate h
  | ofTemplate h => exact isWellFormed_of_ofTemplate h
  | ofNamedKinds h =>
    obtain ⟨kinds, _, h⟩ := exists_of_bind_eq_ok h
    exact isWellFormed_of_ofTemplate h
  | operator h =>
    obtain ⟨operator, _, h⟩ := exists_of_bind_eq_ok h
    obtain rfl := Except.ok.inj h
    exact isWellFormed_comparison _ _ _ _ _
  | operatorWithKinds h =>
    obtain ⟨operator, _, h⟩ := exists_of_bind_eq_ok h
    obtain ⟨leftKind, _, h⟩ := exists_of_bind_eq_ok h
    obtain ⟨rightKind, _, h⟩ := exists_of_bind_eq_ok h
    obtain rfl := Except.ok.inj h
    exact isWellFormed_comparison _ _ _ _ _
  | comparison left operator right leftKind rightKind =>
    exact isWellFormed_comparison _ _ _ _ _
  | compare column operator value => exact isWellFormed_comparison _ _ _ _ _
  | between column low high =>
    exact ⟨Fragment.isBalanced_of_count rfl rfl false, trivial, fun hform => by cases hform⟩
  | isIn h =>
    obtain ⟨hvalues, rfl⟩ := isIn_eq_ok_iff.mp h
    exact ⟨Fragment.isBalanced_of_count rfl rfl false, hvalues, fun hform => by cases hform⟩
  | isNotIn h =>
    obtain ⟨hvalues, rfl⟩ := isNotIn_eq_ok_iff.mp h
    exact ⟨Fragment.isBalanced_of_count rfl rfl false, hvalues, fun hform => by cases hform⟩
  | matching query =>
    exact ⟨Fragment.isBalanced_of_count rfl rfl true, trivial, fun hform => by cases hform⟩
  | literal sql => exact ⟨.inl ⟨rfl, rfl⟩, trivial, fun _ => rfl⟩
  | extension h => exact ⟨h.isBalanced, trivial, fun hform => by cases hform⟩

end Condition

/-! ## What callers hand over -/

section Carried

variable (P : Condition → Prop)

/-- A condition that a request carries ready-made has the property. -/
def Request.Carries : Request → Prop
  | .condition given => P given
  | .extension own => P (.extension own)
  | _ => True

/-- A condition that an entry of a mapping holds has the property. -/
def Mapping.Carries (mapping : Mapping) : Prop :=
  ∀ entry ∈ mapping.entries, ∀ condition, entry.content = .condition condition → P condition

mutual

/-- Every condition that input carries ready-made has the property. -/
def Input.Carries : Input → Prop
  | .clause given => given.All P
  | .conjunction given => ∀ condition ∈ given.conditions, P condition
  | .condition given => P given
  | .literal _ => True
  | .mapping given => given.Carries P
  | .script steps => Step.AllCarry steps

/-- Every condition that a step carries ready-made has the property. -/
def Step.Carries : Step → Prop
  | .add input => input.Carries
  | .request given => given.Carries P
  | .attempt step => step.Carries
  | .fail _ => True

/-- Every condition that one of the steps carries ready-made has the property. -/
def Step.AllCarry : List Step → Prop
  | [] => True
  | step :: rest => step.Carries ∧ Step.AllCarry rest

end

/-- Every condition that a call carries ready-made has the property. -/
def Filter.Carries : Filter → Prop
  | .request given => given.Carries P
  | .input given => given.Carries P

/-- Every condition that a call on a search carries ready-made has the property. -/
def Select.Call.Carries : Select.Call → Prop
  | .filter call => call.Carries P
  | .having input => input.Carries P
  | _ => True

/-- Every condition that a call on a change carries ready-made has the property. -/
def Update.Call.Carries : Update.Call → Prop
  | .filter call => call.Carries P
  | _ => True

end Carried

/-- A request for anything but a ready-made condition asks for one from a constructor. -/
theorem Request.Carries.brings {request : Request} (h : request.Carries Condition.Obtained) :
    request.Brings Condition.Obtained := by
  intro condition hbuild
  cases request with
  | condition given => exact Except.ok.inj hbuild ▸ h
  | extension own => exact Except.ok.inj hbuild ▸ h
  | compare column operator value =>
    rw [build_compare] at hbuild
    exact Except.ok.inj hbuild ▸ .compare column operator value
  | between column low high => exact Except.ok.inj hbuild ▸ .between column low high
  | matching query => exact Except.ok.inj hbuild ▸ .matching query
  | literal sql => exact Except.ok.inj hbuild ▸ .literal sql
  | operator left symbol right => exact .operator hbuild
  | operatorWithKinds left symbol right leftKind rightKind => exact .operatorWithKinds hbuild
  | member column values => exact .isIn hbuild
  | notMember column values => exact .isNotIn hbuild
  | raw template parameters => exact .ofValues hbuild
  | rawWithKinds template parameters kinds => exact .ofNamedKinds hbuild

/-- An entry of a mapping that holds no ready-made condition stands for one from a constructor. -/
theorem Mapping.Entry.obtained_of_condition {entry : Mapping.Entry} {condition : Condition}
    (hcarries : ∀ given, entry.content = .condition given → given.Obtained)
    (h : entry.condition = .ok condition) : condition.Obtained := by
  obtain ⟨key, content⟩ := entry
  unfold Mapping.Entry.condition at h
  split at h
  · next _ given _ hcontent => exact Except.ok.inj h ▸ hcarries given hcontent
  · exact Except.ok.inj h ▸ .literal _
  · cases h
  · cases h
  · split at h
    · exact .ofValues h
    · split at h
      · exact .isIn h
      · exact Except.ok.inj h ▸ .compare _ _ _

/-- The conditions that a mapping stands for come from constructors if those that it holds do. -/
theorem Mapping.Carries.brings {mapping : Mapping} (h : mapping.Carries Condition.Obtained) :
    mapping.Brings Condition.Obtained := by
  intro conditions hconditions
  obtain ⟨entries⟩ := mapping
  have hentries : List.Forall₂ (fun entry condition => entry.condition = .ok condition)
      entries conditions := Mapping.conditions_eq_ok_iff.mp hconditions
  have hcarries : ∀ entry ∈ entries, ∀ given, entry.content = .condition given →
      given.Obtained := h
  clear h hconditions
  induction hentries with
  | nil => exact fun _ hmem => absurd hmem List.not_mem_nil
  | cons hfirst _ ih =>
    rw [List.forall_mem_cons] at hcarries ⊢
    exact ⟨Mapping.Entry.obtained_of_condition hcarries.1 hfirst, ih hcarries.2⟩

mutual

/-- Input brings conditions from constructors only, if those that it carries come from there. -/
theorem Input.Carries.brings : (input : Input) → input.Carries Condition.Obtained →
    input.Brings Condition.Obtained
  | .clause _, h => h
  | .conjunction _, h => h
  | .condition _, h => h
  | .literal sql, _ => .literal sql
  | .mapping _, h => Mapping.Carries.brings h
  | .script steps, h => Step.AllCarry.bring steps h

/-- A step brings conditions from constructors only, if those that it carries come from there. -/
theorem Step.Carries.brings : (step : Step) → step.Carries Condition.Obtained →
    step.Brings Condition.Obtained
  | .add input, h => Input.Carries.brings input h
  | .request _, h => Request.Carries.brings h
  | .attempt step, h => Step.Carries.brings step h
  | .fail _, _ => trivial

/-- Steps bring conditions from constructors only, if those that they carry come from there. -/
theorem Step.AllCarry.bring : (steps : List Step) → Step.AllCarry Condition.Obtained steps →
    Step.AllBring Condition.Obtained steps
  | [], _ => trivial
  | step :: rest, h => ⟨Step.Carries.brings step h.1, Step.AllCarry.bring rest h.2⟩

end

/-- A call brings conditions from constructors only, if those that it carries come from there. -/
theorem Filter.Carries.brings {filter : Filter} (h : filter.Carries Condition.Obtained) :
    filter.Brings Condition.Obtained := by
  cases filter with
  | request given => exact Request.Carries.brings h
  | input given => exact Input.Carries.brings given h

/-! ## What callers can reach -/

/-- The clauses that callers can reach, if every condition that they hand over ready-made comes
from a constructor. -/
inductive Clause.Reached : Clause → Prop
  /-- A conjunction given as a list, after requests of which some may have failed. -/
  | conjunction {conditions : List Condition} {requests : List Request}
      (hconditions : ∀ condition ∈ conditions, condition.Obtained)
      (hrequests : ∀ request ∈ requests, request.Carries Condition.Obtained) :
      Reached ⟨requests.foldl (fun current request => (current.request request).state)
        ⟨conditions⟩⟩
  /-- What steps make of an empty clause, wherever they stop. -/
  | script {steps : List Step} (h : Step.AllCarry Condition.Obtained steps) :
      Reached (Step.runAll steps .empty).state
  /-- The condition on documents of a search. -/
  | searchFilter (index : String) {calls : List Select.Call}
      (h : ∀ call ∈ calls, call.Carries Condition.Obtained) :
      Reached ((Select.new index).applyAll calls).filter
  /-- The condition on groups of a search. -/
  | searchHaving (index : String) {calls : List Select.Call}
      (h : ∀ call ∈ calls, call.Carries Condition.Obtained) :
      Reached ((Select.new index).applyAll calls).having
  /-- The condition of a change. -/
  | changeFilter (index : String) {calls : List Update.Call}
      (h : ∀ call ∈ calls, call.Carries Condition.Obtained) :
      Reached ((Update.new index).applyAll calls).filter
  /-- The condition of a removal. -/
  | removalFilter (index : String) {calls : List Filter}
      (h : ∀ call ∈ calls, call.Carries Condition.Obtained) :
      Reached ((Delete.new index).applyAll calls).filter

/-- Both conditions of a search come from constructors. -/
theorem Select.all_obtained_applyAll (index : String) {calls : List Call}
    (h : ∀ call ∈ calls, call.Carries Condition.Obtained) :
    ((new index).applyAll calls).filter.All Condition.Obtained ∧
      ((new index).applyAll calls).having.All Condition.Obtained := by
  refine List.foldlRecOn (motive := fun select : Select =>
    select.filter.All Condition.Obtained ∧ select.having.All Condition.Obtained)
    calls apply ⟨Clause.all_empty, Clause.all_empty⟩ fun select hselect call hmem => ?_
  have hcall := h call hmem
  cases call with
  | filter call =>
    exact ⟨Filter.all_applyTo (Filter.Carries.brings hcall) hselect.1, hselect.2⟩
  | having input =>
    exact ⟨hselect.1, Input.all_addTo input _ (Input.Carries.brings input hcall) hselect.2⟩
  | _ => exact hselect

/-- The condition of a change comes from constructors. -/
theorem Update.all_obtained_applyAll (index : String) {calls : List Call}
    (h : ∀ call ∈ calls, call.Carries Condition.Obtained) :
    ((new index).applyAll calls).filter.All Condition.Obtained := by
  refine List.foldlRecOn (motive := fun update : Update => update.filter.All Condition.Obtained)
    calls apply Clause.all_empty fun update hupdate call hmem => ?_
  have hcall := h call hmem
  cases call with
  | filter call => exact Filter.all_applyTo (Filter.Carries.brings hcall) hupdate
  | _ => exact hupdate

/-- Every condition of a clause that a caller can reach comes from a constructor. -/
theorem Clause.Reached.all_obtained {clause : Clause} (h : clause.Reached) :
    clause.All Condition.Obtained := by
  cases h with
  | @conjunction conditions requests hconditions hrequests =>
    exact List.foldlRecOn (motive := fun current : Conjunction =>
      Clause.All Condition.Obtained ⟨current⟩) requests _ hconditions
      fun current hcurrent request hmem =>
        Clause.All.request hcurrent (Request.Carries.brings (hrequests request hmem))
  | @script steps h =>
    exact Step.all_runAll steps .empty (Step.AllCarry.bring steps h) Clause.all_empty
  | searchFilter index h => exact (Select.all_obtained_applyAll index h).1
  | searchHaving index h => exact (Select.all_obtained_applyAll index h).2
  | changeFilter index h => exact Update.all_obtained_applyAll index h
  | @removalFilter index calls h =>
    exact List.foldlRecOn (motive := fun delete : Delete => delete.filter.All Condition.Obtained)
      calls Delete.apply Clause.all_empty fun _ hdelete call hmem =>
        Filter.all_applyTo (Filter.Carries.brings (h call hmem)) hdelete

/-- Every condition from a constructor, and so every condition of a clause that a caller can reach,
is well-formed, and is written without any fallback: each placeholder is filled with its own
parameter by its own kind, and no parameter is left out. -/
theorem Condition.isWellFormed_of_obtained_of_reached :
    (∀ condition : Condition, condition.Obtained → condition.IsWellFormed) ∧
      ∀ clause : Clause, clause.Reached → ∀ condition ∈ clause.conjunction.conditions,
        condition.IsWellFormed ∧
        (condition.fragment.parameters ≠ [] → ∀ quoter,
          condition.fragment.placed? quoter (Template.pieces condition.fragment.template)
            condition.fragment.parameters condition.fragment.kinds =
          some (condition.sql quoter).toList) := by
  refine ⟨fun _ hobtained => hobtained.isWellFormed, fun clause hclause condition hmem => ?_⟩
  have hcondition := (hclause.all_obtained condition hmem).isWellFormed
  exact ⟨hcondition, fun hparameters quoter => hcondition.balanced.placed? hparameters quoter⟩

/-- A template of a mapping is filled with a parameter that looks like a placeholder, in a script
that goes on after a mapping without values, and a caller's own condition bypasses quoting. -/
theorem Condition.isWellFormed_placeholderParameter :
    ((Condition.raw "a = ? OR b = ?" [.text "?", .uint 1] [.value, .value]).IsWellFormed ∧
      Fragment.placed? (QuoteSettings.quoter ⟨true, true⟩)
          ⟨"a = ? OR b = ?", [.text "?", .uint 1], [.value, .value], false⟩
          ["a = ".toList, " OR b = ".toList, []] [.text "?", .uint 1] [.value, .value] =
        some "a = '?' OR b = 1".toList) ∧
    (Condition.extension ⟨0, "f", ⟨"f(?)", [.text "x"], [.value], true⟩⟩).IsWellFormed := by
  have hcarries : ∀ call ∈ [Select.Call.filter (.input (.script
      [.add (.mapping (Mapping.empty.set "a = ? OR b = ?" (.list [.text "?", .uint 1]))),
        .attempt (.add (.mapping (Mapping.empty.set "c" (.list []))))]))],
      call.Carries Condition.Obtained := by
    intro call hcall
    obtain rfl := List.mem_singleton.mp hcall
    refine ⟨?_, ?_, trivial⟩ <;> intro entry hentry condition hcontent <;>
      obtain rfl := List.mem_singleton.mp hentry <;> cases hcontent
  obtain ⟨hwell, hplaced⟩ := Condition.isWellFormed_of_obtained_of_reached.2 _
    (.searchFilter "rt" hcarries) (.raw "a = ? OR b = ?" [.text "?", .uint 1] [.value, .value])
    List.mem_cons_self
  refine ⟨⟨hwell, hplaced (List.cons_ne_nil _ _) (QuoteSettings.quoter ⟨true, true⟩)⟩, ?_⟩
  exact Condition.isWellFormed_of_obtained_of_reached.1 _
    (.extension (.bypassingQuotes
      (@Fragment.Obtained.make "f(?)" [.text "x"] [.value] _ rfl)))

end SearchSql
