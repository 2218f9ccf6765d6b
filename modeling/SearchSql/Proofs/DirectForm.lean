import SearchSql.Clause.Conjunction
import SearchSql.Proofs.Filling

/-!
# The direct form of conditions

All conditions are written by one scanner, which fills a template and looks up parameters and
kinds by the number of the placeholder. Here each form of condition is given the text that it
stands for directly, without a scanner: what is quoted stands beside the pieces of the template
and is never cut into pieces itself. Both agree for every quoter, also for one that writes
placeholders.
-/

namespace SearchSql

namespace Template

/-- The pieces of a template with texts between them, in order. Once the texts are used up,
placeholders stay. -/
def interleave : List (List Char) → List String → List Char
  | [], _ => []
  | [piece], _ => piece
  | piece :: next :: pieces, [] => piece ++ placeholder :: interleave (next :: pieces) []
  | piece :: next :: pieces, text :: texts =>
    piece ++ (text.toList ++ interleave (next :: pieces) texts)

/-- A character before the first piece stands before all of the text. -/
theorem interleave_cons_cons (c : Char) (piece : List Char) (pieces : List (List Char))
    (texts : List String) :
    interleave ((c :: piece) :: pieces) texts = c :: interleave (piece :: pieces) texts := by
  cases pieces with
  | nil => rfl
  | cons next pieces => cases texts <;> rfl

/-- Filling placeholders by number, where the numbers of the given texts start at `index`, puts
the texts between the pieces. -/
theorem filled_eq_interleave {texts : Nat → Option String} (cs : List Char) {index : Nat}
    {given : List String} (hgiven : ∀ i, texts (index + i) = given[i]?) :
    filled texts cs index = interleave (Text.split placeholder cs) given := by
  induction cs generalizing index given with
  | nil => rfl
  | cons c rest ih =>
    obtain ⟨piece, pieces, hpieces⟩ :=
      List.exists_cons_of_ne_nil (Text.split_ne_nil placeholder rest)
    unfold filled Text.split
    by_cases hc : c = placeholder
    · -- The number of the next placeholder and the texts still to come move on together.
      have hfirst : texts index = given[0]? := hgiven 0
      rw [if_pos hc, if_pos hc, hfirst]
      cases given with
      | nil =>
        have hrest : ∀ i, texts (index + 1 + i) = ([] : List String)[i]? := fun i => by
          rw [Nat.add_assoc, hgiven]
          rfl
        rw [ih hrest, hpieces]
        rfl
      | cons text given =>
        have hrest : ∀ i, texts (index + 1 + i) = given[i]? := fun i => by
          rw [Nat.add_assoc, hgiven, Nat.add_comm 1 i, List.getElem?_cons_succ]
        rw [ih hrest, hpieces]
        rfl
    · rw [if_neg hc, if_neg hc, ih hgiven, hpieces]
      exact (interleave_cons_cons c piece pieces given).symm

end Template

namespace Fragment

variable (quoter : Quoter) (fragment : Fragment)

/-- A parameter of a kind as SQL, which is plain if the fragment bypasses quoting. -/
def quote (kind : Kind) (value : Value) : String :=
  if fragment.bypassesQuoting then value.plain else kind.quote quoter value

/-- Parameters in order, each quoted once by its own kind. Past the last kind they are data. -/
def quoteAll : List Value → List Kind → List String
  | [], _ => []
  | value :: values, [] => fragment.quote quoter .value value :: quoteAll values []
  | value :: values, kind :: kinds => fragment.quote quoter kind value :: quoteAll values kinds

/-- The text of a fragment without a scanner. -/
def direct : String :=
  if fragment.parameters.isEmpty then fragment.template
  else
    String.ofList (Template.interleave (Template.pieces fragment.template)
      (fragment.quoteAll quoter fragment.parameters fragment.kinds))

/-- A parameter that is looked up by number is quoted by the kind with that number. -/
theorem getElem?_quoteAll (values : List Value) (kinds : List Kind) (index : Nat) :
    (fragment.quoteAll quoter values kinds)[index]? =
      values[index]?.map (fragment.quote quoter (kinds[index]?.getD .value)) := by
  induction values generalizing kinds index with
  | nil => rfl
  | cons value values ih =>
    cases kinds with
    | nil =>
      cases index with
      | zero => rfl
      | succ index => simpa [quoteAll] using ih [] index
    | cons kind kinds =>
      cases index with
      | zero => rfl
      | succ index => simpa [quoteAll] using ih kinds index

/-- A fragment is written in its direct form. -/
theorem sql_eq_direct : fragment.sql quoter = fragment.direct quoter := by
  unfold direct
  by_cases hparameters : fragment.parameters = []
  · simp [sql, hparameters]
  · have hgiven (index : Nat) :
        (fragment.parameters[0 + index]?).map (fragment.parameterSql quoter (0 + index)) =
          (fragment.quoteAll quoter fragment.parameters fragment.kinds)[index]? := by
      rw [Nat.zero_add, getElem?_quoteAll]
      congr 1
      funext value
      unfold parameterSql quote
      cases fragment.kinds[index]?.getD .value <;> rfl
    rw [if_neg (by simpa using hparameters)]
    apply String.toList_inj.mp
    rw [toList_sql quoter hparameters, Template.filled_eq_interleave _ hgiven,
      String.toList_ofList]
    rfl

end Fragment

namespace Condition

/-- The text that each form of condition stands for. -/
def direct (quoter : Quoter) : Condition → String
  | .raw template parameters kinds =>
    (Fragment.mk template parameters kinds false).direct quoter
  | .comparison left operator right leftKind rightKind =>
    leftKind.quote quoter left ++ " " ++ operator.symbol ++ " " ++ rightKind.quote quoter right
  | .between column low high =>
    quoter.quoteIdentifier column ++ " BETWEEN " ++ quoter.quoteValue low none ++ " AND " ++
      quoter.quoteValue high none
  | .member column values =>
    quoter.quoteIdentifier column ++ " IN " ++ quoter.quoteValue (.list values) none
  | .notMember column values =>
    quoter.quoteIdentifier column ++ " NOT IN " ++ quoter.quoteValue (.list values) none
  | .fullText query => "MATCH('" ++ query ++ "')"
  | .literal sql => sql
  | .extension own => own.fragment.direct quoter

/-- Every condition is written in its direct form. -/
theorem sql_eq_direct (quoter : Quoter) (condition : Condition) :
    condition.sql quoter = condition.direct quoter := by
  cases condition with
  | raw template parameters kinds => exact Fragment.sql_eq_direct quoter _
  | comparison left operator right leftKind rightKind =>
    exact sql_comparison quoter left operator right leftKind rightKind
  | between column low high => exact sql_between quoter column low high
  | member column values => exact sql_member quoter column values
  | notMember column values => exact sql_notMember quoter column values
  | fullText query => exact sql_fullText quoter query
  | literal sql => rfl
  | extension own => exact Fragment.sql_eq_direct quoter own.fragment

end Condition

namespace Conjunction

variable (quoter : Quoter)

/-- Conditions behind others are written after an AND. -/
theorem toList_sql_append_cons (condition next : Condition) (conditions more : List Condition) :
    (Conjunction.sql quoter ⟨condition :: conditions ++ next :: more⟩).toList =
      (Conjunction.sql quoter ⟨condition :: conditions⟩).toList ++
        (" AND ".toList ++ (Conjunction.sql quoter ⟨next :: more⟩).toList) := by
  induction conditions generalizing condition with
  | nil =>
    have hfirst : Conjunction.sql quoter ⟨[condition]⟩ = condition.sql quoter := by simp [sql]
    rw [hfirst]
    exact toList_sql_cons quoter condition next more
  | cons second conditions ih =>
    rw [toList_sql_cons, List.append_assoc, List.append_assoc, ← ih]
    exact toList_sql_cons quoter condition second (conditions ++ next :: more)

/-- Two conjunctions in a row are written one after the other, with a separator only between
conditions. -/
theorem sql_append (first second : Conjunction) :
    (first.append second.conditions).sql quoter =
      first.sql quoter ++ (if first.isEmpty || second.isEmpty then "" else " AND ") ++
        second.sql quoter := by
  obtain ⟨conditions⟩ := first
  obtain ⟨more⟩ := second
  apply String.toList_inj.mp
  cases conditions with
  | nil => simp [append, sql, isEmpty]
  | cons condition conditions =>
    cases more with
    | nil => simp [append, sql, isEmpty]
    | cons next more =>
      have happend := toList_sql_append_cons quoter condition next conditions more
      simpa [isEmpty, append] using happend

/-- A conjunction is written as the direct forms of its conditions, in order and with AND between
them; no other text is added, and none is looked at twice. -/
theorem sql_eq_intercalate_direct (conjunction : Conjunction) :
    conjunction.sql quoter =
        " AND ".intercalate (conjunction.conditions.map (Condition.direct quoter)) ∧
      ∀ more : Conjunction,
        (conjunction.append more.conditions).sql quoter =
          conjunction.sql quoter ++
            (if conjunction.isEmpty || more.isEmpty then "" else " AND ") ++ more.sql quoter := by
  refine ⟨?_, conjunction.sql_append quoter⟩
  have hdirect : Condition.sql quoter = Condition.direct quoter :=
    funext fun condition => condition.sql_eq_direct quoter
  rw [sql, hdirect]
  rfl

/-- What is written for a name is no placeholder, even if it has the character of one. -/
example :
    Conjunction.sql { quoteIdentifier := fun name => "?" ++ name, quoteString := id }
      ⟨[.raw "? < ?" [.text "a", .uint 1] [.identifier, .value], .literal "b = ?"]⟩ =
      "?a < 1 AND b = ?" := rfl

end Conjunction

end SearchSql
