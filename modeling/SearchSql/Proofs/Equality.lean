import SearchSql.Proofs.Brought
import SearchSql.Quoter.Settings

/-!
# Equality of conditions

Conditions are compared by form and fragment, extensions by identity. Two kinds of values spoil this
equality: doubles, where zeros of both signs are equal and some values are not even equal to
themselves, and documents, where the order of fields does not count. Without them equality means
that nothing at all differs, and so it is an equivalence, and equal conditions have the same text.
-/

namespace SearchSql

namespace Value

mutual

/-- There is no double and no document in the value, however deep. -/
def IsExact : Value → Prop
  | .float _ | .json _ => False
  | .list items => AllExact items
  | .null | .bool _ | .int _ | .uint _ | .text _ => True

/-- There is no double and no document in any of the values. -/
def AllExact : List Value → Prop
  | [] => True
  | item :: rest => item.IsExact ∧ AllExact rest

end

mutual

/-- A value without doubles and documents equals itself. -/
theorem equals_self : (value : Value) → value.IsExact → value.equals value = true
  | .null, _ => rfl
  | .bool b, _ => beq_self_eq_true b
  | .int i, _ => beq_self_eq_true i
  | .uint u, _ => beq_self_eq_true u
  | .text s, _ => beq_self_eq_true s
  | .list items, h => itemsEqual_self items h

/-- Values without doubles and documents equal themselves one by one. -/
theorem itemsEqual_self : (items : List Value) → AllExact items → itemsEqual items items = true
  | [], _ => rfl
  | item :: rest, h => by
    rw [itemsEqual, equals_self item h.1, itemsEqual_self rest h.2]
    rfl

end

mutual

/-- A value without doubles and documents equals no other value. -/
theorem eq_of_equals : (a b : Value) → a.IsExact → a.equals b = true → a = b
  | .null, .null, _, _ => rfl
  | .bool _, .bool _, _, h => congrArg Value.bool (eq_of_beq h)
  | .int _, .int _, _, h => congrArg Value.int (eq_of_beq h)
  | .uint _, .uint _, _, h => congrArg Value.uint (eq_of_beq h)
  | .text _, .text _, _, h => congrArg Value.text (eq_of_beq h)
  | .list as, .list bs, has, h => congrArg Value.list (eq_of_itemsEqual as bs has h)

/-- Values without doubles and documents equal no other values. -/
theorem eq_of_itemsEqual : (as bs : List Value) → AllExact as → itemsEqual as bs = true → as = bs
  | [], [], _, _ => rfl
  | a :: as, b :: bs, has, h => by
    rw [itemsEqual, Bool.and_eq_true] at h
    rw [eq_of_equals a b has.1 h.1, eq_of_itemsEqual as bs has.2 h.2]

end

/-- Equality of a value without doubles and documents is identity. -/
theorem IsExact.equals_iff_eq {a : Value} (ha : a.IsExact) (b : Value) :
    a.equals b = true ↔ a = b :=
  ⟨eq_of_equals a b ha, fun h => h ▸ equals_self a ha⟩

/-- Equality of values without doubles and documents is identity. -/
theorem AllExact.itemsEqual_iff_eq {as : List Value} (has : AllExact as) (bs : List Value) :
    itemsEqual as bs = true ↔ as = bs :=
  ⟨eq_of_itemsEqual as bs has, fun h => h ▸ itemsEqual_self as has⟩

end Value

/-- Comparisons are told apart by their symbols. -/
theorem Comparison.symbol_inj {a b : Comparison} : a.symbol = b.symbol ↔ a = b := by
  refine ⟨fun h => ?_, fun h => h ▸ rfl⟩
  apply Except.ok.inj
  rw [← parse_symbol a, h, parse_symbol b]

namespace Condition

/-- Two conditions of one form agree in all that is kept of them: column or template, operator,
kinds, text, and each parameter in its place. Extensions agree if one is a copy of the other. -/
def Agrees : Condition → Condition → Prop
  | .raw template parameters kinds, .raw template' parameters' kinds' =>
    template = template' ∧ Value.itemsEqual parameters parameters' = true ∧ kinds = kinds'
  | .comparison left operator right leftKind rightKind,
    .comparison left' operator' right' leftKind' rightKind' =>
    left.equals left' = true ∧ operator = operator' ∧ right.equals right' = true ∧
      leftKind = leftKind' ∧ rightKind = rightKind'
  | .between column low high, .between column' low' high' =>
    column = column' ∧ low.equals low' = true ∧ high.equals high' = true
  | .member column values, .member column' values' =>
    column = column' ∧ Value.itemsEqual values values' = true
  | .notMember column values, .notMember column' values' =>
    column = column' ∧ Value.itemsEqual values values' = true
  | .fullText query, .fullText query' => query = query'
  | .literal sql, .literal sql' => sql = sql'
  | .extension own, .extension own' => own.id = own'.id
  | _, _ => False

/-- Conditions are equal exactly if they have one form and agree in all that is kept of them. -/
theorem equals_iff_agrees (a b : Condition) : a.equals b = true ↔ a.Agrees b := by
  -- Only conditions of one form have parts to compare. Others differ by their form alone.
  cases a with
  | raw template parameters kinds =>
    cases b with
    | raw template' parameters' kinds' =>
      simp [equals, form, fragment, Fragment.equals, Agrees, and_assoc]
    | _ => exact iff_of_false Bool.false_ne_true id
  | comparison left operator right leftKind rightKind =>
    cases b with
    | comparison left' operator' right' leftKind' rightKind' =>
      simp [equals, form, fragment, Fragment.equals, Agrees, Value.itemsEqual,
        Comparison.symbol_inj, and_assoc, and_left_comm]
    | _ => exact iff_of_false Bool.false_ne_true id
  | between column low high =>
    cases b with
    | between column' low' high' =>
      simp [equals, form, fragment, Fragment.equals, Agrees, Value.itemsEqual, Value.equals]
    | _ => exact iff_of_false Bool.false_ne_true id
  | member column values =>
    cases b with
    | member column' values' =>
      simp [equals, form, fragment, Fragment.equals, Agrees, Value.itemsEqual, Value.equals]
    | _ => exact iff_of_false Bool.false_ne_true id
  | notMember column values =>
    cases b with
    | notMember column' values' =>
      simp [equals, form, fragment, Fragment.equals, Agrees, Value.itemsEqual, Value.equals]
    | _ => exact iff_of_false Bool.false_ne_true id
  | fullText query =>
    cases b with
    | fullText query' =>
      simp [equals, form, fragment, Fragment.equals, Agrees, Value.itemsEqual, Value.equals]
    | _ => exact iff_of_false Bool.false_ne_true id
  | literal sql =>
    cases b with
    | literal sql' =>
      simp [equals, form, fragment, Fragment.equals, Fragment.literal, Agrees, Value.itemsEqual]
    | _ => exact iff_of_false Bool.false_ne_true id
  | extension own =>
    cases b with
    | extension own' => exact beq_iff_eq
    | _ => exact iff_of_false Bool.false_ne_true id

/-- No parameter has a double or a document in it, however deep, and an extension stands for the
fragment that its identity is given. -/
def IsExact (fragments : Nat → Fragment) : Condition → Prop
  | .raw _ parameters _ => Value.AllExact parameters
  | .comparison left _ right _ _ => left.IsExact ∧ right.IsExact
  | .between _ low high => low.IsExact ∧ high.IsExact
  | .member _ values | .notMember _ values => Value.AllExact values
  | .fullText _ | .literal _ => True
  | .extension own => own.fragment = fragments own.id

/-- What tells a condition apart: of an extension its identity, and of any other one all of it. -/
def key : Condition → Nat ⊕ Condition
  | .extension own => .inl own.id
  | condition => .inr condition

variable {fragments : Nat → Fragment}

/-- Without doubles and documents, conditions agree exactly if nothing tells them apart. -/
theorem IsExact.agrees_iff {a : Condition} (ha : a.IsExact fragments) (b : Condition) :
    a.Agrees b ↔ a.key = b.key := by
  cases a with
  | raw template parameters kinds =>
    have hparameters := Value.AllExact.itemsEqual_iff_eq ha
    cases b <;> simp [Agrees, key, hparameters]
  | comparison left operator right leftKind rightKind =>
    have hleft := ha.1.equals_iff_eq
    have hright := ha.2.equals_iff_eq
    cases b <;> simp [Agrees, key, hleft, hright]
  | between column low high =>
    have hlow := ha.1.equals_iff_eq
    have hhigh := ha.2.equals_iff_eq
    cases b <;> simp [Agrees, key, hlow, hhigh]
  | member column values =>
    have hvalues := Value.AllExact.itemsEqual_iff_eq ha
    cases b <;> simp [Agrees, key, hvalues]
  | notMember column values =>
    have hvalues := Value.AllExact.itemsEqual_iff_eq ha
    cases b <;> simp [Agrees, key, hvalues]
  | fullText query => cases b <;> simp [Agrees, key]
  | literal sql => cases b <;> simp [Agrees, key]
  | extension own => cases b <;> simp [Agrees, key]

/-- Without doubles and documents, conditions are equal exactly if nothing tells them apart. -/
theorem IsExact.equals_iff {a : Condition} (ha : a.IsExact fragments) (b : Condition) :
    a.equals b = true ↔ a.key = b.key :=
  (a.equals_iff_agrees b).trans (ha.agrees_iff b)

/-- A condition that is no extension is told apart by all of it. -/
theorem eq_of_key_eq {a b : Condition} (ha : a.form ≠ .extension) (h : a.key = b.key) : a = b := by
  cases a with
  | extension own => exact absurd rfl ha
  | _ =>
    cases b with
    | extension own => cases h
    | _ => exact Sum.inr.inj h

/-- Equal conditions have one form and one text. -/
theorem IsExact.sql_eq_of_equals {a b : Condition} (ha : a.IsExact fragments)
    (hb : b.IsExact fragments) (h : a.equals b = true) :
    a.form = b.form ∧ ∀ quoter, a.sql quoter = b.sql quoter := by
  rw [ha.equals_iff] at h
  -- An extension may be another value than its copy, so its text comes from the shared fragment.
  cases a with
  | extension own =>
    cases b with
    | extension own' =>
      have hid : own.id = own'.id := Sum.inl.inj h
      have hfragment : own.fragment = own'.fragment := by rw [ha, hb, hid]
      refine ⟨rfl, fun quoter => ?_⟩
      rw [sql, fragment, hfragment]
      rfl
    | _ => cases h
  | _ =>
    obtain rfl := eq_of_key_eq (by simp [form]) h
    exact ⟨rfl, fun _ => rfl⟩

end Condition

namespace Conjunction

variable {fragments : Nat → Fragment}

/-- Conditions that are equal one by one are as many and have the same texts. -/
theorem map_sql_eq_of_conditionsEqual {as bs : List Condition}
    (has : ∀ condition ∈ as, condition.IsExact fragments)
    (hbs : ∀ condition ∈ bs, condition.IsExact fragments) (h : conditionsEqual as bs = true) :
    as.length = bs.length ∧
      ∀ quoter, as.map (Condition.sql quoter) = bs.map (Condition.sql quoter) := by
  induction as generalizing bs with
  | nil =>
    cases bs with
    | nil => exact ⟨rfl, fun _ => rfl⟩
    | cons b bs => cases h
  | cons a as ih =>
    cases bs with
    | nil => cases h
    | cons b bs =>
      rw [List.forall_mem_cons] at has hbs
      rw [conditionsEqual, Bool.and_eq_true] at h
      obtain ⟨hlength, hsql⟩ := ih has.2 hbs.2 h.2
      have hfirst := has.1.sql_eq_of_equals hbs.1 h.1
      refine ⟨congrArg (· + 1) hlength, fun quoter => ?_⟩
      rw [List.map_cons, List.map_cons, hfirst.2, hsql]

/-- Equal conjunctions are as long and have the same text. -/
theorem size_sql_eq_of_equals {a b : Conjunction}
    (ha : ∀ condition ∈ a.conditions, condition.IsExact fragments)
    (hb : ∀ condition ∈ b.conditions, condition.IsExact fragments) (h : a.equals b = true) :
    a.size = b.size ∧ ∀ quoter, a.sql quoter = b.sql quoter := by
  obtain ⟨hsize, hsql⟩ := map_sql_eq_of_conditionsEqual ha hb h
  exact ⟨hsize, fun quoter => by rw [sql, hsql, sql]⟩

end Conjunction

/-- Equal conditions are written alike, and conditions that differ are not equal. As long as no
parameter has a double or a document in it and copies of an extension keep its fragment, equality
is an equivalence, equal conditions have one form and one text, and equal conjunctions and clauses
are as long and have one text. Then a condition that is no extension equals itself alone. Whatever
the parameters are, conditions are equal exactly if they agree part by part. -/
theorem Condition.equivalence_equals_and_sql_eq (fragments : Nat → Fragment) :
    (Equivalence fun a b : { condition : Condition // condition.IsExact fragments } =>
        a.1.equals b.1 = true) ∧
      (∀ a b : Condition, a.IsExact fragments → b.IsExact fragments → a.equals b = true →
        a.form = b.form ∧ ∀ quoter, a.sql quoter = b.sql quoter) ∧
      (∀ a b : Conjunction, (∀ condition ∈ a.conditions, condition.IsExact fragments) →
        (∀ condition ∈ b.conditions, condition.IsExact fragments) → a.equals b = true →
        a.size = b.size ∧ ∀ quoter, a.sql quoter = b.sql quoter) ∧
      (∀ a b : Clause, a.All (IsExact fragments) → b.All (IsExact fragments) →
        a.equals b = true → a.size = b.size ∧ ∀ quoter, a.sql quoter = b.sql quoter) ∧
      (∀ a b : Condition, a.form ≠ .extension → a.IsExact fragments → a ≠ b →
        a.equals b = false) ∧
      ∀ a b : Condition, a.equals b = true ↔ a.Agrees b := by
  refine ⟨⟨?_, ?_, ?_⟩, ?_, ?_, ?_, ?_, equals_iff_agrees⟩
  · exact fun a => (a.2.equals_iff a).mpr rfl
  · exact fun {a b} h => (b.2.equals_iff a).mpr ((a.2.equals_iff b).mp h).symm
  · exact fun {a b c} hab hbc =>
      (a.2.equals_iff c).mpr (((a.2.equals_iff b).mp hab).trans ((b.2.equals_iff c).mp hbc))
  · exact fun a b ha hb h => ha.sql_eq_of_equals hb h
  · exact fun a b ha hb h => Conjunction.size_sql_eq_of_equals ha hb h
  · exact fun a b ha hb h => Conjunction.size_sql_eq_of_equals ha hb h
  · intro a b hform ha hne
    rw [← Bool.not_eq_true, ha.equals_iff]
    exact fun h => hne (eq_of_key_eq hform h)

/-- Copies of an extension are equal beside equal lists. Lists that differ deep inside are not, even
if they have the same text. -/
theorem Condition.equivalence_equals_and_sql_eq_nested :
    let within (item : Value) : Condition := .member "a" [.text "b", .list [item, .null]]
    let copy (label : String) : Condition := .extension ⟨3, label, Fragment.literal "f(x)"⟩
    let first : Conjunction := ⟨[within (.int 1), copy "f"]⟩
    let second : Conjunction := ⟨[within (.int 1), copy "g"]⟩
    first.equals second = true ∧ (∀ quoter, first.sql quoter = second.sql quoter) ∧
      (within (.int 1)).equals (within (.uint 1)) = false ∧
      (within (.int 1)).sql (QuoteSettings.quoter ⟨true, true⟩) =
        (within (.uint 1)).sql (QuoteSettings.quoter ⟨true, true⟩) := by
  intro within copy first second
  have hwithin : (within (.int 1)).IsExact fun _ => Fragment.literal "f(x)" :=
    ⟨trivial, ⟨trivial, trivial, trivial⟩, trivial⟩
  have hfirst : ∀ condition ∈ first.conditions,
      condition.IsExact fun _ => Fragment.literal "f(x)" := by
    simpa [first, copy] using ⟨hwithin, rfl⟩
  have hsecond : ∀ condition ∈ second.conditions,
      condition.IsExact fun _ => Fragment.literal "f(x)" := by
    simpa [second, copy] using ⟨hwithin, rfl⟩
  have hdiffer : within (.int 1) ≠ within (.uint 1) := by
    simp [within]
  obtain ⟨_, _, hconjunction, _, hother, _⟩ :=
    equivalence_equals_and_sql_eq fun _ => Fragment.literal "f(x)"
  have hequal : first.equals second = true := by decide
  have hsame : (within (.int 1)).sql (QuoteSettings.quoter ⟨true, true⟩) =
      (within (.uint 1)).sql (QuoteSettings.quoter ⟨true, true⟩) := by
    unfold within
    rfl
  exact ⟨hequal, (hconjunction first second hfirst hsecond hequal).2,
    hother _ _ (by simp [within, form]) hwithin hdiffer, hsame⟩

/-- Zeros of both signs are equal but not written alike. -/
example :
    let isZero (zero : Binary64) : Condition := .compare "a" .eq (.float zero)
    (isZero ⟨0⟩).equals (isZero ⟨0x8000000000000000⟩) = true ∧
      (isZero ⟨0⟩).sql (QuoteSettings.quoter ⟨true, true⟩) = "\x60a\x60 = 0" ∧
      (isZero ⟨0x8000000000000000⟩).sql (QuoteSettings.quoter ⟨true, true⟩) = "\x60a\x60 = -0" :=
  ⟨rfl, rfl, rfl⟩

end SearchSql
