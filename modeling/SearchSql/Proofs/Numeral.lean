import SearchSql.Value

/-!
# The shape of numbers in SQL

Integers and finite doubles are written alike: perhaps a minus sign, digits, and perhaps a point
with more digits. A reader that meets such a text can tell where it ends.
-/

namespace SearchSql

/-- The digits are not blank. -/
theorem Text.isBlank_eq_false_of_isDigit {c : Char} (hc : c.isDigit = true) :
    isBlank c = false := by
  simp only [Char.isDigit, Bool.and_eq_true, decide_eq_true_eq,
    UInt32.le_iff_toNat_le] at hc
  have hdigit : 48 ≤ c.toNat ∧ c.toNat ≤ 57 := hc
  unfold isBlank blankRanges
  simp only [List.any_cons, List.any_nil, Bool.or_false, Bool.or_eq_false_iff,
    Bool.and_eq_false_iff, decide_eq_false_iff_not]
  omega

/-- One or more decimal digits. -/
structure IsDigits (cs : List Char) : Prop where
  /-- There is a digit. -/
  ne_nil : cs ≠ []
  /-- There is nothing else. -/
  isDigit : ∀ c ∈ cs, c.isDigit = true

/-- A decimal number without a sign. -/
inductive IsUnsigned : List Char → Prop where
  /-- A whole number. -/
  | whole {digits : List Char} (hdigits : IsDigits digits) : IsUnsigned digits
  /-- A number with a fractional part. -/
  | fractional {before after : List Char} (hbefore : IsDigits before) (hafter : IsDigits after) :
      IsUnsigned (before ++ '.' :: after)

/-- A decimal number, perhaps with a minus sign. -/
inductive IsNumeral : List Char → Prop where
  /-- A number without a sign. -/
  | positive {cs : List Char} (hcs : IsUnsigned cs) : IsNumeral cs
  /-- A number after a minus sign. -/
  | negative {cs : List Char} (hcs : IsUnsigned cs) : IsNumeral ('-' :: cs)

/-- Digits on both sides stay digits when they are joined. -/
theorem IsDigits.append {left right : List Char} (hleft : IsDigits left)
    (hright : ∀ c ∈ right, c.isDigit = true) : IsDigits (left ++ right) where
  ne_nil := by simp [hleft.ne_nil]
  isDigit := by
    intro c hc
    rcases List.mem_append.mp hc with hc | hc
    · exact hleft.isDigit c hc
    · exact hright c hc

/-- A numeral is made of digits, points and minus signs alone. -/
theorem IsNumeral.mem {cs : List Char} (hcs : IsNumeral cs) {c : Char} (hc : c ∈ cs) :
    c.isDigit = true ∨ c = '.' ∨ c = '-' := by
  have hunsigned {body : List Char} (hbody : IsUnsigned body) (hmem : c ∈ body) :
      c.isDigit = true ∨ c = '.' := by
    cases hbody with
    | whole hdigits => exact Or.inl (hdigits.isDigit c hmem)
    | fractional hbefore hafter =>
      rcases List.mem_append.mp hmem with hmem | hmem
      · exact Or.inl (hbefore.isDigit c hmem)
      · rcases List.mem_cons.mp hmem with rfl | hmem
        · exact Or.inr rfl
        · exact Or.inl (hafter.isDigit c hmem)
  cases hcs with
  | positive hbody => exact (hunsigned hbody hc).imp_right Or.inl
  | negative hbody =>
    rcases List.mem_cons.mp hc with rfl | hmem
    · exact Or.inr (Or.inr rfl)
    · exact (hunsigned hbody hmem).imp_right Or.inl

/-- A numeral has a character. -/
theorem IsNumeral.ne_nil {cs : List Char} (hcs : IsNumeral cs) : cs ≠ [] := by
  cases hcs with
  | negative hbody => exact List.cons_ne_nil _ _
  | positive hbody =>
    cases hbody with
    | whole hdigits => exact hdigits.ne_nil
    | fractional hbefore hafter => simp

/-- The decimal digits of a natural number. -/
theorem isDigits_toDigits (n : Nat) : IsDigits (Nat.toDigits 10 n) where
  ne_nil := Nat.toDigits_ne_nil
  isDigit := fun _ hc => Nat.isDigit_of_mem_toDigits (by omega) (by omega) hc

/-- A natural number is written as a numeral. -/
theorem isNumeral_repr (n : Nat) : IsNumeral (Nat.repr n).toList := by
  rw [Nat.toList_repr]
  exact .positive (.whole (isDigits_toDigits n))

/-- An integer is written as a numeral. -/
theorem isNumeral_integerText (i : Int) : IsNumeral (integerText i).toList := by
  unfold integerText
  split
  · rw [String.toList_append, Nat.toList_repr]
    exact .negative (.whole (isDigits_toDigits _))
  · exact isNumeral_repr _

/-- The significant digits of a multiple of a power of ten. -/
theorem isDigits_ofScaled (multiple : Nat) (power : Int) :
    IsDigits (Decimal.ofScaled multiple power).digits where
  ne_nil := Decimal.digits_ofScaled_ne_nil multiple power
  isDigit := by
    intro c hc
    unfold Decimal.ofScaled at hc
    dsimp only at hc
    split at hc
    · obtain rfl : c = '0' := by simpa [Decimal.zero] using hc
      rfl
    · have hrev := (List.dropWhile_sublist _).mem (List.mem_reverse.mp hc)
      exact (isDigits_toDigits multiple).isDigit c (List.mem_reverse.mp hrev)

/-- On each grid the choice is between multiples of a power of ten. -/
theorem isDigits_nearestOnGrid {tie : TieRule} {x : Binary64} {power : Int} {decimal : Decimal}
    (hdecimal : x.nearestOnGrid tie power = some decimal) : IsDigits decimal.digits := by
  unfold Binary64.nearestOnGrid at hdecimal
  dsimp only at hdecimal
  split at hdecimal
  all_goals first
    | obtain rfl := Option.some.inj hdecimal
      exact isDigits_ofScaled _ _
    | cases hdecimal

/-- The shortest decimal that reads back is made of digits, whichever grid it lies on. -/
theorem isDigits_shortest (tie : TieRule) (x : Binary64) : IsDigits (x.shortest tie).digits := by
  unfold Binary64.shortest
  dsimp only
  cases hfound : List.findSome? (x.nearestOnGrid tie)
      ((List.range 20).map fun (step : Nat) => x.gridAbove - (step : Int)) with
  | none => exact isDigits_ofScaled _ _
  | some decimal =>
    obtain ⟨power, _, hpower⟩ := List.exists_of_findSome?_eq_some hfound
    exact isDigits_nearestOnGrid hpower

/-- Written out in full, digits give a decimal number. The point always has a digit before it, and
one after it unless it is left out. -/
theorem isUnsigned_positional {decimal : Decimal} (hdigits : IsDigits decimal.digits) :
    IsUnsigned (decimal.positional []) := by
  have hzeros (count : Nat) : ∀ c ∈ List.replicate count '0', c.isDigit = true := by
    intro c hc
    rw [(List.mem_replicate.mp hc).2]
    rfl
  unfold Decimal.positional
  by_cases hpoint : decimal.point ≤ 0
  · rw [if_pos hpoint]
    have hafter : IsDigits (List.replicate (-decimal.point).toNat '0' ++ decimal.digits) := by
      constructor
      · simp [hdigits.ne_nil]
      · intro c hc
        rcases List.mem_append.mp hc with hc | hc
        · exact hzeros _ c hc
        · exact hdigits.isDigit c hc
    have hzero : IsDigits ['0'] := ⟨by simp, by simp⟩
    exact .fractional hzero hafter
  · rw [if_neg hpoint]
    have hbefore : IsDigits (decimal.digits.take decimal.point.toNat) := by
      constructor
      · have hlength := List.length_pos_iff.mpr hdigits.ne_nil
        apply List.ne_nil_of_length_pos
        rw [List.length_take]
        omega
      · exact fun c hc => hdigits.isDigit c (List.mem_of_mem_take hc)
    cases hdrop : decimal.digits.drop decimal.point.toNat with
    | nil =>
      simp only [List.append_nil]
      exact .whole (hbefore.append (hzeros _))
    | cons digit rest =>
      have hafter : IsDigits (digit :: rest) := by
        constructor
        · simp
        · intro c hc
          exact hdigits.isDigit c (List.mem_of_mem_drop (hdrop ▸ hc))
      exact .fractional hbefore hafter

/-- A double is written as a numeral in SQL, which never uses an exponent. -/
theorem isNumeral_numberFormat_text (x : Binary64) :
    IsNumeral (Value.numberFormat.text x).toList := by
  have hzero : IsUnsigned (Decimal.zero.positional []) :=
    isUnsigned_positional ⟨by simp [Decimal.zero], by simp [Decimal.zero]⟩
  have hshortest := isUnsigned_positional (isDigits_shortest .up x)
  have hbody : IsUnsigned (if x.isZero then Decimal.zero.positional []
      else (x.shortest .up).positional []) := by
    split
    · exact hzero
    · exact hshortest
  have htext : (Value.numberFormat.text x).toList =
      if x.isNegative then '-' :: (if x.isZero then Decimal.zero.positional []
        else (x.shortest .up).positional [])
      else if x.isZero then Decimal.zero.positional [] else (x.shortest .up).positional [] := by
    simp [NumberFormat.text, Value.numberFormat]
  rw [htext]
  split
  · exact .negative hbody
  · exact .positive hbody

end SearchSql
