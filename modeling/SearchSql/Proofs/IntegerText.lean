import SearchSql.Proofs.LeadingNumber
import SearchSql.Proofs.Rounding
import SearchSql.Quoter.Settings

/-!
# Integers given as text

A text is read as a double before it is cut to an integer. So an integer that is given by its
decimal text comes back as it was given exactly if it is a double, or if it is the largest signed
integer, which the double above it is held at.
-/

namespace SearchSql

/-! ### The text of an integer -/

/-- The decimal text of an integer is a minus sign, if it is negative, and its digits. -/
theorem toList_integerText (i : Int) :
    (integerText i).toList = (if i < 0 then ['-'] else []) ++ Nat.toDigits 10 i.natAbs := by
  unfold integerText
  split
  · rw [String.toList_append, Nat.toList_repr]
    rfl
  · rw [Nat.toList_repr, List.nil_append]

/-- The decimal text of a natural number is its digits. -/
theorem integerText_natCast (n : Nat) : integerText n = Nat.repr n := by
  rw [integerText, if_neg (by omega)]
  rfl

/-- Decimal digits have the value that they were written for. -/
theorem digitsValue_toDigits (n : Nat) : digitsValue (Nat.toDigits 10 n) = n :=
  Nat.ofDigitChars_toDigits (by decide) (by decide)

/-- Different integers have different decimal texts. -/
theorem integerText_inj {i j : Int} : integerText i = integerText j ↔ i = j := by
  refine ⟨fun h => ?_, congrArg integerText⟩
  have hdash {n : Nat} {cs : List Char} : Nat.toDigits 10 n ≠ '-' :: cs := by
    intro heq
    have hdigit := (isDigits_toDigits n).isDigit '-' (heq ▸ List.mem_cons_self)
    exact absurd hdigit (by decide)
  have hdigits {m n : Nat} (hmn : Nat.toDigits 10 m = Nat.toDigits 10 n) : m = n := by
    rw [← digitsValue_toDigits m, hmn, digitsValue_toDigits]
  have hlists := congrArg String.toList h
  rw [toList_integerText, toList_integerText] at hlists
  by_cases hi : i < 0
  · by_cases hj : j < 0
    · rw [if_pos hi, if_pos hj, List.append_cancel_left_eq] at hlists
      have habs := hdigits hlists
      omega
    · rw [if_pos hi, if_neg hj, List.nil_append] at hlists
      exact absurd hlists.symm hdash
  · by_cases hj : j < 0
    · rw [if_neg hi, if_pos hj, List.nil_append] at hlists
      exact absurd hlists hdash
    · rw [if_neg hi, if_neg hj, List.append_cancel_left_eq] at hlists
      have habs := hdigits hlists
      omega

/-- The decimal text of an integer counts as the double nearest to it. -/
theorem leadingNumber?_integerText (i : Int) :
    leadingNumber? (integerText i) = some (Binary64.ofInt i) := by
  have hsign : (if i < 0 then ['-'] else []) ∈ numberSigns := by
    split <;> decide
  have hbody : IsUnsigned (Nat.toDigits 10 i.natAbs) := .whole (isDigits_toDigits _)
  have hnumber : IsSigned (integerText i).toList := by
    rw [toList_integerText]
    exact .intro hsign hbody
  have hread := readNumber_append hsign hbody []
  rw [List.append_nil, List.append_nil] at hread
  rw [hnumber.leadingNumber?, toList_integerText, hread]
  unfold readMagnitude
  rw [unsignedParts_digits (isDigits_toDigits _).isDigit]
  have hnotEmpty : (Nat.toDigits 10 i.natAbs).isEmpty = false :=
    List.isEmpty_eq_false_iff.mpr (isDigits_toDigits _).ne_nil
  simp only [hnotEmpty, List.append_nil, digitsValue_toDigits, Bool.false_and,
    Bool.false_eq_true, if_false]
  unfold Binary64.ofInt
  by_cases hi : i < 0
  · simp [hi]
  · simp [hi]

/-! ### What a quoter writes -/

/-- The quoter that has the given primitives and takes all other rules as they are. -/
def Quoter.ofPrimitives (quoteIdentifier quoteString : String → String) : Quoter where
  quoteIdentifier := quoteIdentifier
  quoteString := quoteString

/-- A quoter that takes the rules as they are writes a value under a type by them. -/
theorem Quoter.quoteValue_ofPrimitives (quoteIdentifier quoteString : String → String)
    (value : Value) (type : AttrType) :
    (ofPrimitives quoteIdentifier quoteString).quoteValue value (some type) =
      Quoting.typed quoteString type value := rfl

namespace Quoting

variable (quoteString : String → String) (value : Value)

/-- An unsigned integer is written by its digits. -/
theorem typed_uint : typed quoteString .uint value = Nat.repr value.asUInt64.toNat := by
  rw [typed]

/-- A signed integer is written by its decimal text. -/
theorem typed_bigint : typed quoteString .bigint value = integerText value.asInt64.toInt := by
  rw [typed]

/-- A set of unsigned integers is written element by element, each held at the end of 32 bits. -/
theorem typed_mva :
    typed quoteString .mva value =
      listed (value.items.map fun item => Nat.repr (setItem item)) := by
  rw [typed]

/-- A set of signed integers is written element by element. -/
theorem typed_mva64 :
    typed quoteString .mva64 value =
      listed (value.items.map fun item => integerText item.asInt64.toInt) := by
  rw [typed]

/-- A list of one text is that text between parentheses. -/
theorem listed_singleton (text : String) : listed [text] = "(" ++ text ++ ")" := by
  rw [listed, String.intercalate_singleton]

end Quoting

/-! ### Which integers come back -/

open Binary64 (nearest FitsSignificand nearest_eq_self_iff nearest_le_two_pow two_pow_le_nearest
  sign_mul_nearest)

/-- Held within the range of signed 64-bit integers, an integer is cut at its ends. -/
theorem toInt_ofIntClamp (i : Int) :
    (Int64.ofIntClamp i).toInt = max (-2 ^ 63) (min i (2 ^ 63 - 1)) := by
  unfold Int64.ofIntClamp
  split
  · next hlow =>
    rw [Int64.toInt_minValue] at hlow
    split
    · next hhigh =>
      rw [Int64.toInt_maxValue] at hhigh
      rw [Int64.toInt_ofIntLE]
      omega
    · next hhigh =>
      rw [Int64.toInt_maxValue] at hhigh ⊢
      omega
  · next hlow =>
    rw [Int64.toInt_minValue] at hlow ⊢
    omega

namespace Value

/-- A value that is not unsigned already counts as a signed integer, and a negative one as zero. -/
theorem toNat_asUInt64 {value : Value} (h : ∀ u, value ≠ .uint u) :
    value.asUInt64.toNat = value.asInt64.toInt.toNat := by
  have hrule : value.asUInt64 = if value.asInt64 < 0 then 0 else value.asInt64.toUInt64 := by
    cases value with
    | uint u => exact absurd rfl (h u)
    | _ => rfl
  rw [hrule]
  split
  · next hneg =>
    rw [Int64.lt_iff_toInt_lt] at hneg
    have hzero : (0 : Int64).toInt = 0 := rfl
    rw [hzero] at hneg
    exact (Int.toNat_of_nonpos (by omega)).symm
  · next hneg =>
    have hle : 0 ≤ value.asInt64 := Int64.not_lt.mp hneg
    rw [Int64.toNat_toUInt64_of_le hle]
    rfl

/-- An integer given by its decimal text is rounded to the nearest double and held within the
range. -/
theorem asInt64_integerText {i : Int} (h : i.natAbs < 2 ^ 64) :
    (Value.text (integerText i)).asInt64 = Int64.ofIntClamp (i.sign * nearest i.natAbs) := by
  rw [asInt64_text, leadingNumber?_integerText, Option.map_some, Option.getD_some,
    Binary64.toInt64_ofInt h]

/-- The double nearest to the largest signed integer is the next power of two. -/
theorem nearest_maxValue : nearest (2 ^ 63 - 1) = 2 ^ 63 := by
  decide +kernel

/-- A signed integer given by its decimal text comes back exactly if it has at most fifty-three
significant bits or is the largest one. -/
theorem asInt64_integerText_eq_iff (n : Int64) :
    (Value.text (integerText n.toInt)).asInt64 = n ↔
      FitsSignificand n.toInt.natAbs ∨ n = Int64.maxValue := by
  have hlow := n.le_toInt
  have hhigh := n.toInt_lt
  have hround : nearest n.toInt.natAbs ≤ 2 ^ 63 := nearest_le_two_pow (by omega)
  have hlast : n.toInt = 2 ^ 63 - 1 → nearest n.toInt.natAbs = 2 ^ 63 := by
    intro hmax
    rw [hmax]
    exact nearest_maxValue
  rw [asInt64_integerText (by omega), ← nearest_eq_self_iff, ← Int64.toInt_inj,
    ← Int64.toInt_inj, toInt_ofIntClamp, Int64.toInt_maxValue]
  by_cases hneg : n.toInt < 0
  · rw [Int.sign_eq_neg_one_of_neg hneg]
    omega
  · rw [sign_mul_nearest (by omega)]
    omega

/-- An unsigned integer given by its decimal text comes back exactly if it is a signed integer
with at most fifty-three significant bits or the largest one. -/
theorem asUInt64_repr_eq_iff (n : UInt64) :
    (Value.text (Nat.repr n.toNat)).asUInt64 = n ↔
      n.toNat < 2 ^ 63 ∧ FitsSignificand n.toNat ∨ n.toNat = 2 ^ 63 - 1 := by
  have hrange : n.toNat < 2 ^ 64 := n.toNat_lt
  have hinteger : (Value.text (Nat.repr n.toNat)).asInt64.toInt =
      min (nearest n.toNat : Int) (2 ^ 63 - 1) := by
    rw [← integerText_natCast, asInt64_integerText (by simpa using hrange), toInt_ofIntClamp,
      sign_mul_nearest (by omega), Int.natAbs_natCast]
    omega
  have hunsigned : (Value.text (Nat.repr n.toNat)).asUInt64.toNat =
      min (nearest n.toNat) (2 ^ 63 - 1) := by
    rw [toNat_asUInt64 (by simp), hinteger]
    omega
  have hround (h : n.toNat < 2 ^ 63) : nearest n.toNat ≤ 2 ^ 63 := nearest_le_two_pow (by omega)
  have hlarge (h : 2 ^ 63 ≤ n.toNat) : 2 ^ 63 ≤ nearest n.toNat := two_pow_le_nearest h
  have hlast (h : n.toNat = 2 ^ 63 - 1) : nearest n.toNat = 2 ^ 63 := by
    rw [h]
    exact nearest_maxValue
  rw [← nearest_eq_self_iff, ← UInt64.toNat_inj, hunsigned]
  omega

/-- An integer that is given by its decimal text comes back as it was given exactly if it has at
most fifty-three significant bits or is the largest signed 64-bit integer. A quoter that takes the
rules for values as they are then writes it as it was given, and otherwise it does not. -/
theorem asInt64_asUInt64_integerText (quoteIdentifier quoteString : String → String) :
    let quoter := Quoter.ofPrimitives quoteIdentifier quoteString
    (∀ n : Int64,
      let value := Value.text (integerText n.toInt)
      (value.asInt64 = n ↔ FitsSignificand n.toInt.natAbs ∨ n = Int64.maxValue) ∧
        (quoter.quoteValue value (some .bigint) = integerText n.toInt ↔ value.asInt64 = n) ∧
        (quoter.quoteValue value (some .mva64) = "(" ++ integerText n.toInt ++ ")" ↔
          value.asInt64 = n)) ∧
    ∀ n : UInt64,
      let value := Value.text (Nat.repr n.toNat)
      (value.asUInt64 = n ↔
          n.toNat < 2 ^ 63 ∧ FitsSignificand n.toNat ∨ n.toNat = 2 ^ 63 - 1) ∧
        (quoter.quoteValue value (some .uint) = Nat.repr n.toNat ↔ value.asUInt64 = n) := by
  intro quoter
  constructor
  · intro n value
    have hsame : integerText value.asInt64.toInt = integerText n.toInt ↔ value.asInt64 = n := by
      rw [integerText_inj, Int64.toInt_inj]
    have hitems : value.items = [value] := rfl
    rw [Quoter.quoteValue_ofPrimitives, Quoter.quoteValue_ofPrimitives, Quoting.typed_bigint,
      Quoting.typed_mva64, hitems, List.map_singleton, Quoting.listed_singleton,
      String.append_left_inj, String.append_right_inj]
    exact ⟨asInt64_integerText_eq_iff n, hsame, hsame⟩
  · intro n value
    rw [Quoter.quoteValue_ofPrimitives, Quoting.typed_uint, ← integerText_natCast,
      ← integerText_natCast, integerText_inj, Int.natCast_inj, UInt64.toNat_inj]
    exact ⟨asUInt64_repr_eq_iff n, Iff.rfl⟩

/-- The first integer that no double has is written as its neighbour, and the largest unsigned one
as the largest signed one. -/
theorem asInt64_asUInt64_integerText_rounded :
    integerText (9007199254740993 : Int64).toInt = "9007199254740993" ∧
      (Value.text "9007199254740993").asInt64 = 9007199254740992 ∧
      (QuoteSettings.quoter ⟨true, true⟩).quoteValue (.text "9007199254740993") (some .bigint) =
        "9007199254740992" ∧
      Nat.repr (18446744073709551615 : UInt64).toNat = "18446744073709551615" ∧
      (Value.text "18446744073709551615").asUInt64 = 9223372036854775807 ∧
      (QuoteSettings.quoter ⟨true, true⟩).quoteValue (.text "18446744073709551615") (some .uint) =
        "9223372036854775807" := by
  decide +kernel

end Value

end SearchSql
