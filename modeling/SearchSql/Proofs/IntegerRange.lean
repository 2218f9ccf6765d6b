import SearchSql.Proofs.IntegerText

/-!
# The range of the integers that are written

Under the signed integer types every value is written as signed 64-bit integers, whatever its form.
The elements of a set of unsigned integers are held at the end of 32 bits. A single unsigned integer
is not: it leaves the range of its type exactly if the value is too large itself.
-/

namespace SearchSql

/-- The text is that of an integer in the given range. -/
def WritesInteger (low high : Int) (text : String) : Prop :=
  ∃ i : Int, text = integerText i ∧ low ≤ i ∧ i ≤ high

/-- The text is that of a list of so many integers, all of them in the given range. -/
def WritesIntegers (low high : Int) (count : Nat) (text : String) : Prop :=
  ∃ is : List Int, text = Quoting.listed (is.map integerText) ∧ is.length = count ∧
    ∀ i ∈ is, low ≤ i ∧ i ≤ high

/-- The text of an integer is that of an integer in the range exactly if the integer is in it. -/
theorem writesInteger_integerText_iff {low high i : Int} :
    WritesInteger low high (integerText i) ↔ low ≤ i ∧ i ≤ high := by
  constructor
  · rintro ⟨j, htext, hlow, hhigh⟩
    rw [integerText_inj.mp htext]
    exact ⟨hlow, hhigh⟩
  · rintro ⟨hlow, hhigh⟩
    exact ⟨i, rfl, hlow, hhigh⟩

/-- A list that is written element by element is a list of integers in the range if all of its
elements are. -/
theorem writesIntegers_listed_map {low high : Int} {integer : Value → Int} {items : List Value}
    (h : ∀ item ∈ items, low ≤ integer item ∧ integer item ≤ high) :
    WritesIntegers low high items.length
      (Quoting.listed (items.map fun item => integerText (integer item))) := by
  refine ⟨items.map integer, ?_, List.length_map integer, List.forall_mem_map.mpr h⟩
  rw [List.map_map]
  rfl

/-! ### Which values are too large -/

/-- A value that counts as more than the largest unsigned 32-bit integer. A double that is not
finite counts as zero, but a text whose leading number is too large for a double does not. -/
def Value.ExceedsUInt32 : Value → Prop
  | .int i => 0xFFFFFFFF < i.toInt
  | .uint u => 0xFFFFFFFF < u.toNat
  | .float x => x.isFinite = true ∧ 0xFFFFFFFF < x.truncate
  | .text s => ∃ x, leadingNumber? s = some x ∧
      if x.isFinite then 0xFFFFFFFF < x.truncate else x.isNegative = false
  | _ => False

/-- Cut to an integer, a double exceeds a small bound if it does so before, and infinity exceeds
every one. -/
theorem Binary64.lt_toInt_toInt64_iff {x : Binary64} (h : x.isNaN = false) :
    0xFFFFFFFF < x.toInt64.toInt ↔
      if x.isFinite then 0xFFFFFFFF < x.truncate else x.isNegative = false := by
  unfold toInt64
  rw [if_neg (by simp [h])]
  split
  · rw [toInt_ofIntClamp]
    omega
  · cases x.isNegative <;> decide

/-- The number that a text starts with is a number or infinity. -/
theorem isNaN_of_leadingNumber? {text : String} {x : Binary64} (h : leadingNumber? text = some x) :
    x.isNaN = false := by
  have hmagnitude {negative : Bool} {body : List Char}
      (hread : readMagnitude negative body = some x) : x.isNaN = false := by
    unfold readMagnitude at hread
    split at hread
    · cases hread
    · obtain ⟨-, hvalue⟩ := Option.ite_none_left_eq_some.mp hread
      rw [← Option.some.inj hvalue]
      exact Binary64.isNaN_ofRatio _ _ _
  unfold leadingNumber? at h
  rw [readNumber_eq] at h
  split at h
  · exact hmagnitude h
  · exact hmagnitude h
  · exact hmagnitude h

/-- A value is too large exactly if its unsigned integer is. -/
theorem Value.exceedsUInt32_iff (value : Value) :
    value.ExceedsUInt32 ↔ 0xFFFFFFFF < value.asUInt64.toNat := by
  have hsigned (hform : ∀ u, value ≠ .uint u) :
      0xFFFFFFFF < value.asUInt64.toNat ↔ 0xFFFFFFFF < value.asInt64.toInt := by
    rw [toNat_asUInt64 hform]
    omega
  cases value with
  | uint u => exact Iff.rfl
  | int i =>
    rw [hsigned (by simp)]
    exact Iff.rfl
  | float x =>
    rw [hsigned (by simp), ExceedsUInt32, asInt64]
    split
    · next hfinite =>
      rw [Binary64.lt_toInt_toInt64_iff (Binary64.isNaN_of_isFinite hfinite), if_pos hfinite]
      exact and_iff_right hfinite
    · next hinfinite =>
      exact iff_of_false (fun h => hinfinite h.1) (by decide)
  | text s =>
    rw [hsigned (by simp), ExceedsUInt32, asInt64_text]
    cases hread : leadingNumber? s with
    | none => exact iff_of_false (by simp) (by decide)
    | some x =>
      rw [Option.map_some, Option.getD_some,
        Binary64.lt_toInt_toInt64_iff (isNaN_of_leadingNumber? hread)]
      simp
  | bool b =>
    rw [hsigned (by simp), asInt64]
    exact iff_of_false id (by cases b <;> decide)
  | null | list _ | json _ =>
    rw [hsigned (by simp), asInt64]
    exact iff_of_false id (by decide)

instance (value : Value) : Decidable value.ExceedsUInt32 :=
  decidable_of_iff _ value.exceedsUInt32_iff.symm

/-! ### What is written -/

/-- A value that is no list is written alike as an unsigned integer and as a set of one exactly if
it is not too large. -/
theorem Quoting.typed_mva_eq_iff (quoteString : String → String) {value : Value}
    (h : value.isList = false) :
    typed quoteString .mva value = "(" ++ typed quoteString .uint value ++ ")" ↔
      ¬value.ExceedsUInt32 := by
  have hitems : value.items = [value] := by
    cases value with
    | list items => cases h
    | _ => rfl
  rw [typed_mva, hitems, List.map_singleton, listed_singleton, typed_uint, setItem,
    String.append_left_inj, String.append_right_inj, ← integerText_natCast, ← integerText_natCast,
    integerText_inj, Int.natCast_inj, Value.exceedsUInt32_iff]
  omega

/-- Whatever the value, a quoter that takes the rules for values as they are writes signed 64-bit
integers under the signed types and unsigned 32-bit integers as the elements of a set. Under the
unsigned type it writes an unsigned 64-bit integer, which has 32 bits exactly if the value is not
too large for that; and then, unless it is a list, it is written alike as a set. -/
theorem Quoter.writesInteger_quoteValue (quoteIdentifier quoteString : String → String)
    (value : Value) :
    let quoter := Quoter.ofPrimitives quoteIdentifier quoteString
    let unsigned := quoter.quoteValue value (some .uint)
    let set := quoter.quoteValue value (some .mva)
    WritesInteger 0 0xFFFFFFFFFFFFFFFF unsigned ∧
      (WritesInteger 0 0xFFFFFFFF unsigned ↔ ¬value.ExceedsUInt32) ∧
      WritesIntegers 0 0xFFFFFFFF value.items.length set ∧
      WritesInteger Int64.minValue.toInt Int64.maxValue.toInt
        (quoter.quoteValue value (some .bigint)) ∧
      WritesIntegers Int64.minValue.toInt Int64.maxValue.toInt value.items.length
        (quoter.quoteValue value (some .mva64)) ∧
      (value.isList = false → (set = "(" ++ unsigned ++ ")" ↔ ¬value.ExceedsUInt32)) := by
  intro quoter unsigned set
  have hunsigned : unsigned = integerText value.asUInt64.toNat := by
    rw [integerText_natCast]
    exact Quoting.typed_uint quoteString value
  have hset : set = Quoting.listed (value.items.map fun item =>
      integerText (Quoting.setItem item : Nat)) := by
    simp only [integerText_natCast]
    exact Quoting.typed_mva quoteString value
  have hsigned (v : Value) :
      Int64.minValue.toInt ≤ v.asInt64.toInt ∧ v.asInt64.toInt ≤ Int64.maxValue.toInt :=
    ⟨v.asInt64.minValue_le_toInt, v.asInt64.toInt_le⟩
  have hrange : value.asUInt64.toNat < 18446744073709551616 := value.asUInt64.toNat_lt
  refine ⟨?_, ?_, ?_, ?_, ?_, ?_⟩
  · rw [hunsigned, writesInteger_integerText_iff]
    omega
  · rw [hunsigned, writesInteger_integerText_iff, Value.exceedsUInt32_iff]
    omega
  · rw [hset]
    refine writesIntegers_listed_map fun item _ => ?_
    rw [Quoting.setItem]
    omega
  · rw [quoteValue_ofPrimitives, Quoting.typed_bigint]
    exact writesInteger_integerText_iff.mpr (hsigned value)
  · rw [quoteValue_ofPrimitives, Quoting.typed_mva64]
    exact writesIntegers_listed_map fun item _ => hsigned item
  · exact Quoting.typed_mva_eq_iff quoteString

/-- A text that is not too large once it is cut is written alike under both types. -/
theorem Quoter.writesInteger_quoteValue_fractional :
    (Value.text "4294967295.9").isList = false ∧
      ¬(Value.text "4294967295.9").ExceedsUInt32 ∧
      (QuoteSettings.quoter ⟨true, true⟩).quoteValue (.text "4294967295.9") (some .mva) =
        "(" ++ (QuoteSettings.quoter ⟨true, true⟩).quoteValue (.text "4294967295.9") (some .uint)
          ++ ")" := by
  obtain ⟨-, -, -, -, -, halike⟩ := writesInteger_quoteValue
    (QuoteSettings.quoteIdentifier ⟨true, true⟩) (QuoteSettings.quoteString ⟨true, true⟩)
    (.text "4294967295.9")
  have hsmall : ¬(Value.text "4294967295.9").ExceedsUInt32 := by decide +kernel
  exact ⟨rfl, hsmall, (halike rfl).mpr hsmall⟩

/-- The first integer above the range is held at its end in a set, and is written as it is under the
unsigned type. -/
theorem Quoter.quoteValue_uint_tooLarge :
    (QuoteSettings.quoter ⟨true, true⟩).quoteValue (.uint 4294967296) (some .uint) =
        "4294967296" ∧
      (QuoteSettings.quoter ⟨true, true⟩).quoteValue (.uint 4294967296) (some .mva) =
        "(4294967295)" ∧
      ¬WritesInteger 0 0xFFFFFFFF "4294967296" := by
  have htext : "4294967296" = integerText 4294967296 := by decide
  refine ⟨by decide, by decide, ?_⟩
  rw [htext, writesInteger_integerText_iff]
  decide

end SearchSql
