import SearchSql.Proofs.Reading.Value

/-!
# Reading values under a type

A type is a coercion: a value written under it is the coerced value, written by its own form. What
a reader makes of a typed value is therefore known from what it makes of values without a type.
-/

namespace SearchSql

/-- A value taken as a value of an attribute type. Numbers are held within the range of the type,
an absent text stays absent, and a text under the JSON type is a document already. -/
def Value.coerceTo : AttrType → Value → Value
  | .uint, value => .uint value.asUInt64
  | .bigint, value => .int value.asInt64
  | .float, value => .float value.asBinary64
  | .bool, value => .bool value.truthy
  | .string, .null => .null
  | .string, value => .text value.plain
  | .json, .json document => .json document
  | .json, .text s => .text s
  | .json, value => .json value.toDocument
  | .mva, value => .list (value.items.map fun item => .uint (min item.asUInt64 0xFFFFFFFF))
  | .mva64, value => .list (value.items.map fun item => .int item.asInt64)

/-- What is left in SQL of a value that is written under a type, or without one. -/
def Value.coerced (type : Option AttrType) (value : Value) : SqlValue :=
  match type with
  | none => value.normal
  | some type => (value.coerceTo type).normal

namespace Quoting

/-- An element of a set of unsigned 32-bit integers, as a 64-bit number. -/
theorem toNat_min_eq_setItem (item : Value) :
    (min item.asUInt64 0xFFFFFFFF).toNat = setItem item := by
  unfold setItem
  rw [UInt64.toNat_min]
  rfl

/-- Writing a value under a type is writing the coerced value by its own form. -/
theorem typed_eq_untyped_coerceTo (quoteString : String → String) (type : AttrType)
    (value : Value) :
    typed quoteString type value = untyped quoteString (value.coerceTo type) := by
  cases type with
  | uint => rfl
  | bigint => rfl
  | float => rfl
  | bool => rfl
  | string => cases value <;> rfl
  | json => cases value <;> rfl
  | mva =>
    rw [typed, Value.coerceTo, untyped, untypedItems_eq_map, List.map_map]
    congr 1
    apply List.map_congr_left
    intro item _
    rw [Function.comp_apply, untyped, toNat_min_eq_setItem]
  | mva64 =>
    rw [typed, Value.coerceTo, untyped, untypedItems_eq_map, List.map_map]
    rfl

end Quoting

/-- The standard quoter writes a value under a type as the coerced value by its own form. -/
theorem QuoteSettings.quoteValue_some (settings : QuoteSettings) (type : AttrType)
    (value : Value) :
    settings.quoter.quoteValue value (some type) =
      Quoting.untyped settings.quoteString (value.coerceTo type) :=
  Quoting.typed_eq_untyped_coerceTo settings.quoteString type value

namespace Reading

/-- Under any type a value is written as what is left of it. -/
theorem writesValue_quoteValue (settings : QuoteSettings) (type : Option AttrType)
    (value : Value) :
    WritesValue settings (value.coerced type) (settings.quoter.quoteValue value type).toList := by
  cases type with
  | none => exact writesValue_untyped settings value
  | some type =>
    rw [settings.quoteValue_some]
    exact writesValue_untyped settings (value.coerceTo type)

/-- Quoting can be undone under every type and every setting: a reader that knows only how
literals are escaped takes exactly the quoted value from the front of a text, whatever text that
can follow a value stands behind it, and gives the coerced value. -/
theorem takeValue_quoteValue (settings : QuoteSettings) (type : Option AttrType) (value : Value)
    {tail : List Char} (htail : EndsValue tail) :
    takeValue settings.escapeBackslashes
        ((settings.quoter.quoteValue value type).toList ++ tail) =
      some (value.coerced type, tail) :=
  (writesValue_quoteValue settings type value).takeValue_append htail

/-- A text that looks like the end of a list stays in its literal, and numbers out of the range of
a type are held at its ends. -/
theorem takeValue_quoteValue_lists :
    EndsValue ", 'next')".toList ∧
    takeValue false
        (((QuoteSettings.quoter ⟨true, false⟩).quoteValue
          (.list [.text "it's\\', 1)", .list [.null]]) none).toList ++ ", 'next')".toList) =
      some (.list [.text "it's\\', 1)", .list [.null]], ", 'next')".toList) ∧
    takeValue true
        (((QuoteSettings.quoter ⟨true, true⟩).quoteValue
          (.list [.int (-1), .uint 0x1FFFFFFFF, .bool true]) (some .mva)).toList ++
            ", 'next')".toList) =
      some (.list [.number "0", .number "4294967295", .number "1"], ", 'next')".toList) := by
  have htail : EndsValue ", 'next')".toList := endsValue_cons (by decide) _
  exact ⟨htail, takeValue_quoteValue ⟨true, false⟩ none _ htail,
    takeValue_quoteValue ⟨true, true⟩ (some .mva) _ htail⟩

end Reading

end SearchSql
