import SearchSql.Proofs.Numeral
import SearchSql.Proofs.Reading.Literal
import Mathlib.Data.List.Forall2

/-!
# Reading values

A value in SQL is NULL, a numeral, a literal, or a list of values between parentheses. The grammar
says how each of them is written. A reader, given enough fuel, takes one value from the front of a
text and leaves the rest, provided that what follows cannot belong to the value.
-/

namespace SearchSql

/-- A value as SQL has it. -/
inductive SqlValue where
  /-- The absent value. -/
  | null
  /-- A number by its decimal text. -/
  | number (text : String)
  /-- A text. -/
  | text (content : String)
  /-- A list of values. -/
  | list (items : List SqlValue)

mutual

/-- What is left of a value in SQL. Truth values are digits, numbers that are not finite are
absent, and documents are their texts. -/
def Value.normal : Value → SqlValue
  | .null => .null
  | .bool b => .number (if b then "1" else "0")
  | .int i => .number (integerText i.toInt)
  | .uint u => .number (Nat.repr u.toNat)
  | .float x => if x.isFinite then .number (Value.numberFormat.text x) else .null
  | .text s => .text s
  | .list items => .list (Value.normalItems items)
  | .json document => .text document.text

/-- What is left of the elements of a list. -/
def Value.normalItems : List Value → List SqlValue
  | [] => []
  | item :: rest => item.normal :: Value.normalItems rest

end

/-- The elements of a list are normalised one by one. -/
theorem Value.normalItems_eq_map (items : List Value) :
    Value.normalItems items = items.map Value.normal := by
  induction items with
  | nil => rfl
  | cons item rest ih => rw [Value.normalItems, ih, List.map_cons]

namespace Reading

/-! ## Numerals -/

/-- The digits of a number, perhaps with a point and more digits, at the front of a text. -/
def readUnsigned (text : List Char) : Option (List Char × List Char) :=
  let before := text.takeWhile Char.isDigit
  let rest := text.dropWhile Char.isDigit
  if before = [] then none
  else
    match rest with
    | '.' :: more =>
      let after := more.takeWhile Char.isDigit
      if after = [] then some (before, rest)
      else some (before ++ '.' :: after, more.dropWhile Char.isDigit)
    | _ => some (before, rest)

/-- A numeral at the front of a text. -/
def readNumeral : List Char → Option (List Char × List Char)
  | '-' :: rest => keep ['-'] (readUnsigned rest)
  | text => readUnsigned text

/-- A text can follow a value when it is empty or begins with a space, a comma or a closing
parenthesis. -/
def EndsValue (tail : List Char) : Prop :=
  ∀ c, tail.head? = some c → c = ' ' ∨ c = ',' ∨ c = ')'

/-- A text that begins with a character that ends values can follow a value. -/
theorem endsValue_cons {c : Char} (hc : c = ' ' ∨ c = ',' ∨ c = ')') (rest : List Char) :
    EndsValue (c :: rest) := by
  intro d hd
  rw [← Option.some.inj hd]
  exact hc

/-- A text that can follow a value does not go on with it. -/
theorem EndsValue.head?_ne {tail : List Char} (htail : EndsValue tail) {c : Char}
    (hc : ¬(c = ' ' ∨ c = ',' ∨ c = ')')) : tail.head? ≠ some c :=
  fun h => hc (htail c h)

/-- Digits are read up to the first character that is none. -/
theorem takeWhile_dropWhile_digits {digits tail : List Char} (hdigits : IsDigits digits)
    (htail : ∀ c, tail.head? = some c → c.isDigit = false) :
    (digits ++ tail).takeWhile Char.isDigit = digits ∧
      (digits ++ tail).dropWhile Char.isDigit = tail := by
  rw [List.takeWhile_append_of_pos hdigits.isDigit, List.dropWhile_append_of_pos hdigits.isDigit]
  cases tail with
  | nil => simp
  | cons c rest => simp [htail c rfl]

/-- A text that can follow a value does not begin with a digit. -/
theorem EndsValue.isDigit_eq_false {tail : List Char} (htail : EndsValue tail) (c : Char)
    (hc : tail.head? = some c) : c.isDigit = false := by
  rcases htail c hc with rfl | rfl | rfl <;> rfl

/-- A number without a sign is read to its end. -/
theorem readUnsigned_append {cs tail : List Char} (hcs : IsUnsigned cs)
    (htail : EndsValue tail) : readUnsigned (cs ++ tail) = some (cs, tail) := by
  unfold readUnsigned
  cases hcs with
  | whole hdigits =>
    obtain ⟨htake, hdrop⟩ := takeWhile_dropWhile_digits hdigits htail.isDigit_eq_false
    have hpoint := htail.head?_ne (c := '.') (by decide)
    simp only [htake, hdrop, if_neg hdigits.ne_nil]
    split
    · simp at hpoint
    · rfl
  | @fractional before after hbefore hafter =>
    rw [List.append_assoc, List.cons_append]
    have hpoint (c : Char) (hc : ('.' :: (after ++ tail)).head? = some c) :
        c.isDigit = false := by
      rw [← Option.some.inj hc]
      rfl
    obtain ⟨htake, hdrop⟩ := takeWhile_dropWhile_digits hbefore hpoint
    obtain ⟨htakeAfter, hdropAfter⟩ :=
      takeWhile_dropWhile_digits hafter htail.isDigit_eq_false
    simp only [htake, hdrop, htakeAfter, hdropAfter, if_neg hbefore.ne_nil, if_neg hafter.ne_nil]

/-- A numeral is read to its end. -/
theorem readNumeral_append {cs tail : List Char} (hcs : IsNumeral cs) (htail : EndsValue tail) :
    readNumeral (cs ++ tail) = some (cs, tail) := by
  cases hcs with
  | negative hbody => simp [readNumeral, readUnsigned_append hbody htail]
  | positive hbody =>
    have hread := readUnsigned_append hbody htail
    unfold readNumeral
    split
    · next heq =>
      rw [heq] at hread
      simp [readUnsigned] at hread
    · exact hread

/-! ## Values -/

mutual

/-- How a value is written under the settings of a standard quoter. -/
inductive WritesValue (settings : QuoteSettings) : SqlValue → List Char → Prop where
  /-- The absent value is a word. -/
  | null : WritesValue settings .null "NULL".toList
  /-- A number is a numeral. -/
  | number {text : String} (htext : IsNumeral text.toList) :
      WritesValue settings (.number text) text.toList
  /-- A text is a literal. -/
  | text (content : String) : WritesValue settings (.text content)
      (settings.quoteString content).toList
  /-- A list without elements is a pair of parentheses. -/
  | empty : WritesValue settings (.list []) "()".toList
  /-- A list opens before its first element and closes behind the last one. -/
  | list {items : List SqlValue} {cs : List Char} (hitems : WritesItems settings items cs) :
      WritesValue settings (.list items) ('(' :: cs)

/-- How the elements of a list are written, with the parenthesis that closes it. -/
inductive WritesItems (settings : QuoteSettings) : List SqlValue → List Char → Prop where
  /-- The parenthesis stands behind the last element. -/
  | last {item : SqlValue} {cs : List Char} (hitem : WritesValue settings item cs) :
      WritesItems settings [item] (cs ++ [')'])
  /-- A comma and a space stand between an element and the next one. -/
  | cons {item : SqlValue} {items : List SqlValue} {cs rest : List Char}
      (hitem : WritesValue settings item cs) (hitems : WritesItems settings items rest) :
      WritesItems settings (item :: items) (cs ++ ',' :: ' ' :: rest)

end

mutual

/-- One value at the front of a text, with the rest of the text. -/
def readValue (escapes : Bool) : Nat → List Char → Option (SqlValue × List Char)
  | 0, _ => none
  | fuel + 1, text =>
    match text with
    | 'N' :: 'U' :: 'L' :: 'L' :: tail => some (.null, tail)
    | '\'' :: rest =>
      (readLiteral (.ofEscapes escapes) rest).map fun found =>
        (.text (String.ofList found.1), found.2)
    | '(' :: ')' :: tail => some (.list [], tail)
    | '(' :: rest => (readItems escapes fuel rest).map fun found => (.list found.1, found.2)
    | _ => (readNumeral text).map fun found => (.number (String.ofList found.1), found.2)

/-- The elements of a list up to the parenthesis that closes it, with the rest of the text. -/
def readItems (escapes : Bool) : Nat → List Char → Option (List SqlValue × List Char)
  | 0, _ => none
  | fuel + 1, text =>
    match readValue escapes fuel text with
    | some (item, ')' :: tail) => some ([item], tail)
    | some (item, ',' :: ' ' :: rest) =>
      (readItems escapes fuel rest).map fun found => (item :: found.1, found.2)
    | _ => none

end

variable {settings : QuoteSettings}

/-- No value is written without a character. The first one tells its form, and never closes a
list. -/
theorem WritesValue.exists_cons {value : SqlValue} {cs : List Char}
    (h : WritesValue settings value cs) : ∃ c rest, cs = c :: rest ∧ c ≠ ')' := by
  cases h with
  | null => exact ⟨'N', "ULL".toList, rfl, by decide⟩
  | text content =>
    exact ⟨'\'', settings.escape content.toList ++ ['\''], by simp [QuoteSettings.quoteString],
      by decide⟩
  | empty => exact ⟨'(', [')'], rfl, by decide⟩
  | list hitems => exact ⟨'(', _, rfl, by decide⟩
  | number htext =>
    obtain ⟨c, rest, hcs⟩ := List.exists_cons_of_ne_nil htext.ne_nil
    refine ⟨c, rest, hcs, ?_⟩
    rintro rfl
    have hmem := htext.mem (hcs ▸ List.mem_cons_self)
    exact absurd hmem (by decide)

/-- A list goes on after its opening parenthesis with its first element. -/
theorem WritesItems.exists_cons {items : List SqlValue} {cs : List Char}
    (h : WritesItems settings items cs) : ∃ c rest, cs = c :: rest ∧ c ≠ ')' := by
  cases h with
  | last hitem =>
    obtain ⟨c, rest, rfl, hc⟩ := hitem.exists_cons
    exact ⟨c, _, rfl, hc⟩
  | cons hitem hitems =>
    obtain ⟨c, rest, rfl, hc⟩ := hitem.exists_cons
    exact ⟨c, _, rfl, hc⟩

/-- What begins as a numeral is read as a number. -/
theorem readValue_of_isNumeral {escapes : Bool} (fuel : Nat) {cs tail : List Char}
    (hcs : IsNumeral cs) (htail : EndsValue tail) :
    readValue escapes (fuel + 1) (cs ++ tail) = some (.number (String.ofList cs), tail) := by
  obtain ⟨c, rest, rfl⟩ := List.exists_cons_of_ne_nil hcs.ne_nil
  have hfirst : c.isDigit = true ∨ c = '.' ∨ c = '-' := hcs.mem List.mem_cons_self
  have hread := readNumeral_append hcs htail
  rw [List.cons_append] at hread ⊢
  rw [readValue, hread, Option.map_some]
  -- Each other form begins with a character of its own.
  all_goals
    intro rest' heq
    rw [(List.cons.inj heq).1] at hfirst
    exact absurd hfirst (by decide)

/-- A reader with as much fuel as there are characters reads back what is written, a value up to
whatever can follow it and the elements of a list up to its end. -/
theorem readValue_readItems_append (settings : QuoteSettings) (fuel : Nat) :
    (∀ {value : SqlValue} {cs tail : List Char}, WritesValue settings value cs →
      cs.length ≤ fuel → EndsValue tail →
      readValue settings.escapeBackslashes fuel (cs ++ tail) = some (value, tail)) ∧
    (∀ {items : List SqlValue} {cs : List Char} (tail : List Char),
      WritesItems settings items cs → cs.length ≤ fuel →
      readItems settings.escapeBackslashes fuel (cs ++ tail) = some (items, tail)) := by
  -- The recursion of the reader is on its fuel; a list and its elements take turns.
  induction fuel with
  | zero =>
    constructor
    · intro value cs tail h hlength
      obtain ⟨c, rest, rfl, _⟩ := h.exists_cons
      simp at hlength
    · intro items cs tail h hlength
      obtain ⟨c, rest, rfl, _⟩ := h.exists_cons
      simp at hlength
  | succ fuel ih =>
    obtain ⟨hvalue, hitems⟩ := ih
    constructor
    · intro value cs tail h hlength htail
      cases h with
      | null => rfl
      | number htext =>
        rw [readValue_of_isNumeral fuel htext htail, String.ofList_toList]
      | text content =>
        have hquote := htail.head?_ne (c := '\'') (by decide)
        simp [QuoteSettings.quoteString, readValue, readLiteral_escape_append settings _ hquote]
      | empty => rfl
      | @list items cs h =>
        rw [List.length_cons] at hlength
        have hread := hitems tail h (by omega)
        obtain ⟨c, rest, rfl, hc⟩ := h.exists_cons
        rw [List.cons_append] at hread
        rw [List.cons_append, List.cons_append, readValue, hread, Option.map_some]
        intro rest' heq
        exact hc (List.cons.inj heq).1
    · intro items cs tail h hlength
      cases h with
      | last hitem =>
        rw [List.length_append, List.length_singleton] at hlength
        have hend : EndsValue (')' :: tail) := endsValue_cons (by decide) tail
        have hread := hvalue hitem (by omega) hend
        rw [List.append_assoc, List.singleton_append, readItems]
        simp only [hread]
      | @cons item items cs rest hitem hrest =>
        rw [List.length_append, List.length_cons, List.length_cons] at hlength
        have hend : EndsValue (',' :: ' ' :: (rest ++ tail)) := endsValue_cons (by decide) _
        have hread := hvalue hitem (by omega) hend
        rw [List.append_assoc, List.cons_append, List.cons_append, readItems]
        simp only [hread, hitems tail hrest (by omega), Option.map_some]

/-- One value at the front of a text, with the rest of the text. As much fuel as there are
characters is always enough. -/
def takeValue (escapes : Bool) (text : List Char) : Option (SqlValue × List Char) :=
  readValue escapes text.length text

/-- A written value is read back up to whatever can follow it. -/
theorem WritesValue.takeValue_append {value : SqlValue} {cs tail : List Char}
    (h : WritesValue settings value cs) (htail : EndsValue tail) :
    takeValue settings.escapeBackslashes (cs ++ tail) = some (value, tail) := by
  unfold takeValue
  exact (readValue_readItems_append settings _).1 h (by simp) htail

/-! ## What a quoter writes -/

/-- Texts between parentheses, with a comma and a space between them, are the elements of a list
and its end. -/
theorem WritesItems.intercalate {items : List SqlValue} {texts : List String}
    (h : List.Forall₂ (fun item text => WritesValue settings item text.toList) items texts)
    (hne : items ≠ []) :
    WritesItems settings items (", ".toList.intercalate (texts.map String.toList) ++ [')']) := by
  induction h with
  | nil => exact absurd rfl hne
  | @cons item text items texts hitem hitems ih =>
    cases hitems with
    | nil => simpa using WritesItems.last hitem
    | @cons next nextText items texts hnext hrest =>
      have hwritten := WritesItems.cons hitem (ih (List.cons_ne_nil _ _))
      rw [List.map_cons, List.map_cons, List.intercalate_cons_cons]
      simpa using hwritten

/-- A list of values is written when its elements are. -/
theorem WritesValue.listed {items : List SqlValue} {texts : List String}
    (h : List.Forall₂ (fun item text => WritesValue settings item text.toList) items texts) :
    WritesValue settings (.list items) (Quoting.listed texts).toList := by
  have htext : (Quoting.listed texts).toList =
      '(' :: (", ".toList.intercalate (texts.map String.toList) ++ [')']) := by
    simp [Quoting.listed, String.toList_intercalate]
  rw [htext]
  cases h with
  | nil => exact .empty
  | cons hitem hitems => exact .list (.intercalate (.cons hitem hitems) (List.cons_ne_nil _ _))

mutual

/-- A value quoted by its own form is written as what is left of it. -/
theorem writesValue_untyped (settings : QuoteSettings) : (value : Value) →
    WritesValue settings value.normal (Quoting.untyped settings.quoteString value).toList
  | .null => .null
  | .bool true => .number (isNumeral_repr 1)
  | .bool false => .number (isNumeral_repr 0)
  | .int i => .number (isNumeral_integerText i.toInt)
  | .uint u => .number (isNumeral_repr u.toNat)
  | .float x => by
    rw [Value.normal, Quoting.untyped, Value.floatText]
    split
    · exact .number (isNumeral_numberFormat_text x)
    · exact .null
  | .text s => .text s
  | .list items => .listed (forall₂_untypedItems settings items)
  | .json document => .text document.text

/-- The elements of a list are written one by one. -/
theorem forall₂_untypedItems (settings : QuoteSettings) : (items : List Value) →
    List.Forall₂ (fun item text => WritesValue settings item text.toList)
      (Value.normalItems items) (Quoting.untypedItems settings.quoteString items)
  | [] => .nil
  | item :: rest =>
    .cons (writesValue_untyped settings item) (forall₂_untypedItems settings rest)

end

end Reading

end SearchSql
