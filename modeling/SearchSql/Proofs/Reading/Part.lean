import SearchSql.Proofs.Reading.Clause

/-!
# Reading the parts of a statement

A statement is made of parts that stand one behind the other: names and values alone, lists of
them with commas in between, and clauses that begin with a keyword and may be left out. Each part
ends where the next one begins, or where the statement ends, and no part takes anything of the
next one with it.
-/

namespace SearchSql.Reading

variable {α β : Type}

/-- A text is read as an item and no further, whatever stands behind it that meets a condition. -/
def ReadsAs (read : List Char → Option (α × List Char)) (Ends : List Char → Prop) (item : α)
    (text : List Char) : Prop :=
  ∀ tail, Ends tail → read (text ++ tail) = some (item, tail)

/-- A text can follow a part of a statement when it continues neither a value, nor a list, nor the
predicates of a clause. -/
structure EndsPart (tail : List Char) : Prop where
  /-- A value ends before it. -/
  endsValue : EndsValue tail
  /-- A list has no further element. -/
  not_comma : tail.head? ≠ some ','
  /-- There is no further predicate. -/
  not_and : readWord " AND " tail = none

/-- Nothing follows the last part. -/
theorem endsPart_nil : EndsPart [] := ⟨by simp [EndsValue], by simp, rfl⟩

/-- A closing parenthesis ends the part inside. -/
theorem endsPart_parenthesis (rest : List Char) : EndsPart (')' :: rest) :=
  ⟨endsValue_cons (by decide) rest, by simp, by simp [readWord, List.dropPrefix?]⟩

/-- What ends a value also ends a name. -/
theorem EndsValue.endsName {tail : List Char} (htail : EndsValue tail) : EndsName tail :=
  ⟨htail.head?_ne (by decide), htail.head?_ne (by decide)⟩

/-! ## Lists -/

/-- Items with a comma and a space between them at the front of a text, with the rest of the
text. -/
def readSeparated (read : List Char → Option (α × List Char)) :
    Nat → List Char → Option (List α × List Char)
  | 0, _ => none
  | fuel + 1, text => do
    let (item, text) ← read text
    match readWord ", " text with
    | none => some ([item], text)
    | some text => do
      let (items, text) ← readSeparated read fuel text
      some (item :: items, text)

/-- Items with a comma and a space between them at the front of a text. There are never more of
them than characters, and one more for a list that is not empty. -/
def takeSeparated (read : List Char → Option (α × List Char)) (text : List Char) :
    Option (List α × List Char) :=
  readSeparated read (text.length + 1) text

/-- A text that does not begin with a comma does not go on with another item. -/
theorem readWord_comma_eq_none {tail : List Char} (hcomma : tail.head? ≠ some ',') :
    readWord ", " tail = none := by
  cases tail with
  | nil => rfl
  | cons c rest =>
    have hc : c ≠ ',' := by simpa using hcomma
    simp [readWord, List.dropPrefix?, hc]

/-- Joined texts have at least as many characters as there are commas between them. -/
theorem length_le_intercalate (texts : List (List Char)) :
    texts.length ≤ (", ".toList.intercalate texts).length + 1 := by
  induction texts with
  | nil => exact Nat.zero_le _
  | cons text texts ih =>
    cases texts with
    | nil => simp
    | cons next texts =>
      have hcomma : ", ".toList.length = 2 := rfl
      rw [List.intercalate_cons_cons, List.length_append, List.length_append, List.length_cons]
      omega

/-- Items that are read one by one are read as a list, up to a text that does not begin with
another comma. -/
theorem ReadsAs.separated {read : List Char → Option (α × List Char)} {Ends : List Char → Prop}
    {items : List α} {texts : List (List Char)} (h : List.Forall₂ (ReadsAs read Ends) items texts)
    (hne : items ≠ []) (hcomma : ∀ rest, Ends (", ".toList ++ rest)) :
    ReadsAs (takeSeparated read) (fun tail => Ends tail ∧ tail.head? ≠ some ',') items
      (", ".toList.intercalate texts) := by
  intro tail htail
  have hread : ∀ fuel, items.length ≤ fuel →
      readSeparated read fuel (", ".toList.intercalate texts ++ tail) = some (items, tail) := by
    induction h with
    | nil => exact absurd rfl hne
    | @cons item text items texts hfirst hothers ih =>
      intro fuel hfuel
      obtain ⟨fuel, rfl⟩ :=
        Nat.exists_eq_add_one.mpr (Nat.lt_of_lt_of_le (Nat.succ_pos _) hfuel)
      cases hothers with
      | nil =>
        have hitem := hfirst tail htail.1
        rw [List.intercalate_singleton, readSeparated]
        simp only [hitem, readWord_comma_eq_none htail.2, Option.bind_eq_bind, Option.bind_some]
      | @cons next nextText items texts hnext hrest =>
        have hothersRead := ih (List.cons_ne_nil _ _) fuel (Nat.le_of_succ_le_succ hfuel)
        rw [List.intercalate_cons_cons, List.append_assoc, List.append_assoc, readSeparated]
        simp only [hfirst _ (hcomma _), readWord_append, hothersRead, Option.bind_eq_bind,
          Option.bind_some]
  have hlength := length_le_intercalate texts
  rw [← h.length_eq] at hlength
  apply hread
  rw [List.length_append]
  omega

/-- A list of texts with commas in between is read as its items are. -/
theorem ReadsAs.intercalate {read : List Char → Option (α × List Char)} {items : List α}
    {texts : List String}
    (h : List.Forall₂ (fun item text => ReadsAs read EndsValue item text.toList) items texts)
    (hne : items ≠ []) :
    ReadsAs (takeSeparated read) EndsPart items (", ".intercalate texts).toList := by
  have hchars : List.Forall₂ (ReadsAs read EndsValue) items (texts.map String.toList) :=
    List.forall₂_map_right_iff.mpr h
  rw [String.toList_intercalate]
  intro tail htail
  exact ReadsAs.separated hchars hne (fun _ => endsValue_cons (by decide) _) tail
    ⟨htail.endsValue, htail.not_comma⟩

/-! ## Names -/

/-- A name at the front of a text, with the rest of the text. -/
def readIdentifier (text : List Char) : Option (String × List Char) :=
  (readName text).map fun found => (String.ofList found.1, found.2)

section Names

variable {settings : QuoteSettings} (hquote : settings.quoteIdentifiers = true)

include hquote

/-- A quoted name is read back, up to any text that does not go on with it. -/
theorem readsAs_quotedName (name : String) :
    ReadsAs readIdentifier EndsName name (settings.quoter.quoteIdentifier name).toList := by
  intro tail htail
  have hname := readName_quoteIdentifier hquote name htail
  unfold readIdentifier
  rw [show settings.quoter.quoteIdentifier name = settings.quoteIdentifier name from rfl, hname,
    Option.map_some, String.ofList_toList]

/-- A quoted name is read back where a value could end. -/
theorem readsAs_quoteIdentifier (name : String) :
    ReadsAs readIdentifier EndsValue name (settings.quoter.quoteIdentifier name).toList :=
  fun tail htail => readsAs_quotedName hquote name tail htail.endsName

/-- A list of quoted names is read back. -/
theorem readsAs_quoteIdentifierList {names : List String} (hne : names ≠ []) :
    ReadsAs (takeSeparated readIdentifier) EndsPart names
      (settings.quoter.quoteIdentifierList names).toList := by
  apply ReadsAs.intercalate _ hne
  rw [List.forall₂_map_right_iff]
  exact List.forall₂_same.mpr fun name _ => readsAs_quoteIdentifier hquote name

end Names

/-! ## Clauses that may be left out -/

/-- What stands behind a keyword, or nothing if the keyword is not there. -/
def readOptional (keyword : String) (read : List Char → Option (List α × List Char))
    (text : List Char) : Option (List α × List Char) :=
  match readWord keyword text with
  | none => some ([], text)
  | some text => read text

/-- How a clause is written that is left out when it has no items. -/
inductive WritesOptional (keyword : String) (read : List Char → Option (List α × List Char)) :
    List α → List Char → Prop where
  /-- Without items there is no keyword. -/
  | absent : WritesOptional keyword read [] []
  /-- The items stand behind the keyword. -/
  | present {items : List α} {body : List Char} (hbody : ReadsAs read EndsPart items body) :
    WritesOptional keyword read items (keyword.toList ++ body)

/-- A clause that is written only when something is given is left out when it has no items. -/
theorem WritesOptional.unless_isEmpty {given : List β} {keyword body : String}
    {read : List Char → Option (List α × List Char)} {items : List α}
    (hnone : given = [] → items = [])
    (hbody : given ≠ [] → ReadsAs read EndsPart items body.toList) :
    WritesOptional keyword read items
      (if given.isEmpty then "" else keyword ++ body).toList := by
  cases given with
  | nil =>
    rw [hnone rfl]
    exact .absent
  | cons first rest =>
    rw [List.isEmpty_cons, if_neg Bool.false_ne_true, String.toList_append]
    exact .present (hbody (List.cons_ne_nil first rest))

/-- A text is at its end or goes on with one of the keywords. -/
inductive GoesOn (keywords : List String) : List Char → Prop where
  /-- There is nothing more. -/
  | nil : GoesOn keywords []
  /-- Something follows behind a keyword. -/
  | keyword {keyword : String} (hkeyword : keyword ∈ keywords) (rest : List Char) :
    GoesOn keywords (keyword.toList ++ rest)

/-- Two words that are told apart by the characters they have in common places. -/
def Apart (left right : String) : Prop :=
  ¬left.toList <+: right.toList ∧ ¬right.toList <+: left.toList

instance (left right : String) : Decidable (Apart left right) :=
  inferInstanceAs (Decidable (_ ∧ _))

/-- A keyword begins with a space, and neither it nor the word for another predicate is taken for
the keyword of the clause before. -/
def Follows (before keyword : String) : Prop :=
  keyword.toList.head? = some ' ' ∧ Apart " AND " keyword ∧ Apart before keyword

instance (before keyword : String) : Decidable (Follows before keyword) :=
  inferInstanceAs (Decidable (_ ∧ _ ∧ _))

/-- A word that is read stands at the front of the text. -/
theorem prefix_of_readWord_eq_some {word : String} {text rest : List Char}
    (h : readWord word text = some rest) : word.toList <+: text := by
  unfold readWord at h
  obtain ⟨front, rfl, hfront⟩ := List.dropPrefix?_eq_some_iff.mp h
  rw [← eq_of_beq hfront]
  exact List.prefix_append front rest

/-- A word is not found where another one stands that is apart from it. -/
theorem Apart.readWord_append {word other : String} (hapart : Apart word other)
    (rest : List Char) : readWord word (other.toList ++ rest) = none := by
  cases hread : readWord word (other.toList ++ rest) with
  | none => rfl
  | some found =>
    have hword := prefix_of_readWord_eq_some hread
    rcases List.prefix_or_prefix_of_prefix hword (List.prefix_append other.toList rest) with h | h
    · exact absurd h hapart.1
    · exact absurd h hapart.2

variable {keyword : String} {keywords : List String} {tail : List Char}

/-- A clause before the given keywords is read past by looking for its own keyword. -/
theorem GoesOn.readWord_eq_none (h : GoesOn keywords tail)
    (hfollows : ∀ next ∈ keywords, Follows keyword next) (hne : keyword ≠ "") :
    readWord keyword tail = none := by
  cases h with
  | nil =>
    cases hread : readWord keyword [] with
    | none => rfl
    | some found =>
      have hnil := List.prefix_nil.mp (prefix_of_readWord_eq_some hread)
      exact absurd (String.toList_eq_nil_iff.mp hnil) hne
  | keyword hnext rest => exact (hfollows _ hnext).2.2.readWord_append rest

/-- A part ends before the keyword of a clause. -/
theorem GoesOn.endsPart (h : GoesOn keywords tail) (before : String)
    (hfollows : ∀ next ∈ keywords, Follows before next) : EndsPart tail := by
  cases h with
  | nil => exact endsPart_nil
  | @keyword next hnext rest =>
    obtain ⟨hspace, hand, _⟩ := hfollows _ hnext
    obtain ⟨others, hothers⟩ : ∃ others, next.toList = ' ' :: others := by
      cases hchars : next.toList with
      | nil => simp [hchars] at hspace
      | cons c others =>
        rw [hchars] at hspace
        exact ⟨others, by rw [Option.some.inj hspace]⟩
    refine ⟨?_, ?_, hand.readWord_append rest⟩
    · rw [hothers]
      exact endsValue_cons (.inl rfl) _
    · simp [hothers]

/-- A clause that may be left out adds its keyword to those that may come next. -/
theorem WritesOptional.goesOn {read : List Char → Option (List α × List Char)} {items : List α}
    {written : List Char} (h : WritesOptional keyword read items written)
    (htail : GoesOn keywords tail) : GoesOn (keyword :: keywords) (written ++ tail) := by
  cases h with
  | absent =>
    cases htail with
    | nil => exact .nil
    | keyword hnext rest => exact .keyword (List.mem_cons_of_mem _ hnext) rest
  | present hbody =>
    rw [List.append_assoc]
    exact .keyword List.mem_cons_self _

/-- A clause that may be left out is read as its items, whether it is there or not. -/
theorem WritesOptional.readOptional_append {read : List Char → Option (List α × List Char)}
    {items : List α} {written : List Char} (h : WritesOptional keyword read items written)
    (htail : GoesOn keywords tail) (hfollows : ∀ next ∈ keywords, Follows keyword next)
    (hne : keyword ≠ "") :
    readOptional keyword read (written ++ tail) = some (items, tail) := by
  unfold readOptional
  cases h with
  | absent => rw [List.nil_append, htail.readWord_eq_none hfollows hne]
  | present hbody =>
    rw [List.append_assoc, Reading.readWord_append]
    exact hbody tail (htail.endsPart keyword hfollows)

end SearchSql.Reading
