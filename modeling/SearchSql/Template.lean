import SearchSql.Text.Split

/-!
# Templates

A template is text in which every question mark is a placeholder, also inside quotes. Its
placeholders are filled from left to right, and what is filled in is never looked at
again.
-/

namespace SearchSql.Template

/-- The placeholder character. -/
def placeholder : Char := '?'

/-- The number of placeholders. -/
def count (template : String) : Nat :=
  template.toList.count placeholder

/-- Whether there is any placeholder. -/
def hasPlaceholder (template : String) : Bool :=
  template.toList.contains placeholder

/-- The text before, between and after the placeholders. -/
def pieces (template : String) : List (List Char) :=
  Text.split placeholder template.toList

/-- There is one piece more than there are placeholders. -/
theorem length_pieces (template : String) : (pieces template).length = count template + 1 :=
  Text.length_split placeholder template.toList

/-- There is a placeholder exactly when the count is not zero. -/
theorem hasPlaceholder_iff (template : String) :
    hasPlaceholder template = true ↔ 0 < count template := by
  simp [hasPlaceholder, count, List.count_pos_iff]

/-- What is done at a placeholder: some text is added, and the placeholder is dropped if it was
filled and kept otherwise. -/
structure Filling where
  /-- The text added in any case. -/
  added : String
  /-- Whether the placeholder is dropped. -/
  filled : Bool

/-- The text of a filling, with the placeholder if it was not filled. -/
def Filling.text (filling : Filling) : String :=
  if filling.filled then filling.added else filling.added.push placeholder

/-- Scanning copies each character to the output and asks for a filling at each placeholder,
numbered from the given index. Whoever answers is shown the output so far. -/
def fillChars {m : Type → Type} [Monad m] (fill : Nat → String → m Filling) :
    List Char → Nat → String → m String
  | [], _, output => pure output
  | c :: rest, index, output =>
    if c = placeholder then do
      let filling ← fill index output
      fillChars fill rest (index + 1) (output ++ filling.text)
    else fillChars fill rest index (output.push c)

/-- The output followed by the template with its placeholders filled in order from index zero. -/
def fillOnto {m : Type → Type} [Monad m] (fill : Nat → String → m Filling)
    (template output : String) : m String :=
  fillChars fill template.toList 0 output

/-- The same for fillings that go by the number of the placeholder alone. -/
def fillAfter {m : Type → Type} [Monad m] (fill : Nat → m Filling) (template output : String) :
    m String :=
  fillOnto (fun index _ => fill index) template output

/-- A placeholder without a text to replace it stays. -/
def Filling.ofOption : Option String → Filling
  | some text => ⟨text, true⟩
  | none => ⟨"", false⟩

/-- The template with each placeholder replaced by the text given for its index. -/
def fill (texts : Nat → Option String) (template : String) : String :=
  Id.run (fillAfter (fun index => pure (Filling.ofOption (texts index))) template "")

end SearchSql.Template
