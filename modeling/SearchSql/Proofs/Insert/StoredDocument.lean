import SearchSql.Proofs.Accepted
import SearchSql.Proofs.Insert.Calls
import SearchSql.Proofs.Reading.Coercion
import SearchSql.Proofs.RoundTrip

/-!
# Two ways to store a document

A document can be set as it is, or as the value that it becomes, under the JSON type. The two
statements differ in one value of their first row. Whatever is called afterwards, the value keeps
its distance from the end of the row and its column keeps the same distance from the end of the
columns. So in a row that fits the columns the value stands under its column, where both forms of it
are written alike.
-/

namespace SearchSql

/-! ### One value under the JSON type -/

/-- Under the JSON type a value that is no text counts as its document. -/
theorem Value.coerceTo_json {value : Value} (h : ∀ s, value ≠ .text s) :
    value.coerceTo .json = .json value.toDocument := by
  cases value with
  | text s => exact absurd rfl (h s)
  | _ => rfl

/-- A document that is no text does not become one. -/
theorem Value.ofDocument_ne_text {document : Document} (h : ∀ s, document ≠ .string s)
    (s : String) : ofDocument document ≠ .text s := by
  intro htext
  apply h s
  rw [← toDocument_ofDocument document, htext, toDocument]

/-- A document and the value that it becomes are written alike under the JSON type. -/
theorem QuoteSettings.quoteValue_json_ofDocument (settings : QuoteSettings) {document : Document}
    (h : ∀ s, document ≠ .string s) :
    settings.quoter.quoteValue (.json document) (some .json) =
      settings.quoter.quoteValue (.ofDocument document) (some .json) := by
  rw [settings.quoteValue_some, settings.quoteValue_some,
    Value.coerceTo_json (Value.ofDocument_ne_text h), Value.toDocument_ofDocument]
  rfl

/-- Under the JSON type a value that is no text is written as the literal of its document. -/
theorem Reading.takeValue_quoteValue_json (settings : QuoteSettings) {value : Value}
    (h : ∀ s, value ≠ .text s) :
    takeValue settings.escapeBackslashes
        (settings.quoter.quoteValue value (some .json)).toList =
      some (.text value.toDocument.text, []) := by
  have hcoerced : value.coerced (some .json) = .text value.toDocument.text :=
    congrArg Value.normal (Value.coerceTo_json h)
  have hnil : EndsValue [] := by simp [EndsValue]
  have hread := (writesValue_quoteValue settings (some .json) value).takeValue_append hnil
  rw [List.append_nil, hcoerced] at hread
  exact hread

namespace Insert

/-! ### Statements that differ in one value -/

/-- Two statements that are the same, or else differ in one value of their first row alone. Behind
the value there are as many others as there are columns behind the given one. -/
inductive DifferIn (column : String) (value other : Value) : Insert → Insert → Prop
  /-- There is no difference. -/
  | same (insert : Insert) : DifferIn column value other insert insert
  /-- The two rows differ at one place. -/
  | cell (insert : Insert) {names following : List String} (front : List Value) {back : List Value}
      (rest : List (List Value)) (hcolumns : insert.columns = names ++ column :: following)
      (hback : back.length = following.length) :
      DifferIn column value other { insert with rows := (front ++ value :: back) :: rest }
        { insert with rows := (front ++ other :: back) :: rest }

namespace DifferIn

variable {column : String} {value other : Value} {first second : Insert}

/-- Setting a column to one value or the other makes this difference, or none if it is refused. -/
theorem of_set (insert : Insert) (column : String) (value other : Value) :
    DifferIn column value other (insert.set column value) (insert.set column other) := by
  obtain ⟨index, replaces, columns, rows, types, error⟩ := insert
  match rows with
  | [] => exact .cell ⟨index, replaces, columns ++ [column], [], types, error⟩ [] [] rfl rfl
  | [row] => exact .cell ⟨index, replaces, columns ++ [column], [], types, error⟩ row [] rfl rfl
  | _ :: _ :: _ => exact .same _

/-- Setting another column grows the row and the columns behind the difference. -/
theorem set (h : DifferIn column value other first second) (name : String) (given : Value) :
    DifferIn column value other (first.set name given) (second.set name given) := by
  cases h with
  | same => exact .same _
  | @cell insert names following front back rest hcolumns hback =>
    cases rest with
    | nil =>
      -- The row is still the only one, and grows at its end together with the columns.
      have hgrown (differing : Value) :
          front ++ differing :: (back ++ [given]) = front ++ differing :: back ++ [given] := by
        rw [List.append_assoc, List.cons_append]
      have hnames : insert.columns ++ [name] = names ++ column :: (following ++ [name]) := by
        rw [hcolumns, List.append_assoc, List.cons_append]
      have hlength : (back ++ [given]).length = (following ++ [name]).length := by
        rw [List.length_append, List.length_append, hback]
        rfl
      let grown : Insert := { insert with columns := insert.columns ++ [name] }
      have hcell : DifferIn column value other
          { grown with rows := [front ++ value :: (back ++ [given])] }
          { grown with rows := [front ++ other :: (back ++ [given])] } :=
        .cell grown front [] hnames hlength
      rw [hgrown, hgrown] at hcell
      exact hcell
    | cons row rest =>
      -- With a second row the call is refused, and records its error in both.
      exact .cell { insert with error := firstError insert.error _ } front _ hcolumns hback

/-- A stated type is the same in both. -/
theorem typeHint (h : DifferIn column value other first second) (stated : String)
    (type : AttrType) :
    DifferIn column value other (first.typeHint stated type) (second.typeHint stated type) := by
  cases h with
  | same => exact .same _
  | cell insert front rest hcolumns hback =>
    exact .cell (insert.typeHint stated type) front rest hcolumns hback

/-- A call keeps the difference where it is, unless it replaces the columns. -/
theorem apply (h : DifferIn column value other first second) {call : Call}
    (hcall : ∀ columns, call ≠ .columns columns) :
    DifferIn column value other (first.apply call) (second.apply call) := by
  cases call with
  | columns columns => exact absurd rfl (hcall columns)
  | values row =>
    cases h with
    | same => exact .same _
    | cell insert front rest hcolumns hback => exact .cell insert front _ hcolumns hback
  | set column value => exact h.set column value
  | setTyped column value type => exact (h.typeHint column type).set column value
  | setDocument column document => exact (h.typeHint column .json).set column (.json document)
  | typeHint column type => exact h.typeHint column type

/-- Calls that do not replace the columns keep the difference where it is. -/
theorem applyAll (h : DifferIn column value other first second) {calls : List Call}
    (hcalls : ∀ call ∈ calls, ∀ columns, call ≠ .columns columns) :
    DifferIn column value other (first.applyAll calls) (second.applyAll calls) := by
  induction calls generalizing first second with
  | nil => exact h
  | cons call calls ih =>
    rw [List.forall_mem_cons] at hcalls
    exact ih (h.apply hcalls.1) hcalls.2

/-- Nothing but the rows can differ. -/
theorem frame (h : DifferIn column value other first second) :
    first.columns = second.columns ∧ first.types = second.types ∧ first.error = second.error := by
  cases h <;> exact ⟨rfl, rfl, rfl⟩

/-- The check does not see the difference, as both rows have the same length. -/
theorem validate_eq (h : DifferIn column value other first second) :
    first.validate = second.validate := by
  cases h with
  | same => rfl
  | @cell insert names following front back rest hcolumns hback =>
    have hragged : raggedRow? insert.columns.length 0 ((front ++ value :: back) :: rest) =
        raggedRow? insert.columns.length 0 ((front ++ other :: back) :: rest) := by
      rw [raggedRow?, raggedRow?, List.length_append, List.length_append, List.length_cons,
        List.length_cons]
    unfold validate
    simp only [hragged]
    rfl

/-- In rows that fit the columns the two values stand under the given column, and the texts are the
same if both values are written alike under its type. -/
theorem sql_eq {quoter : Quoter} (h : DifferIn column value other first second)
    (hvalue : quoter.quoteValue value (first.typeOf column) =
      quoter.quoteValue other (first.typeOf column))
    (hfits : ∀ row ∈ first.rows, row.length = first.columns.length) :
    first.sql quoter = second.sql quoter := by
  cases h with
  | same => rfl
  | @cell insert names following front back rest hcolumns hback =>
    -- Behind the difference both are equally long, so in a row that fits they are so before it.
    have hfront : front.length = (names.map insert.typeOf).length := by
      have hlength : (front ++ value :: back).length = insert.columns.length :=
        hfits _ List.mem_cons_self
      rw [hcolumns, List.length_append, List.length_append, List.length_cons, List.length_cons,
        hback] at hlength
      rw [List.length_map]
      omega
    have hrow (differing : Value) :
        rowSql quoter (insert.columns.map insert.typeOf) (front ++ differing :: back) =
          Quoting.listed (List.zipWith quoter.quoteValue front (names.map insert.typeOf) ++
            quoter.quoteValue differing (insert.typeOf column) ::
              List.zipWith quoter.quoteValue back (following.map insert.typeOf)) := by
      rw [rowSql, hcolumns, List.map_append, List.map_cons, List.zipWith_append hfront,
        List.zipWith_cons_cons]
    have hrows : rowSql quoter (insert.columns.map insert.typeOf) (front ++ value :: back) =
        rowSql quoter (insert.columns.map insert.typeOf) (front ++ other :: back) := by
      have hwritten : quoter.quoteValue value (insert.typeOf column) =
          quoter.quoteValue other (insert.typeOf column) := hvalue
      rw [hrow, hrow, hwritten]
    exact congrArg (fun text => _ ++ ", ".intercalate (text :: _)) hrows

/-- Both have the same text, or the same error, if both values are written alike under the type of
the column. -/
theorem toSql_eq {quoter : Quoter} (h : DifferIn column value other first second)
    (hvalue : quoter.quoteValue value (first.typeOf column) =
      quoter.quoteValue other (first.typeOf column)) :
    first.toSql quoter = second.toSql quoter := by
  obtain ⟨hcolumns, htypes, herror⟩ := h.frame
  unfold toSql
  rw [← h.validate_eq, ← herror]
  cases hvalid : first.validate with
  | error e => cases first.error <;> rfl
  | ok passed =>
    obtain ⟨_, _, hfits⟩ := validate_eq_ok_iff.mp hvalid
    rw [h.sql_eq hvalue hfits]

end DifferIn

/-! ### Both ways -/

/-- A document that is no text can be stored as it is or as the value that it becomes. Whatever the
statement was before, and whatever is called afterwards that neither replaces the columns nor states
another type for the column, both statements have the same columns, types and error, and every
standard quoter gives the same text or the same error for both. Under the JSON type any value but a
text is written as the literal of its document. -/
theorem setJson_agrees_setTyped :
    (∀ (insert : Insert) (column : String) (document : Document) (calls : List Call),
        (∀ s, document ≠ .string s) →
        (∀ call ∈ calls,
          (∀ columns, call ≠ .columns columns) ∧ call.statedType? column = none) →
        ∃ stored, insert.setJson column document = .ok stored ∧
          let whole := stored.applyAll calls
          let unfolded := (insert.setTyped column (.ofDocument document) .json).applyAll calls
          whole.columns = unfolded.columns ∧ whole.types = unfolded.types ∧
            whole.error = unfolded.error ∧
            ∀ settings : QuoteSettings,
              whole.toSql settings.quoter = unfolded.toSql settings.quoter) ∧
      ∀ (settings : QuoteSettings) (value : Value), (∀ s, value ≠ .text s) →
        Reading.takeValue settings.escapeBackslashes
            (settings.quoter.quoteValue value (some .json)).toList =
          some (.text value.toDocument.text, []) := by
  constructor
  · intro insert column document calls hdocument hcalls
    refine ⟨insert.setDocument column document, rfl, ?_⟩
    intro whole unfolded
    have hdiffer : DifferIn column (.json document) (.ofDocument document) whole unfolded :=
      (DifferIn.of_set (insert.typeHint column .json) column _ _).applyAll
        fun call hmem => (hcalls call hmem).1
    have htype : whole.typeOf column = some .json :=
      (typeOf_applyAll_of_forall (fun call hmem => (hcalls call hmem).2) _).trans
        (typeOf_setTyped insert column (.json document) .json)
    obtain ⟨hcolumns, htypes, herror⟩ := hdiffer.frame
    refine ⟨hcolumns, htypes, herror, fun settings => hdiffer.toSql_eq ?_⟩
    rw [htype]
    exact settings.quoteValue_json_ofDocument hdocument
  · exact fun settings value hvalue => Reading.takeValue_quoteValue_json settings hvalue

/-- The document is set behind a row that was given before its columns, over another type. Its array
is unfolded in one statement and not in the other, and a further column and row follow. A quote in a
list is read back from inside of the document. -/
theorem setJson_agrees_setTyped_array :
    let insert := (new "rt" false).applyAll
      [.values [.int 7], .typeHint "doc" .string, .columns ["id"]]
    let document := Document.array
      [.number (.natural 1), .string "it's", .object [("k", .array [.null])]]
    let calls : List Call :=
      [.typeHint "n" .bool, .set "n" (.text "0"), .values [.int 8, .null, .int 1]]
    (∀ s, document ≠ .string s) ∧
      (∀ call ∈ calls, (∀ columns, call ≠ .columns columns) ∧ call.statedType? "doc" = none) ∧
      (∃ stored, insert.setJson "doc" document = .ok stored ∧
        let unfolded := insert.setTyped "doc"
          (.list [.int 1, .text "it's", .json (.object [("k", .array [.null])])]) .json
        (stored.applyAll calls).toSql (QuoteSettings.quoter ⟨true, false⟩) =
            .ok ("INSERT INTO \x60rt\x60 (\x60id\x60, \x60doc\x60, \x60n\x60) VALUES " ++
              "(7, '[1,\"it''s\",\x7b\"k\":[null]\x7d]', 0), (8, 'null', 1)") ∧
          (unfolded.applyAll calls).toSql (QuoteSettings.quoter ⟨true, false⟩) =
            (stored.applyAll calls).toSql (QuoteSettings.quoter ⟨true, false⟩)) ∧
      (∀ s, Value.list [.bool true, .text "it's"] ≠ .text s) ∧
      Reading.takeValue false
          ((QuoteSettings.quoter ⟨true, false⟩).quoteValue
            (.list [.bool true, .text "it's"]) (some .json)).toList =
        some (.text "[true,\"it's\"]", []) := by
  intro insert document calls
  have hdocument : ∀ s, document ≠ .string s := by simp [document]
  have hcalls : ∀ call ∈ calls,
      (∀ columns, call ≠ .columns columns) ∧ call.statedType? "doc" = none := by
    simp [calls, Call.statedType?]
  have hvalue : ∀ s, Value.list [.bool true, .text "it's"] ≠ .text s := by simp
  obtain ⟨stored, hstored, _, _, _, htext⟩ :=
    setJson_agrees_setTyped.1 insert "doc" document calls hdocument hcalls
  refine ⟨hdocument, hcalls, ⟨stored, hstored, ?_, (htext ⟨true, false⟩).symm⟩, hvalue,
    setJson_agrees_setTyped.2 ⟨true, false⟩ _ hvalue⟩
  obtain rfl : insert.setDocument "doc" document = stored := Except.ok.inj hstored
  unfold insert calls document
  rfl

end Insert

end SearchSql
