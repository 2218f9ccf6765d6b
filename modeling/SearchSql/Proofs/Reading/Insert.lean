import SearchSql.Proofs.Accepted
import SearchSql.Proofs.Insert.Calls
import SearchSql.Proofs.Reading.Coercion
import SearchSql.Proofs.Reading.Part

/-!
# Reading an INSERT or REPLACE

An accepted statement is read back as a table: its kind, its index, its columns, and one cell for
each column of each row. A row is read as a list of values, so a list inside of a row is one cell
and a text that looks like the next row is one as well.
-/

namespace SearchSql

namespace Reading

/-- What an INSERT or REPLACE statement asks for. -/
structure Insertion where
  /-- Whether documents are added or replaced. -/
  keyword : Keyword
  /-- The index to write to. -/
  index : String
  /-- The columns in order. -/
  columns : List String
  /-- The cells of each row in order. -/
  rows : List (List SqlValue)

/-- The kind of a statement that writes rows, with the rest of the text. -/
def readInsertKeyword (text : List Char) : Option (Keyword × List Char) :=
  [Keyword.insert, .replace].findSome? fun keyword =>
    (readWord keyword.text text).map (keyword, ·)

/-- The cells of a row between parentheses, with the rest of the text. -/
def readRow (escapes : Bool) (text : List Char) : Option (List SqlValue × List Char) :=
  match takeValue escapes text with
  | some (.list cells, text) => some (cells, text)
  | _ => none

/-- An INSERT or REPLACE statement of which nothing is left over. -/
def readInsertion (escapes : Bool) (text : String) : Option Insertion := do
  let (keyword, text) ← readInsertKeyword text.toList
  let text ← readWord " INTO " text
  let (index, text) ← readIdentifier text
  let text ← readWord " (" text
  let (columns, text) ← takeSeparated readIdentifier text
  let text ← readWord ") VALUES " text
  let (rows, text) ← takeSeparated (readRow escapes) text
  if text.isEmpty then some ⟨keyword, index, columns, rows⟩ else none

/-- The two kinds of statement are told apart. -/
theorem readInsertKeyword_append (insert : Insert) (rest : List Char) :
    readInsertKeyword (insert.keyword.text.toList ++ rest) = some (insert.keyword, rest) := by
  unfold readInsertKeyword readWord Insert.keyword
  cases insert.replaces <;> simp [Keyword.text, List.dropPrefix?]

variable {settings : QuoteSettings}

/-- A row is read back cell by cell, each under the type of its column. -/
theorem readsAs_rowSql (types : List (Option AttrType)) (row : List Value) :
    ReadsAs (readRow settings.escapeBackslashes) EndsValue
      (List.zipWith (fun value type => value.coerced type) row types)
      (Insert.rowSql settings.quoter types row).toList := by
  have hcells : List.Forall₂ (fun cell text => WritesValue settings cell text.toList)
      (List.zipWith (fun value type => value.coerced type) row types)
      (List.zipWith settings.quoter.quoteValue row types) := by
    induction row generalizing types with
    | nil => exact .nil
    | cons value row ih =>
      cases types with
      | nil => exact .nil
      | cons type types => exact .cons (writesValue_quoteValue settings type value) (ih types)
  intro tail htail
  unfold readRow Insert.rowSql
  rw [(WritesValue.listed hcells).takeValue_append htail]

/-- A statement with a column and a row is read back as a table. -/
theorem readInsertion_sql (hquote : settings.quoteIdentifiers = true) {insert : Insert}
    (hcolumns : insert.columns ≠ []) (hrows : insert.rows ≠ []) :
    readInsertion settings.escapeBackslashes (insert.sql settings.quoter) =
      some ⟨insert.keyword, insert.index, insert.columns,
        insert.rows.map fun row =>
          List.zipWith (fun value type => value.coerced type) row
            (insert.columns.map insert.typeOf)⟩ := by
  let types := insert.columns.map insert.typeOf
  let cells : List Value → List SqlValue :=
    fun row => List.zipWith (fun value type => value.coerced type) row types
  have hrowTexts : List.Forall₂
      (fun row text => ReadsAs (readRow settings.escapeBackslashes) EndsValue row text.toList)
      (insert.rows.map cells) (insert.rows.map (Insert.rowSql settings.quoter types)) := by
    rw [List.forall₂_map_left_iff, List.forall₂_map_right_iff]
    exact List.forall₂_same.mpr fun row _ => readsAs_rowSql types row
  have hindex (rest : List Char) :=
    readsAs_quoteIdentifier hquote insert.index (" (".toList ++ rest)
      (endsValue_cons (by decide) _)
  have hnames (rest : List Char) :=
    readsAs_quoteIdentifierList hquote hcolumns (") VALUES ".toList ++ rest)
      (endsPart_parenthesis _)
  have hread := ReadsAs.intercalate hrowTexts (by simpa using hrows) [] endsPart_nil
  rw [List.append_nil] at hread
  have htext : (insert.sql settings.quoter).toList =
      insert.keyword.text.toList ++ (" INTO ".toList ++
        ((settings.quoter.quoteIdentifier insert.index).toList ++ (" (".toList ++
          ((settings.quoter.quoteIdentifierList insert.columns).toList ++ (") VALUES ".toList ++
            (", ".intercalate
              (insert.rows.map (Insert.rowSql settings.quoter types))).toList))))) := by
    unfold Insert.sql
    simp only [String.toList_append, List.append_assoc, types]
  unfold readInsertion
  simp only [htext, readInsertKeyword_append, readWord_append, hindex, hnames, hread,
    Option.bind_eq_bind, Option.bind_some, List.isEmpty_nil, if_true]
  rfl

/-- An accepted INSERT or REPLACE loses and misplaces nothing. Whatever calls put it together, its
text is read back with nothing left over as the kind and the index it began with, the columns in
order, and as many rows as there are. Each row has one cell for each column, and the cell is the
value at that place, coerced to the type stated last for the name of the column. -/
theorem readInsertion_toSql {settings : QuoteSettings} (hquote : settings.quoteIdentifiers = true)
    {index text : String} {replaces : Bool} {calls : List Insert.Call} {insert : Insert}
    (hcalls : insert = (Insert.new index replaces).applyAll calls)
    (haccepted : insert.toSql settings.quoter = .ok text) :
    ∃ asked, readInsertion settings.escapeBackslashes text = some asked ∧
      asked.keyword = (if replaces then .replace else .insert) ∧ asked.index = index ∧
      asked.columns = insert.columns ∧ asked.rows.length = insert.rows.length ∧
      ∀ (i : Nat) (row : List Value), insert.rows[i]? = some row →
        ∃ cells, asked.rows[i]? = some cells ∧
          row.length = insert.columns.length ∧ cells.length = insert.columns.length ∧
          ∀ (j : Nat) (value : Value) (column : String),
            row[j]? = some value → insert.columns[j]? = some column →
            cells[j]? = some (value.coerced (Insert.lastStated? column calls)) := by
  obtain ⟨_, hvalid, hsql⟩ := finishSql_eq_ok_iff.mp haccepted
  obtain ⟨hcolumns, hrows, hfits⟩ := Insert.validate_eq_ok_iff.mp hvalid
  obtain ⟨hindex, hreplaces⟩ := Insert.applyAll_frame (Insert.new index replaces) calls
  have htype (column : String) : insert.typeOf column = Insert.lastStated? column calls := by
    rw [hcalls, Insert.typeOf_applyAll]
    exact Option.or_none
  rw [← hcalls] at hindex hreplaces
  have hread := readInsertion_sql hquote hcolumns hrows
  rw [hsql] at hread
  refine ⟨_, hread, ?_, hindex, rfl, List.length_map _, ?_⟩
  · show insert.keyword = _
    unfold Insert.keyword
    rw [hreplaces]
    rfl
  · intro i row hrow
    have hlength := hfits row (List.mem_of_getElem? hrow)
    refine ⟨List.zipWith (fun value type => value.coerced type) row
      (insert.columns.map insert.typeOf), ?_, hlength, ?_, ?_⟩
    · rw [List.getElem?_map, hrow, Option.map_some]
    · simp [hlength]
    · intro j value column hvalue hcolumn
      rw [List.getElem?_zipWith, hvalue, List.getElem?_map, hcolumn, Option.map_some, htype]

/-- A cell that looks like the next row stays one cell, and a type stated after the row holds for
both columns of its name. -/
theorem readInsertion_toSql_sameNames :
    ((Insert.new "rt" true).applyAll
      [.columns ["a\x60, b", "n", "n"], .values [.text "1'), ('2", .int (-1), .list [.int 7]],
        .typeHint "n" .uint, .typeHint "n" .mva]).toSql (QuoteSettings.quoter ⟨true, false⟩) =
      .ok ("REPLACE INTO \x60rt\x60 (\x60a\x60\x60, b\x60, \x60n\x60, \x60n\x60) VALUES " ++
        "('1''), (''2', (0), (7))") ∧
    ∃ asked,
      readInsertion false
        ("REPLACE INTO \x60rt\x60 (\x60a\x60\x60, b\x60, \x60n\x60, \x60n\x60) VALUES " ++
          "('1''), (''2', (0), (7))") = some asked ∧
      asked.keyword = .replace ∧ asked.columns = ["a\x60, b", "n", "n"] ∧ asked.rows.length = 1 ∧
      ∃ cells, asked.rows[0]? = some cells ∧ cells[0]? = some (.text "1'), ('2") ∧
        cells[1]? = some (.list [.number "0"]) ∧ cells[2]? = some (.list [.number "7"]) := by
  have haccepted : ((Insert.new "rt" true).applyAll
      [.columns ["a\x60, b", "n", "n"], .values [.text "1'), ('2", .int (-1), .list [.int 7]],
        .typeHint "n" .uint, .typeHint "n" .mva]).toSql (QuoteSettings.quoter ⟨true, false⟩) =
      .ok ("REPLACE INTO \x60rt\x60 (\x60a\x60\x60, b\x60, \x60n\x60, \x60n\x60) VALUES " ++
        "('1''), (''2', (0), (7))") := rfl
  obtain ⟨asked, hread, hkeyword, _, hcolumns, hlength, hrows⟩ :=
    @readInsertion_toSql ⟨true, false⟩ rfl _ _ _ _ _ rfl haccepted
  obtain ⟨cells, hcells, _, _, hcell⟩ := hrows 0 _ rfl
  exact ⟨haccepted, asked, hread, hkeyword, hcolumns, hlength, cells, hcells,
    hcell 0 _ _ rfl rfl, hcell 1 _ _ rfl rfl, hcell 2 _ _ rfl rfl⟩

end Reading

end SearchSql
