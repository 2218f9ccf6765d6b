import SearchSql.Proofs.Reading.Coercion
import SearchSql.Proofs.Reading.Select

/-!
# Reading an UPDATE or DELETE

A change is read back as its index, its assignments and its condition, and a removal as its index
and its condition. An assignment ends where its value does, so a list or a text in it never reaches
the next assignment or the condition.
-/

namespace SearchSql

/-- What an assignment asks for: an attribute, and what is left in SQL of its new value. -/
def Assignment.asked (assignment : Assignment) : String × SqlValue :=
  (assignment.column, assignment.value.coerced assignment.type)

namespace Reading

/-- What a change without options asks for. -/
structure Change where
  /-- The index to change. -/
  index : String
  /-- The attributes to change with their new values. -/
  assignments : List (String × SqlValue)
  /-- The condition on documents. -/
  filter : List Predicate

/-- What a removal asks for. -/
structure Removal where
  /-- The index to remove from. -/
  index : String
  /-- The condition on documents. -/
  filter : List Predicate

/-- An attribute with its new value at the front of a text. -/
def readAssignment (escapes : Bool) (text : List Char) :
    Option ((String × SqlValue) × List Char) := do
  let (column, text) ← readIdentifier text
  let text ← readWord " = " text
  let (value, text) ← takeValue escapes text
  some ((column, value), text)

/-- A change without options of which nothing is left over. -/
def readChange (escapes : Bool) (text : String) : Option Change := do
  let text ← readWord "UPDATE " text.toList
  let (index, text) ← readIdentifier text
  let text ← readWord " SET " text
  let (assignments, text) ← takeSeparated (readAssignment escapes) text
  let (filter, text) ← readOptional " WHERE " (takePredicates escapes) text
  if text.isEmpty then some ⟨index, assignments, filter⟩ else none

/-- A removal of which nothing is left over. -/
def readRemoval (escapes : Bool) (text : String) : Option Removal := do
  let text ← readWord "DELETE FROM " text.toList
  let (index, text) ← readIdentifier text
  let text ← readWord " WHERE " text
  let (filter, text) ← takePredicates escapes text
  if text.isEmpty then some ⟨index, filter⟩ else none

variable {settings : QuoteSettings} (hquote : settings.quoteIdentifiers = true)

include hquote

/-- An assignment is read back, its value under its type. -/
theorem readsAs_assignment (assignment : Assignment) :
    ReadsAs (readAssignment settings.escapeBackslashes) EndsValue assignment.asked
      (assignment.sql settings.quoter).toList := by
  intro tail htail
  have hcolumn (rest : List Char) :=
    readsAs_quoteIdentifier hquote assignment.column (" = ".toList ++ rest)
      (endsValue_cons (.inl rfl) _)
  have hvalue := takeValue_quoteValue settings assignment.type assignment.value htail
  unfold readAssignment Assignment.sql
  simp only [String.toList_append, List.append_assoc, hcolumn, readWord_append, hvalue,
    Option.bind_eq_bind, Option.bind_some]
  rfl

/-- A structured change with an assignment and a condition is read back. -/
theorem readChange_sql {update : Update} (h : update.IsStructured)
    (hassignments : update.assignments ≠ []) {filter : List Predicate}
    (hfilter : List.Forall₂ Made update.filter.conjunction.conditions filter) :
    readChange settings.escapeBackslashes (update.sql settings.quoter) =
      some ⟨update.index, update.assignments.map Assignment.asked, filter⟩ := by
  have hwhere := writesOptional_sqlAfter hquote " WHERE " hfilter
  have htail : GoesOn [] [] := .nil
  have htailSet := hwhere.goesOn htail
  have hindex (rest : List Char) := readsAs_quoteIdentifier hquote update.index
    (" SET ".toList ++ rest) (endsValue_cons (.inl rfl) _)
  have hitems : List.Forall₂
      (fun asked text => ReadsAs (readAssignment settings.escapeBackslashes) EndsValue asked
        text.toList)
      (update.assignments.map Assignment.asked)
      (update.assignments.map (Assignment.sql settings.quoter)) := by
    rw [List.forall₂_map_left_iff, List.forall₂_map_right_iff]
    exact List.forall₂_same.mpr fun assignment _ => readsAs_assignment hquote assignment
  have hset := ReadsAs.intercalate hitems (by simpa using hassignments) _
    (htailSet.endsPart " SET " (by decide))
  have htext : (update.sql settings.quoter).toList = "UPDATE ".toList ++
      ((settings.quoter.quoteIdentifier update.index).toList ++ (" SET ".toList ++
        ((", ".intercalate (update.assignments.map
            (Assignment.sql settings.quoter))).toList ++
          ((update.filter.sqlAfter " WHERE " settings.quoter).toList ++ [])))) := by
    unfold Update.sql Options.isEmpty
    rw [h.options]
    simp
  unfold readChange
  simp only [htext, readWord_append, hindex, hset,
    hwhere.readOptional_append htail (by decide) (by decide), Option.bind_eq_bind,
    Option.bind_some, List.isEmpty_nil, if_true]

/-- A removal with a condition is read back. -/
theorem readRemoval_sql {delete : Delete} (hne : delete.filter.conjunction.conditions ≠ [])
    {filter : List Predicate}
    (hfilter : List.Forall₂ Made delete.filter.conjunction.conditions filter) :
    readRemoval settings.escapeBackslashes (delete.sql settings.quoter) =
      some ⟨delete.index, filter⟩ := by
  have hindex (rest : List Char) := readsAs_quoteIdentifier hquote delete.index
    (" WHERE ".toList ++ rest) (endsValue_cons (.inl rfl) _)
  have hread := readsAs_sql hquote hfilter hne [] endsPart_nil
  rw [List.append_nil] at hread
  have htext : (delete.sql settings.quoter).toList = "DELETE FROM ".toList ++
      ((settings.quoter.quoteIdentifier delete.index).toList ++ (" WHERE ".toList ++
        (delete.filter.sql settings.quoter).toList)) := by
    unfold Delete.sql
    simp
  unfold readRemoval
  simp only [htext, readWord_append, hindex, hread, Option.bind_eq_bind, Option.bind_some,
    List.isEmpty_nil, if_true]

end Reading

end SearchSql
