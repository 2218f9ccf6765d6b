import SearchSql.Proofs.Reading.Literal

/-!
# Reading names

A quoted name is read segment by segment. A star stands for itself, any other segment ends at a
backquote that is not doubled, and a point after a segment says that the name goes on.
-/

namespace SearchSql.Reading

mutual

/-- The name at the front of a text, with the rest of the text. -/
def readName : List Char → Option (List Char × List Char)
  | '*' :: '.' :: rest => keep ['*', '.'] (readName rest)
  | '*' :: rest => some (['*'], rest)
  | '\x60' :: rest => readSegment rest
  | _ => none

/-- What is left of a name inside of a segment whose opening backquote has been read. -/
def readSegment : List Char → Option (List Char × List Char)
  | [] => none
  | '\x60' :: '\x60' :: rest => keep ['\x60'] (readSegment rest)
  | '\x60' :: '.' :: rest => keep ['.'] (readName rest)
  | '\x60' :: rest => some ([], rest)
  | c :: rest => keep [c] (readSegment rest)

end

/-- A text can follow a name when it goes on neither with the last segment nor with another
one. -/
structure EndsName (tail : List Char) : Prop where
  /-- The last backquote is not doubled. -/
  not_backquote : tail.head? ≠ some '\x60'
  /-- There is no other segment. -/
  not_point : tail.head? ≠ some '.'

/-- The doubled content of a segment is read as the content. -/
theorem readSegment_append (segment rest : List Char) :
    readSegment ((segment.flatMap fun c => if c = '\x60' then [c, c] else [c]) ++ rest) =
      keep segment (readSegment rest) := by
  induction segment with
  | nil => exact (keep_nil _).symm
  | cons c segment ih =>
    rw [List.flatMap_cons, List.append_assoc]
    by_cases hc : c = '\x60'
    · rw [if_pos hc, hc]
      simp only [List.cons_append, List.nil_append]
      rw [readSegment, ih, keep_keep, List.singleton_append]
    · rw [if_neg hc, List.singleton_append, readSegment, ih, keep_keep, List.singleton_append]
      all_goals
        intros
        contradiction

/-- The last segment of a name is read to its end. -/
theorem readName_quoteSegment (segment : List Char) {tail : List Char} (htail : EndsName tail) :
    readName (QuoteSettings.quoteSegment segment ++ tail) = some (segment, tail) := by
  unfold QuoteSettings.quoteSegment
  split
  · next hstar =>
    rw [hstar, List.singleton_append, readName]
    intro rest heq
    exact htail.not_point (by rw [heq]; rfl)
  · rw [List.cons_append, readName, List.append_assoc, readSegment_append, List.singleton_append,
      readSegment, keep_some, List.append_nil]
    · intro rest heq
      exact htail.not_backquote (by rw [heq]; rfl)
    · intro rest heq
      exact htail.not_point (by rw [heq]; rfl)

/-- A name goes on behind a segment that a point follows. -/
theorem readName_quoteSegment_point (segment rest : List Char) :
    readName (QuoteSettings.quoteSegment segment ++ '.' :: rest) =
      keep (segment ++ ['.']) (readName rest) := by
  unfold QuoteSettings.quoteSegment
  split
  · next hstar =>
    rw [hstar, List.singleton_append, readName]
    rfl
  · rw [List.cons_append, readName, List.append_assoc, readSegment_append, List.singleton_append,
      readSegment, keep_keep]

/-- Quoted segments with points between them are read as one name. -/
theorem readName_join {segments : List (List Char)} (hne : segments ≠ []) {tail : List Char}
    (htail : EndsName tail) :
    readName (Text.join '.' (segments.map QuoteSettings.quoteSegment) ++ tail) =
      some (Text.join '.' segments, tail) := by
  induction segments with
  | nil => exact absurd rfl hne
  | cons segment segments ih =>
    cases segments with
    | nil => exact readName_quoteSegment segment htail
    | cons next segments =>
      have hjoin (first second : List Char) (others : List (List Char)) :
          Text.join '.' (first :: second :: others) =
            first ++ '.' :: Text.join '.' (second :: others) := rfl
      have hread := ih (List.cons_ne_nil _ _)
      rw [List.map_cons] at hread
      rw [List.map_cons, List.map_cons, hjoin, hjoin, List.append_assoc, List.cons_append,
        readName_quoteSegment_point, hread, keep_some, List.append_assoc, List.singleton_append]

/-- A quoted name is read back, whatever its characters are. -/
theorem readName_quoteIdentifier {settings : QuoteSettings}
    (hquote : settings.quoteIdentifiers = true) (name : String) {tail : List Char}
    (htail : EndsName tail) :
    readName ((settings.quoteIdentifier name).toList ++ tail) = some (name.toList, tail) := by
  unfold QuoteSettings.quoteIdentifier
  rw [if_pos hquote, String.toList_ofList, readName_join (Text.split_ne_nil _ _) htail,
    Text.join_split]

end SearchSql.Reading
