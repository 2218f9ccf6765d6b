import SearchSql.Clause.Conjunction
import SearchSql.FullText
import SearchSql.Proofs.Filling
import SearchSql.Proofs.Reading.Literal

/-!
# Reading an escaped full-text query

The text of a full-text condition is read twice. The server reads the literal, which gives the
query, and the query parser reads the query, in which a backslash takes the next character
literally. An escaped text is followed through both readings: the first one under the rules that
the escapes are made for, and under the rules of either setting of the standard quoter.
-/

namespace SearchSql

namespace Reading

/-- What has been read of a literal, provided that only a closing parenthesis follows. -/
def closedBy (read : Option (List Char × List Char)) : Option (List Char) :=
  match read with
  | some (content, [')']) => some content
  | _ => none

/-- What is read up to the closing parenthesis has nothing else behind it. -/
theorem of_closedBy_eq_some {read : Option (List Char × List Char)} {content : List Char}
    (h : closedBy read = some content) : read = some (content, [')']) := by
  unfold closedBy at h
  split at h
  · rw [Option.some.inj h]
  · cases h

/-- The query of a full-text condition that consists of one literal and nothing else. -/
def readMatch (rules : LiteralRules) (sql : String) : Option (List Char) :=
  match sql.toList with
  | 'M' :: 'A' :: 'T' :: 'C' :: 'H' :: '(' :: '\'' :: rest => closedBy (readLiteral rules rest)
  | _ => none

/-- Whatever stands between the quotes, reading a condition is reading its literal. -/
theorem readMatch_eq (rules : LiteralRules) (written : String) :
    readMatch rules ("MATCH('" ++ written ++ "')") =
      closedBy (readLiteral rules (written.toList ++ ['\'', ')'])) := by
  simp [readMatch]

end Reading

namespace FullText

open Reading

/-- The characters with a meaning of their own in a query. -/
def queryOperators : List Char := "()|-!@~\"&/^$=<".toList

/-- How the query parser takes a query: a backslash stands for the character behind it. -/
def unescape : List Char → List Char
  | '\\' :: c :: rest => c :: unescape rest
  | c :: rest => c :: unescape rest
  | [] => []

/-- The characters of a query that no backslash escapes. -/
def bare : List Char → List Char
  | '\\' :: _ :: rest => bare rest
  | c :: rest => c :: bare rest
  | [] => []

/-- Either all operators are escaped, or those that no end user may keep. -/
def escapeLevels : List (List Char) := [operators, guardedOperators]

/-- No level escapes a quote as an operator. -/
theorem quote_not_mem_of_mem_escapeLevels {escaped : List Char} (h : escaped ∈ escapeLevels) :
    '\'' ∉ escaped := by
  have hlevels : ∀ level ∈ escapeLevels, '\'' ∉ level := by decide
  exact hlevels escaped h

/-- Each level escapes the operators that no end user may keep. -/
theorem guardedOperators_subset_of_mem_escapeLevels {escaped : List Char}
    (h : escaped ∈ escapeLevels) : guardedOperators ⊆ escaped := by
  have hlevels : ∀ level ∈ escapeLevels, guardedOperators ⊆ level := by decide
  exact hlevels escaped h

/-- What the literal reader makes of an escaped character: the escape for the query parser. -/
def queryChar (escaped : List Char) (c : Char) : List Char :=
  if c = '\\' ∨ c ∈ escaped then ['\\', c] else [c]

/-- A text written character by character, and the query that its literal stands for. Which
operators are escaped may differ from one character to the next. -/
inductive Writes : List Char → List Char → List Char → Prop where
  /-- Nothing is written for the empty text. -/
  | nil : Writes [] [] []
  /-- A character is written before the rest. -/
  | cons {text written query escaped : List Char} (c : Char)
      (hescaped : escaped ∈ escapeLevels) (hrest : Writes text written query) :
      Writes (c :: text) (escapeChar escaped c ++ written) (queryChar escaped c ++ query)

/-- A whole text can be written with the same operators escaped everywhere. -/
theorem writes_flatMap {escaped : List Char} (hescaped : escaped ∈ escapeLevels)
    (text : List Char) :
    Writes text (text.flatMap (escapeChar escaped)) (text.flatMap (queryChar escaped)) := by
  induction text with
  | nil => exact .nil
  | cons c text ih => exact .cons c hescaped ih

/-- The query parser takes an escaped character for the character. -/
theorem unescape_queryChar (escaped : List Char) (c : Char) (query : List Char) :
    unescape (queryChar escaped c ++ query) = c :: unescape query := by
  unfold queryChar
  split
  · rfl
  · next hc =>
    rw [not_or] at hc
    rw [List.singleton_append, unescape.eq_def]
    split <;> simp_all

/-- An escaped character is bare only if it is neither a backslash nor one of the operators. -/
theorem bare_queryChar (escaped : List Char) (c : Char) (query : List Char) :
    bare (queryChar escaped c ++ query) =
      (if c = '\\' ∨ c ∈ escaped then [] else [c]) ++ bare query := by
  unfold queryChar
  split
  · rfl
  · next hc =>
    rw [not_or] at hc
    rw [List.singleton_append, bare.eq_def]
    split <;> simp_all

/-- The rules that the escapes are made for: a backslash escapes itself and a quote. -/
structure ReadsEscapes (rules : LiteralRules) : Prop where
  /-- Two backslashes stand for one. -/
  backslash : rules.escaped '\\' = some '\\'
  /-- A backslash and a quote stand for the quote. -/
  quote : rules.escaped '\'' = some '\''

/-- Under such rules the literal reader makes of a written character what the query parser is to
see. -/
theorem ReadsEscapes.readLiteral_escapeChar {rules : LiteralRules} (hrules : ReadsEscapes rules)
    {escaped : List Char} (hescaped : escaped ∈ escapeLevels) (c : Char) (rest : List Char) :
    readLiteral rules (escapeChar escaped c ++ rest) =
      keep (queryChar escaped c) (readLiteral rules rest) := by
  have hquote := quote_not_mem_of_mem_escapeLevels hescaped
  unfold escapeChar queryChar
  by_cases hbackslash : c = '\\'
  · subst hbackslash
    simp [readLiteral_escape hrules.backslash]
  · by_cases hc : c = '\''
    · subst hc
      simp [readLiteral_escape hrules.quote, hquote]
    · by_cases hoperator : c ∈ escaped
      · simp [hbackslash, hc, hoperator, readLiteral_escape hrules.backslash,
          readLiteral_cons hc hbackslash]
      · simp [hbackslash, hc, hoperator, readLiteral_cons hc hbackslash]

namespace Writes

variable {text written query : List Char}

/-- Under such rules the literal of a written text ends where it was meant to end, and stands for
the query. -/
theorem readLiteral_append_quote (h : Writes text written query) {rules : LiteralRules}
    (hrules : ReadsEscapes rules) {tail : List Char} (htail : tail.head? ≠ some '\'') :
    readLiteral rules (written ++ '\'' :: tail) = some (query, tail) := by
  induction h with
  | nil => exact readLiteral_quote htail
  | cons c hescaped hrest ih =>
    rw [List.append_assoc, hrules.readLiteral_escapeChar hescaped, ih, keep_some]

/-- The query parser reads the text back. -/
theorem unescape_eq (h : Writes text written query) : unescape query = text := by
  induction h with
  | nil => rfl
  | cons c hescaped hrest ih => rw [unescape_queryChar, ih]

/-- No operator that end users may not keep is bare in the query. -/
theorem not_mem_bare (h : Writes text written query) {c : Char} (hc : c ∈ guardedOperators) :
    c ∉ bare query := by
  induction h with
  | nil => simp [bare]
  | @cons text written query escaped d hescaped hrest ih =>
    rw [bare_queryChar, List.mem_append, not_or]
    refine ⟨?_, ih⟩
    have hsubset := guardedOperators_subset_of_mem_escapeLevels hescaped
    split
    · exact List.not_mem_nil
    · next hd =>
      intro hmem
      rw [List.mem_singleton] at hmem
      exact hd (.inr (hsubset (hmem ▸ hc)))

/-- A written text never begins with a quote. -/
theorem head?_ne (h : Writes text written query) : written.head? ≠ some '\'' := by
  cases h with
  | nil => simp
  | cons c hescaped hrest =>
    unfold escapeChar
    split
    · simp
    · split
      · simp
      · next hc => split <;> simp [hc]

/-- A written text is a whole query: its condition has exactly the written literal, from which
enclosing quotes are never taken away. -/
theorem sql_matching {text query : List Char} {written : String}
    (h : Writes text written.toList query) (quoter : Quoter) :
    (Condition.matching written).sql quoter = "MATCH('" ++ written ++ "')" := by
  have hstrip : Condition.stripQuotes written.toList = written.toList := by
    have hhead := h.head?_ne
    unfold Condition.stripQuotes
    split
    · next heq => simp [heq] at hhead
    · rfl
  unfold Condition.matching
  rw [hstrip, String.ofList_toList, Condition.sql_fullText]

/-- The condition of a written text is read back as its query. -/
theorem readMatch_matching {text query : List Char} {written : String}
    (h : Writes text written.toList query) {rules : LiteralRules} (hrules : ReadsEscapes rules)
    (quoter : Quoter) :
    readMatch rules ((Condition.matching written).sql quoter) = some query := by
  rw [h.sql_matching, readMatch_eq, h.readLiteral_append_quote hrules (by decide)]
  rfl

end Writes

/-- When the same operators are escaped everywhere, the other characters are bare, except for
backslashes. -/
theorem bare_flatMap (escaped text : List Char) :
    bare (text.flatMap (queryChar escaped)) =
      text.filter fun c => decide ¬(c = '\\' ∨ c ∈ escaped) := by
  induction text with
  | nil => rfl
  | cons c text ih =>
    rw [List.flatMap_cons, bare_queryChar, ih, List.filter_cons]
    by_cases hc : c = '\\' ∨ c ∈ escaped <;> simp [hc]

/-- Escaping leaves no operator bare. -/
theorem exists_writes_escape (text : String) :
    ∃ query, Writes text.toList (escape text).toList query ∧
      ∀ c ∈ bare query, c ∉ queryOperators := by
  refine ⟨text.toList.flatMap (queryChar operators), ?_, ?_⟩
  · unfold escape
    rw [String.toList_ofList]
    exact writes_flatMap (by decide) text.toList
  · intro c hc
    have hoperators : queryOperators ⊆ operators := by decide
    rw [bare_flatMap, List.mem_filter, decide_eq_true_iff, not_or] at hc
    exact fun hoperator => hc.2.2 (hoperators hoperator)

/-- With the operators of end users left alone, as many quotation marks are bare as there are. -/
theorem count_bare_guarded (text : List Char) :
    (bare (text.flatMap (queryChar guardedOperators))).count '"' = text.count '"' := by
  rw [bare_flatMap, List.count_filter (by decide)]

/-- Escaping the last quotation mark leaves one less of them bare. -/
theorem exists_writes_escapeLastQuote {text : List Char} (htext : '"' ∈ text) :
    ∃ query, Writes text (escapeLastQuote text) query ∧
      (bare query).count '"' + 1 = text.count '"' := by
  have hall : operators ∈ escapeLevels := by decide
  have hguarded : guardedOperators ∈ escapeLevels := by decide
  induction text with
  | nil => exact absurd htext List.not_mem_nil
  | cons c rest ih =>
    rw [escapeLastQuote]
    split
    · next hlast =>
      -- This is the last one: what follows is half escaped and has none.
      simp only [Bool.and_eq_true, decide_eq_true_eq, Bool.not_eq_true', List.contains_eq_mem,
        decide_eq_false_iff_not] at hlast
      obtain ⟨rfl, hrest⟩ := hlast
      refine ⟨_, (writes_flatMap hguarded rest).cons '"' hall, ?_⟩
      rw [bare_queryChar, if_pos (by decide), List.nil_append, count_bare_guarded,
        List.count_cons_self]
    · next hlast =>
      have hrest : '"' ∈ rest := by
        rcases List.mem_cons.mp htext with hc | hrest
        · simpa [← hc] using hlast
        · exact hrest
      obtain ⟨query, hwrites, hcount⟩ := ih hrest
      have hbare : (if c = '\\' ∨ c ∈ guardedOperators then [] else [c]).count '"' =
          [c].count '"' := by
        split
        · next hc =>
          have hne : c ≠ '"' := by
            rintro rfl
            exact absurd hc (by decide)
          simp [hne]
        · rfl
      refine ⟨_, hwrites.cons c hguarded, ?_⟩
      rw [bare_queryChar, List.count_append, hbare, Nat.add_assoc, hcount,
        ← List.count_append, List.singleton_append]

/-- Half escaping leaves an even number of quotation marks bare. -/
theorem exists_writes_halfEscape (text : String) :
    ∃ query, Writes text.toList (halfEscape text).toList query ∧
      (bare query).count '"' % 2 = 0 := by
  unfold halfEscape
  rw [String.toList_ofList]
  split
  · next hodd =>
    have hmem : '"' ∈ text.toList := by
      rw [← List.count_pos_iff]
      omega
    obtain ⟨query, hwrites, hcount⟩ := exists_writes_escapeLastQuote hmem
    exact ⟨query, hwrites, by omega⟩
  · next heven =>
    have hguarded : guardedOperators ∈ escapeLevels := by decide
    refine ⟨_, writes_flatMap hguarded text.toList, ?_⟩
    rw [count_bare_guarded]
    omega

/-- An escaped text comes back through both readings, for any quoter. The condition of the text is
one literal, which the server reads to its own closing quote; the query parser then takes the
query for the text. If everything is escaped, no operator is bare. If end users keep their
operators, no others are bare, and quotation marks pair up. -/
theorem readMatch_matching_escaped (quoter : Quoter) (text : String) :
    (∃ query,
      (Condition.matching (escape text)).sql quoter = "MATCH('" ++ escape text ++ "')" ∧
      readMatch .backslash ((Condition.matching (escape text)).sql quoter) = some query ∧
      unescape query = text.toList ∧
      ∀ c ∈ bare query, c ∉ queryOperators) ∧
    ∃ query,
      (Condition.matching (halfEscape text)).sql quoter = "MATCH('" ++ halfEscape text ++ "')" ∧
      readMatch .backslash ((Condition.matching (halfEscape text)).sql quoter) = some query ∧
      unescape query = text.toList ∧
      (∀ c ∈ bare query, c ∈ queryOperators → c ∈ ['|', '-', '"']) ∧
      (bare query).count '"' % 2 = 0 := by
  have hrules : ReadsEscapes .backslash := ⟨rfl, rfl⟩
  obtain ⟨query, hwrites, hbare⟩ := exists_writes_escape text
  obtain ⟨halfQuery, hhalf, hcount⟩ := exists_writes_halfEscape text
  refine ⟨⟨query, hwrites.sql_matching quoter, hwrites.readMatch_matching hrules quoter,
    hwrites.unescape_eq, hbare⟩, halfQuery, hhalf.sql_matching quoter,
    hhalf.readMatch_matching hrules quoter, hhalf.unescape_eq, ?_, hcount⟩
  intro c hc hoperator
  have huser : queryOperators ⊆ guardedOperators ++ ['|', '-', '"'] := by decide
  exact (List.mem_append.mp (huser hoperator)).resolve_left
    fun hguarded => hhalf.not_mem_bare hguarded hc

/-- Escaping adds no quote of its own. -/
theorem quote_not_mem_escapeChar {escaped : List Char} (hescaped : escaped ∈ escapeLevels)
    {c : Char} (hc : c ≠ '\'') : '\'' ∉ escapeChar escaped c := by
  have hquote := quote_not_mem_of_mem_escapeLevels hescaped
  unfold escapeChar
  rw [if_neg hc]
  split
  · decide
  · split <;> simp [Ne.symm hc]

namespace Writes

variable {text written query : List Char}

/-- A text without a quote is written without one. -/
theorem quote_not_mem (h : Writes text written query) (htext : '\'' ∉ text) : '\'' ∉ written := by
  induction h with
  | nil => exact List.not_mem_nil
  | cons c hescaped hrest ih =>
    rw [List.mem_cons, not_or] at htext
    rw [List.mem_append, not_or]
    exact ⟨quote_not_mem_escapeChar hescaped (Ne.symm htext.1), ih htext.2⟩

/-- Where backslashes do not escape, a quote in the text ends its literal early or, at the very
end, never. -/
theorem readLiteral_ne (h : Writes text written query) (htext : '\'' ∈ text)
    {rules : LiteralRules} (hescaped : ∀ c, rules.escaped c = none)
    (hdoubles : rules.doubles = true) (content : List Char) :
    readLiteral rules (written ++ ['\'', ')']) ≠ some (content, [')']) := by
  induction h generalizing content with
  | nil => exact absurd htext List.not_mem_nil
  | @cons text written query escaped c hlevel hrest ih =>
    intro hread
    by_cases hc : c = '\''
    · have hwritten : escapeChar escaped c = ['\\', '\''] := by
        rw [hc]
        rfl
      rw [hwritten, List.append_assoc, List.cons_append, List.singleton_append,
        readLiteral_backslash hescaped] at hread
      have hhead := hrest.head?_ne
      cases written with
      | nil =>
        rw [List.nil_append, readLiteral_doubled hdoubles,
          readLiteral_cons (by decide) (by decide)] at hread
        simp [readLiteral] at hread
      | cons d written =>
        rw [readLiteral_quote (by simpa using hhead), keep_some] at hread
        simp at hread
    · rw [List.append_assoc,
        readLiteral_append hescaped (quote_not_mem_escapeChar hlevel hc)] at hread
      obtain ⟨rest, hrest⟩ := of_keep_eq_some hread
      exact ih ((List.mem_cons.mp htext).resolve_left (Ne.symm hc)) rest hrest

/-- Under the rules that fit the settings of a quoter, a written text stays in its literal exactly
when backslashes escape or the text has no quote. -/
theorem isSome_readMatch_iff {text query : List Char} {written : String}
    (h : Writes text written.toList query) (settings : QuoteSettings) :
    (readMatch (.ofEscapes settings.escapeBackslashes)
      (Conjunction.sql settings.quoter ⟨[.matching written]⟩)).isSome = true ↔
      settings.escapeBackslashes = true ∨ '\'' ∉ text := by
  have hsql : Conjunction.sql settings.quoter ⟨[.matching written]⟩ =
      (Condition.matching written).sql settings.quoter := by
    simp [Conjunction.sql]
  rw [hsql]
  cases hescapes : settings.escapeBackslashes with
  | true =>
    have hrules : ReadsEscapes (.ofEscapes true) := ⟨rfl, rfl⟩
    simp [h.readMatch_matching hrules]
  | false =>
    have hescaped : ∀ c, (LiteralRules.ofEscapes false).escaped c = none := fun _ => rfl
    rw [h.sql_matching, readMatch_eq]
    constructor
    · intro hsome
      refine .inr fun htext => ?_
      obtain ⟨content, hclosed⟩ := Option.isSome_iff_exists.mp hsome
      exact h.readLiteral_ne htext hescaped rfl content (of_closedBy_eq_some hclosed)
    · rintro (hfalse | htext)
      · cases hfalse
      · rw [readLiteral_append hescaped (h.quote_not_mem htext), readLiteral_quote (by decide)]
        rfl

end Writes

/-- Under the rules of the connection itself, the condition of an escaped text is one literal
exactly when backslashes escape or the text has no quote: the helpers escape a quote with a
backslash whatever the settings are. -/
theorem isSome_readMatch_escaped (settings : QuoteSettings) (text : String) :
    ((readMatch (.ofEscapes settings.escapeBackslashes)
      (Conjunction.sql settings.quoter ⟨[.matching (escape text)]⟩)).isSome = true ↔
      settings.escapeBackslashes = true ∨ '\'' ∉ text.toList) ∧
    ((readMatch (.ofEscapes settings.escapeBackslashes)
      (Conjunction.sql settings.quoter ⟨[.matching (halfEscape text)]⟩)).isSome = true ↔
      settings.escapeBackslashes = true ∨ '\'' ∉ text.toList) := by
  obtain ⟨query, hwrites, _⟩ := exists_writes_escape text
  obtain ⟨halfQuery, hhalf, _⟩ := exists_writes_halfEscape text
  exact ⟨hwrites.isSome_readMatch_iff settings, hhalf.isSome_readMatch_iff settings⟩

/-- A quote ends the literal early where backslashes do not escape. -/
theorem readMatch_escape_apostrophe :
    (Conjunction.sql (QuoteSettings.quoter ⟨true, false⟩) ⟨[.matching (escape "it's")]⟩ =
      "MATCH('it\\'s')") ∧
    readMatch (.ofEscapes false)
      (Conjunction.sql (QuoteSettings.quoter ⟨true, false⟩) ⟨[.matching (escape "it's")]⟩) =
        none := by
  constructor <;> decide +kernel

end FullText

end SearchSql
