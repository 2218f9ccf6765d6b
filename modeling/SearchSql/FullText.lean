/-!
# Escaping full-text queries

A full-text query stands inside a string literal of the statement, so an escape has to
survive two readings: the literal turns two backslashes into one, and the query parser
takes the character after a backslash literally.
-/

namespace SearchSql.FullText

/-- The operators of the query language. -/
def operators : List Char :=
  ['(', ')', '|', '-', '!', '@', '~', '"', '&', '/', '^', '$', '=', '<']

/-- The operators that end users may keep: alternative, exclusion and phrase. -/
def userOperators : List Char := ['|', '-', '"']

/-- The operators that are escaped even if end users keep theirs. -/
def guardedOperators : List Char :=
  operators.filter fun c => !userOperators.contains c

/-- A backslash takes four, a quote one for the literal alone, and an operator two. -/
def escapeChar (escaped : List Char) (c : Char) : List Char :=
  if c = '\\' then ['\\', '\\', '\\', '\\']
  else if c = '\'' then ['\\', '\'']
  else if c ∈ escaped then ['\\', '\\', c]
  else [c]

/-- Escaping every operator makes the whole text match literally. -/
def escape (text : String) : String :=
  String.ofList (text.toList.flatMap (escapeChar operators))

/-- The characters with the last double quote escaped and the rest half escaped. -/
def escapeLastQuote (cs : List Char) : List Char :=
  match cs with
  | [] => []
  | c :: rest =>
    if c = '"' && !rest.contains '"' then
      '\\' :: '\\' :: '"' :: rest.flatMap (escapeChar guardedOperators)
    else escapeChar guardedOperators c ++ escapeLastQuote rest

/-- Half escaping keeps the operators of end users. If the double quotes do not pair up, the last
one is escaped, so that phrases stay closed. -/
def halfEscape (text : String) : String :=
  let cs := text.toList
  String.ofList (
    if cs.count '"' % 2 = 1 then escapeLastQuote cs
    else cs.flatMap (escapeChar guardedOperators))

end SearchSql.FullText
