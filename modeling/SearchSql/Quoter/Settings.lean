import SearchSql.Quoter
import SearchSql.Text.Split

/-!
# The standard quoter

Names stand between backquotes, segment by segment, and texts between single quotes. Two
settings fit it to the server: whether names are quoted at all, and whether texts use
backslash escapes or only double their quotes.
-/

namespace SearchSql

/-- The settings of the standard quoter. -/
structure QuoteSettings where
  /-- Whether names are put between backquotes. -/
  quoteIdentifiers : Bool := true
  /-- Whether special characters in texts are escaped with backslashes. -/
  escapeBackslashes : Bool := true
deriving DecidableEq

namespace QuoteSettings

/-- One segment of a dotted name. A lone star stands for all columns and is not quoted; a
backquote inside is doubled. -/
def quoteSegment (segment : List Char) : List Char :=
  if segment = ['*'] then ['*']
  else '\x60' :: ((segment.flatMap fun c => if c = '\x60' then [c, c] else [c]) ++ ['\x60'])

/-- The backslash escape of one character of a text. -/
def escapeBackslashChar (c : Char) : List Char :=
  match c with
  | '\\' => ['\\', '\\']
  | '\'' => ['\\', '\'']
  | '"' => ['\\', '"']
  | '\x00' => ['\\', '0']
  | '\n' => ['\\', 'n']
  | '\r' => ['\\', 'r']
  | '\x1a' => ['\\', 'Z']
  | _ => [c]

/-- Without backslash escapes only a single quote is special, and is doubled. -/
def doubleQuoteChar (c : Char) : List Char :=
  if c = '\'' then [c, c] else [c]

/-- One character of the content of a text literal. -/
def escapeChar (settings : QuoteSettings) (c : Char) : List Char :=
  if settings.escapeBackslashes then escapeBackslashChar c else doubleQuoteChar c

/-- The content of a text literal, which is escaped character by character. -/
def escape (settings : QuoteSettings) (cs : List Char) : List Char :=
  cs.flatMap settings.escapeChar

/-- The first character of a text literal stands before the others. -/
theorem escape_cons (settings : QuoteSettings) (c : Char) (cs : List Char) :
    settings.escape (c :: cs) = settings.escapeChar c ++ settings.escape cs :=
  List.flatMap_cons

/-- A name, with its dotted segments quoted one by one if names are quoted. -/
def quoteIdentifier (settings : QuoteSettings) (name : String) : String :=
  if settings.quoteIdentifiers then
    String.ofList (Text.join '.' ((Text.split '.' name.toList).map quoteSegment))
  else name

/-- A text as a literal between single quotes. -/
def quoteString (settings : QuoteSettings) (text : String) : String :=
  String.ofList ('\'' :: (settings.escape text.toList ++ ['\'']))

/-- The standard quoter with the given settings. -/
def quoter (settings : QuoteSettings) : Quoter where
  quoteIdentifier := settings.quoteIdentifier
  quoteString := settings.quoteString

end QuoteSettings

end SearchSql
