import SearchSql.Number.Binary64
import SearchSql.Text.Blank

/-!
# The number at the start of a text

Text is taken as a number by its leading run of digits, points and one sign in front.
The whole run has to be a number: a run with two points, or without a digit, is none.
-/

namespace SearchSql

/-- The characters of a number after its first one. -/
def isNumberChar (c : Char) : Bool :=
  c.isDigit || c == '.'

/-- The longest run of number characters at the start, whose first may be a sign. -/
def numberRun : List Char → List Char
  | [] => []
  | c :: rest =>
    if isNumberChar c || c == '-' || c == '+' then c :: rest.takeWhile isNumberChar else []

/-- The value of a run of decimal digits, read from the left. -/
def digitsValue (digits : List Char) : Nat :=
  digits.foldl (fun value c => 10 * value + (c.toNat - '0'.toNat)) 0

/-- The digits before and after the only point of an unsigned number text. -/
def unsignedParts (cs : List Char) : Option (List Char × List Char) :=
  let whole := cs.takeWhile Char.isDigit
  match cs.dropWhile Char.isDigit with
  | [] => some (whole, [])
  | c :: after => if c = '.' && after.all Char.isDigit then some (whole, after) else none

/-- A number text has an optional sign, digits, at most one point, and at least one digit. It is
read as the nearest double. -/
def readNumber (cs : List Char) : Option Binary64 :=
  let (negative, body) :=
    match cs with
    | '-' :: rest => (true, rest)
    | '+' :: rest => (false, rest)
    | _ => (false, cs)
  match unsignedParts body with
  | none => none
  | some (whole, after) =>
    if whole.isEmpty && after.isEmpty then none
    else some (Binary64.ofRatio negative (digitsValue (whole ++ after)) (Nat.pow 10 after.length))

/-- The number that a text starts with after its leading blanks. -/
def leadingNumber? (text : String) : Option Binary64 :=
  readNumber (numberRun (Text.trimChars text.toList))

end SearchSql
