import SearchSql.Number.Binary64

/-!
# Decimal text of numbers

A finite double is written with the fewest digits that read back to it, and of the numbers
with that many digits with the nearest. The choice of digits is kept apart from their
layout: a format says when the digits are written out in full, what follows a whole number,
and which way an exact tie between two nearest numbers goes.
-/

namespace SearchSql

/-- A decimal number: the point stands before its first digit, moved right by `point`. -/
structure Decimal where
  /-- The significant digits. Only the number zero has a zero at either end. -/
  digits : List Char
  /-- The number of places by which the point is moved right. -/
  point : Int
deriving DecidableEq

/-- Of two neighbours that are equally near, a rule picks one. -/
inductive TieRule where
  /-- The neighbour with an even last digit. -/
  | even
  /-- The larger neighbour. -/
  | up
deriving DecidableEq

/-- The decimal text of an integer. -/
def integerText (i : Int) : String :=
  if i < 0 then "-" ++ Nat.repr i.natAbs else Nat.repr i.natAbs

namespace Decimal

/-- The number zero has one digit. -/
def zero : Decimal := ⟨['0'], 1⟩

/-- A whole multiple of a power of ten, without the zeros at its end. -/
def ofScaled (multiple : Nat) (power : Int) : Decimal :=
  let digits := Nat.toDigits 10 multiple
  match (digits.reverse.dropWhile (· == '0')).reverse with
  | [] => zero
  | significant => ⟨significant, digits.length + power⟩

/-- A multiple of a power of ten has at least one digit. -/
theorem digits_ofScaled_ne_nil (multiple : Nat) (power : Int) :
    (ofScaled multiple power).digits ≠ [] := by
  unfold ofScaled
  dsimp only
  split
  · simp [zero]
  · next hne => exact hne

/-- The exponent with one digit before the point. -/
def scientificExponent (d : Decimal) : Int := d.point - 1

/-- The digits written out in full. A whole number is followed by the given text. -/
def positional (d : Decimal) (wholeEnd : List Char) : List Char :=
  if d.point ≤ 0 then
    '0' :: '.' :: (List.replicate (-d.point).toNat '0' ++ d.digits)
  else
    let before := d.digits.take d.point.toNat
    match d.digits.drop d.point.toNat with
    | [] => before ++ List.replicate (d.point.toNat - d.digits.length) '0' ++ wholeEnd
    | after => before ++ '.' :: after

/-- One digit before the point, then the exponent of ten, a positive one after the given sign. -/
def scientific (d : Decimal) (plus : List Char) : List Char :=
  let mantissa :=
    match d.digits with
    | [] => ['0']
    | [digit] => [digit]
    | digit :: rest => digit :: '.' :: rest
  let sign := if d.scientificExponent < 0 then [] else plus
  mantissa ++ 'e' :: (sign ++ (integerText d.scientificExponent).toList)

end Decimal

namespace Binary64

/-- A multiple of a power of ten reads back when the double nearest to it has the magnitude
sought. -/
def readsBack (x : Binary64) (multiple : Nat) (power : Int) : Bool :=
  ofRatio x.isNegative (multiple * Nat.pow 10 power.toNat) (Nat.pow 10 (-power).toNat) == x

/-- The nearest multiple of a power of ten that reads back, among the two neighbours of the
number on that grid. -/
def nearestOnGrid (tie : TieRule) (x : Binary64) (power : Int) : Option Decimal :=
  let num := x.numerator * Nat.pow 10 (-power).toNat
  let den := x.denominator * Nat.pow 10 power.toNat
  let below := num / den
  let rest := 2 * (num % den)
  let preferAbove :=
    rest > den || (rest == den && (tie == .up || below % 2 == 1))
  match readsBack x below power, readsBack x (below + 1) power with
  | true, true => some (Decimal.ofScaled (if preferAbove then below + 1 else below) power)
  | true, false => some (Decimal.ofScaled below power)
  | false, true => some (Decimal.ofScaled (below + 1) power)
  | false, false => none

/-- A power of ten above the magnitude, by at most a factor of one hundred. -/
def gridAbove (x : Binary64) : Int :=
  if x.denominator ≤ x.numerator then
    (Nat.toDigits 10 (x.numerator / x.denominator)).length
  else
    2 - ((Nat.toDigits 10 (x.denominator / x.numerator)).length : Int)

/-- All digits of a finite double, which always end. -/
def exactDecimal (x : Binary64) : Decimal :=
  Decimal.ofScaled (x.numerator * Nat.pow 5 (-x.exponent).toNat)
    (min x.exponent 0)

/-- The shortest decimal that reads back to a finite double that is not zero. Ever finer grids
are tried from above; the twentieth has more digits than any double needs. -/
def shortest (tie : TieRule) (x : Binary64) : Decimal :=
  let grids := (List.range 20).map fun (step : Nat) => x.gridAbove - (step : Int)
  (grids.findSome? (x.nearestOnGrid tie)).getD x.exactDecimal

end Binary64

/-- How finite doubles are laid out as text. -/
structure NumberFormat where
  /-- What follows a whole number that is written out in full. -/
  wholeEnd : String
  /-- The exponents of ten at which a number is written out in full. -/
  isPositional : Int → Bool
  /-- What stands before a positive exponent. -/
  exponentPlus : String
  /-- Which of two equally near shortest decimals is written. -/
  tie : TieRule

/-- The text of a finite double: its sign, then its shortest decimal in the layout of the
format. Zero is always written out in full. -/
def NumberFormat.text (format : NumberFormat) (x : Binary64) : String :=
  let digits :=
    if x.isZero then Decimal.zero.positional format.wholeEnd.toList
    else
      let decimal := x.shortest format.tie
      if format.isPositional decimal.scientificExponent then
        decimal.positional format.wholeEnd.toList
      else
        decimal.scientific format.exponentPlus.toList
  String.ofList (if x.isNegative then '-' :: digits else digits)

end SearchSql
