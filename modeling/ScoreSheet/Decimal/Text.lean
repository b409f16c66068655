import ScoreSheet.Decimal.Literal

/-!
Binary numbers as decimal texts: with exactly two places, or as the shortest
decimal that reads back as the same number.

For two places the exact value is rounded once, a tie going to the even last digit;
the sign bit is always written, also before a zero or a value that rounds to zero.

Whether a decimal is good enough to be the shortest is decided by reading it: it has
to round to the number's own code.  The powers of ten are tried from the coarsest
down, and on each only the two multiples next to the number are read, because a
multiple further away reads back only if one of those two does.
-/

namespace ScoreSheet

def hundredthsText (hundredths : Nat) : String :=
  let places := hundredths % 100
  toString (hundredths / 100) ++ "." ++ toString (places / 10) ++ toString (places % 10)

namespace Binary32

def hundredths (value : Binary32) : Nat :=
  roundQuotient (value.units * 100) Format.binary32.one

def toHundredthsText (value : Binary32) : String :=
  if value.isNaN then "NaN"
  else
    let sign := if value.isNegative then "-" else ""
    let size := if value.isInfinite then "inf" else hundredthsText value.hundredths
    sign ++ size

end Binary32

namespace Decimal

/-- The two multiples of `10 ^ exponent` around a finite code's value, the lower
one first, and whether the upper one is at least as near. -/
def neighbours (format : Format) (code : Nat) (exponent : Int) : Decimal × Decimal × Bool :=
  let numerator := format.units code * Nat.pow 10 (-exponent).toNat
  let denominator := format.one * Nat.pow 10 exponent.toNat
  let lower := numerator / denominator
  (⟨lower, exponent⟩, ⟨lower + 1, exponent⟩,
    decide (denominator ≤ 2 * (numerator % denominator)))

/-- The nearest multiple of `10 ^ exponent` that reads back as the code, if one
does. Of two equally near ones it is the upper. -/
def onGrid? (format : Format) (code : Nat) (exponent : Int) : Option Decimal :=
  let (lower, upper, upperNearer) := neighbours format code exponent
  let lowerReads := lower.round format = code
  let upperReads := upper.round format = code
  if upperReads ∧ (upperNearer = true ∨ ¬ lowerReads) then some upper
  else if lowerReads then some lower
  else none

def exact (format : Format) (code : Nat) : Decimal :=
  ⟨format.units code * Nat.pow 5 format.fineness, -format.fineness⟩

/-- The first grid with a decimal that reads back, from `10 ^ exponent` down
through at most `grids` powers of ten. -/
def firstOnGrid (format : Format) (code : Nat) (exponent : Int) : Nat → Decimal
  | 0 => exact format code
  | grids + 1 =>
      match onGrid? format code exponent with
      | some decimal => decimal
      | none => firstOnGrid format code (exponent - 1) grids

/-- The decimal of fewest digits that reads back as a finite code, and of those
the nearest to its value. The search starts above the value, and the last grid
it may reach holds the value itself. -/
def shortest (format : Format) (code : Nat) : Decimal :=
  if code = 0 then ⟨0, 0⟩
  else
    let start := (digitsText (format.units code / format.one)).length
    firstOnGrid format code start (start + format.fineness + 1)

def plainText (decimal : Decimal) : String :=
  match decimal.exponent with
  | .ofNat power => digitsText (decimal.digits * Nat.pow 10 power) ++ ".0"
  | .negSucc places =>
      let unit := Nat.pow 10 (places + 1)
      let fraction := digitsText (decimal.digits % unit)
      let zeros := String.ofList (List.replicate (places + 1 - fraction.length) '0')
      digitsText (decimal.digits / unit) ++ "." ++ zeros ++ fraction

/-- A decimal with one digit in front of the point, if there is need of one, and a power
of ten behind it. -/
def scientificText (decimal : Decimal) : String :=
  let digits := (digitsText decimal.digits).toList
  let fraction := digits.drop 1
  String.ofList (digits.take 1) ++
    (if fraction.isEmpty then "" else "." ++ String.ofList fraction) ++
    "e" ++ toString (decimal.position - 1)

end Decimal

namespace Binary32

def widened (value : Binary32) : Nat :=
  Format.binary64.round value.units Format.binary32.one

/-- Whether a finite number is written with a power of ten: at `10 ^ 16` and above, and
below `10 ^ (-4)` unless it is zero. -/
def isScientific (value : Binary32) : Bool :=
  decide (Nat.pow 10 16 * Format.binary32.one ≤ value.units ∨
    0 < value.units ∧ Nat.pow 10 4 * value.units < Format.binary32.one)

def toShortestText (value : Binary32) : String :=
  if value.isNaN then "NaN"
  else
    let sign := if value.isNegative then "-" else ""
    let decimal := Decimal.shortest Format.binary64 value.widened
    let size :=
      if value.isInfinite then "inf"
      else if value.isScientific then decimal.scientificText
      else decimal.plainText
    sign ++ size

end Binary32

end ScoreSheet
