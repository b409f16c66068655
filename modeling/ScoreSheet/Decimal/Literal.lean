import ScoreSheet.Binary32

/-!
Decimal numbers, as whole digits times a power of ten, and the literals they are
read from: an optional sign, then a name for infinity or for no number, or decimal
digits with at most one point and an optional exponent.

`Literal.read?` accepts exactly the grammar and keeps the number as it is written;
`Literal.toBinary32` rounds it once.  A decimal too large or too small for a format
is told by its position alone, so that no power of ten beyond the format's range is
ever formed.
-/

namespace ScoreSheet

structure Decimal where
  digits : Nat
  exponent : Int
deriving DecidableEq, Repr

def digitsText (number : Nat) : String :=
  toString number

namespace Decimal

/-- The power of ten just above a nonzero decimal: it lies below
`10 ^ position`, and not below the power before. -/
def position (decimal : Decimal) : Int :=
  (digitsText decimal.digits).length + decimal.exponent

def round (format : Format) (decimal : Decimal) : Nat :=
  if decimal.digits = 0 then 0
  else if (format.exponentLimit : Int) < decimal.position then format.infinity
  else if decimal.position < -(format.fineness : Int) then 0
  else
    match decimal.exponent with
    | .ofNat power => format.round (decimal.digits * Nat.pow 10 power) 1
    | .negSucc power => format.round decimal.digits (Nat.pow 10 (power + 1))

end Decimal

inductive Numeral where
  | infinity
  | notANumber
  | decimal (value : Decimal)
deriving DecidableEq, Repr

structure Literal where
  negative : Bool
  numeral : Numeral
deriving DecidableEq, Repr

inductive LiteralError where
  | empty
  | malformed
deriving DecidableEq, Repr

def LiteralError.message : LiteralError → String
  | .empty => "cannot parse float from empty string"
  | .malformed => "invalid float literal"

def digitsValue (digits : List Char) : Nat :=
  digits.foldl (fun value digit => value * 10 + (digit.toNat - '0'.toNat)) 0

namespace Literal

def takeSign : List Char → Bool × List Char
  | '-' :: rest => (true, rest)
  | '+' :: rest => (false, rest)
  | rest => (false, rest)

/-- Reads what follows the digits: nothing, or `e` or `E`, an optional sign and
at least one digit. -/
def readExponent? : List Char → Option Int
  | [] => some 0
  | marker :: rest =>
      let (negative, digits) := takeSign rest
      if (marker = 'e' ∨ marker = 'E') ∧ digits ≠ [] ∧ digits.all Char.isDigit then
        some (if negative then -(digitsValue digits : Int) else digitsValue digits)
      else none

def takeFraction : List Char → List Char × List Char
  | '.' :: rest => (rest.takeWhile Char.isDigit, rest.dropWhile Char.isDigit)
  | rest => ([], rest)

/-- Reads digits with at most one point, at least one of them, and an exponent. -/
def readDecimal? (text : List Char) : Option Decimal :=
  let whole := text.takeWhile Char.isDigit
  let (fraction, rest) := takeFraction (text.dropWhile Char.isDigit)
  if whole.isEmpty && fraction.isEmpty then none
  else
    (readExponent? rest).map fun exponent =>
      ⟨digitsValue (whole ++ fraction), exponent - fraction.length⟩

def readName? (text : List Char) : Option Numeral :=
  let name := String.ofList (text.map Char.toLower)
  if name = "inf" ∨ name = "infinity" then some .infinity
  else if name = "nan" then some .notANumber
  else none

def read? (text : String) : Except LiteralError Literal :=
  if text.isEmpty then .error .empty
  else
    let (negative, unsigned) := takeSign text.toList
    match readName? unsigned <|> (readDecimal? unsigned).map .decimal with
    | some numeral => .ok ⟨negative, numeral⟩
    | none => .error .malformed

/-- The number of 32 bits nearest to a literal, ties going to the even
significand. The sign is kept, also on a zero. -/
def toBinary32 (literal : Literal) : Binary32 :=
  match literal.numeral with
  | .infinity => Binary32.infinity literal.negative
  | .notANumber => Binary32.ofMagnitude literal.negative Binary32.nan.magnitude
  | .decimal value => Binary32.ofMagnitude literal.negative (value.round Format.binary32)

end Literal

def Binary32.read? (text : String) : Except LiteralError Binary32 :=
  (Literal.read? text).map Literal.toBinary32

end ScoreSheet
