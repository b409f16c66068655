import ScoreSheet.Binary.Format

/-!
Binary numbers of 32 bits, with the operations a mean needs: conversion of an
integer, division and comparison.  A number is its bit pattern; zero has two
signs, and every pattern above infinity is not a number.
-/

namespace ScoreSheet

structure Binary32 where
  bits : UInt32
deriving DecidableEq, Repr

namespace Binary32

def signBit : Nat :=
  0x80000000

def isNegative (value : Binary32) : Bool :=
  decide (signBit ≤ value.bits.toNat)

def magnitude (value : Binary32) : Nat :=
  value.bits.toNat % signBit

def isNaN (value : Binary32) : Bool :=
  decide (Format.binary32.infinity < value.magnitude)

def isInfinite (value : Binary32) : Bool :=
  value.magnitude == Format.binary32.infinity

def isFinite (value : Binary32) : Bool :=
  decide (value.magnitude < Format.binary32.infinity)

def units (value : Binary32) : Nat :=
  Format.binary32.units value.magnitude

def ofMagnitude (negative : Bool) (magnitude : Nat) : Binary32 :=
  ⟨UInt32.ofNat (magnitude + if negative then signBit else 0)⟩

/-- The quiet pattern that stands for every result that is not a number. -/
def nan : Binary32 :=
  ⟨0x7fc00000⟩

def infinity (negative : Bool) : Binary32 :=
  ofMagnitude negative Format.binary32.infinity

def zero (negative : Bool) : Binary32 :=
  ofMagnitude negative 0

/-- The number nearest to a quotient of natural numbers under the given sign,
ties going to the even significand. -/
def ofRatio (negative : Bool) (numerator denominator : Nat) : Binary32 :=
  ofMagnitude negative (Format.binary32.round numerator denominator)

def ofInt (integer : Int) : Binary32 :=
  ofRatio (decide (integer < 0)) integer.natAbs 1

/-- The quotient rounded to nearest. A nonzero number over zero is infinite,
and zero over zero or infinity over infinity is not a number. -/
def div (dividend divisor : Binary32) : Binary32 :=
  let negative := dividend.isNegative != divisor.isNegative
  if dividend.isNaN || divisor.isNaN then nan
  else if dividend.isInfinite then
    if divisor.isInfinite then nan else infinity negative
  else if divisor.isInfinite then zero negative
  else if divisor.units = 0 then
    if dividend.units = 0 then nan else infinity negative
  else ofRatio negative dividend.units divisor.units

instance : Div Binary32 := ⟨div⟩

/-- The position of a number in the order of values. Both zeros are at the
origin. -/
def rank (value : Binary32) : Int :=
  if value.isNegative then -(value.magnitude : Int) else value.magnitude

/-- Whether one number is below another, which a pattern that is not a number
never is. -/
def lt (left right : Binary32) : Bool :=
  !left.isNaN && !right.isNaN && decide (left.rank < right.rank)

end Binary32
end ScoreSheet
