/-!
Labels in ASCII.

A label with other characters can be written with letters, digits and hyphens
alone: first the characters of ASCII and a hyphen, then each other character as
the distance from the one inserted before, counting code points and the places
in the label.  A distance is a number in base 36 whose digits have thresholds of
their own: a digit below its threshold is the last.
-/

namespace ScoreSheet
namespace Domain

/-- The value of a digit, with letters before decimal digits. -/
def distanceDigit? (character : Char) : Option Nat :=
  if character.isLower then some (character.toNat - 'a'.toNat)
  else if character.isUpper then some (character.toNat - 'A'.toNat)
  else if character.isDigit then some (character.toNat - '0'.toNat + 26)
  else none

/-- The threshold of the digit at `place`, counted in steps of 36 from 36. -/
def threshold (bias place : Nat) : Nat :=
  max 1 (min 26 (place - bias))

def isWord (number : Nat) : Bool :=
  decide (number < UInt32.size)

/-- Reads one distance, whose next digit counts `weight`, onto `start`; gives the
sum and what follows. -/
def readDistance? (bias place weight start : Nat) : List Char → Option (Nat × List Char)
  | [] => none
  | character :: rest =>
      (distanceDigit? character).bind fun digit =>
        let sum := start + digit * weight
        let next := weight * (36 - threshold bias place)
        if !isWord sum then none
        else if digit < threshold bias place then some (sum, rest)
        else if !isWord next then none
        else readDistance? bias (place + 36) next sum rest

theorem readDistance?_length {bias place weight start sum : Nat} {text rest : List Char}
    (read : readDistance? bias place weight start text = some (sum, rest)) :
    rest.length < text.length := by
  induction text generalizing place weight start with
  | nil => simp [readDistance?] at read
  | cons character others ih =>
      simp only [readDistance?, Option.bind_eq_some_iff] at read
      obtain ⟨digit, _, read⟩ := read
      split at read
      · simp at read
      · split at read
        · simp only [Option.some.injEq, Prod.mk.injEq] at read
          simp [read.2]
        · split at read
          · simp at read
          · exact Nat.lt_succ_of_lt (ih read)

def reduce (number : Nat) : Nat × Nat :=
  if 455 < number then
    let (times, left) := reduce (number / 35)
    (times + 1, left)
  else (0, number)
termination_by number

def adaptedBias (distance count : Nat) (isFirst : Bool) : Nat :=
  let damped := if isFirst then distance / 700 else distance / 2
  let (times, left) := reduce (damped + damped / count)
  36 * times + 36 * left / (left + 38)

def character? (codePoint : Nat) : Option Char :=
  if valid : codePoint.isValidChar then some (Char.ofNatAux codePoint valid) else none

/-- Inserts the characters that a text of distances tells, the first of them at
or after code point `codePoint` and place `place`. -/
def insertAll? (bias codePoint place : Nat) (label text : List Char) : Option (List Char) :=
  match text with
  | [] => some label
  | first :: others =>
      match read : readDistance? bias 36 1 place (first :: others) with
      | none => none
      | some (sum, rest) =>
          let count := label.length + 1
          let codePoint := codePoint + sum / count
          let bias := adaptedBias (sum - place) count (place == 0)
          match character? codePoint with
          | none => none
          | some character =>
              have : rest.length < (first :: others).length := readDistance?_length read
              insertAll? bias codePoint (sum % count + 1)
                (label.insertIdx (sum % count) character) rest
termination_by text.length
decreasing_by exact this

/-- The characters of ASCII and the distances, which the last hyphen separates.
A hyphen in front separates nothing. -/
def splitDistances (text : List Char) : List Char × List Char :=
  let distances := (text.reverse.takeWhile (· ≠ '-')).reverse
  let plain := text.take (text.length - distances.length - 1)
  if plain.isEmpty then ([], text) else (plain, distances)

def unpacked? (text : List Char) : Option (List Char) :=
  let (plain, distances) := splitDistances text
  if plain.all fun character => decide (character.toNat < 0x80) then
    insertAll? 72 0x80 0 plain distances
  else none

end Domain
end ScoreSheet
