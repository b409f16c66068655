import ScoreSheet.Text.Split

/-!
Tables of characters.

A property of characters is given by ranges of code points in ascending order,
and each range may come with values.  Tables are written in base 16: `61-7a` is
a range, `e9` a range of one, and `c0=41,300` a range with two values.
-/

namespace ScoreSheet

def hexDigit? (character : Char) : Option Nat :=
  if character.isDigit then some (character.toNat - '0'.toNat)
  else if 'a' ≤ character ∧ character ≤ 'f' then some (character.toNat - 'a'.toNat + 10)
  else if 'A' ≤ character ∧ character ≤ 'F' then some (character.toNat - 'A'.toNat + 10)
  else none

def readBase? (base : Nat) (digits : List Char) : Option Nat :=
  digits.foldlM (fun value digit =>
    (hexDigit? digit).bind fun digit =>
      if digit < base then some (value * base + digit) else none) 0

structure CharacterRange where
  first : Nat
  last : Nat
  values : List Nat
deriving DecidableEq, Repr

namespace CharacterRange

def covers (range : CharacterRange) (character : Char) : Bool :=
  decide (range.first ≤ character.toNat) && decide (character.toNat ≤ range.last)

def read? (word : List Char) : Option CharacterRange :=
  let bounds := word.takeWhile (· ≠ '=')
  let values := (word.dropWhile (· ≠ '=')).drop 1
  let listed := if values.isEmpty then some [] else (splitOnChar ',' values).mapM (readBase? 16)
  match (splitOnChar '-' bounds).mapM (readBase? 16), listed with
  | some [only], some values => some ⟨only, only, values⟩
  | some [first, last], some values => some ⟨first, last, values⟩
  | _, _ => none

end CharacterRange

structure CharacterTable where
  ranges : List CharacterRange
deriving DecidableEq, Repr

namespace CharacterTable

/-- Reads a table. A word that is no range is left out. -/
def ofText (text : String) : CharacterTable :=
  ⟨(wordsOf text.toList).filterMap CharacterRange.read?⟩

def find? (table : CharacterTable) (character : Char) : Option CharacterRange :=
  table.ranges.find? (·.covers character)

def contains (table : CharacterTable) (character : Char) : Bool :=
  table.ranges.any (·.covers character)

def value? (table : CharacterTable) (character : Char) : Option Nat :=
  (table.find? character).bind (·.values.head?)

/-- What a table puts in the place of a character: the values of its range, and
a single value counted on from the start of the range. -/
def image? (table : CharacterTable) (character : Char) : Option (List Char) :=
  (table.find? character).map fun range =>
    match range.values with
    | [only] => [Char.ofNat (only + (character.toNat - range.first))]
    | values => values.map Char.ofNat

end CharacterTable

end ScoreSheet
