import ScoreSheet.Binary.Format
import ScoreSheet.CommandLine.Argument

/-!
How similar two names are.  Letters match if they are equal and not further
apart than a bound that the longer name sets; the similarity is the mean of the
matched share of either name and the share of matches that keep their order.

It is computed in numbers of 64 bits, rounded at each step, and held as a code
of that format; so a similarity that lies on the threshold of a suggestion is
decided by those roundings.
-/

namespace ScoreSheet
namespace Similarity

def ratio (numerator denominator : Nat) : Nat :=
  Format.binary64.round numerator denominator

def add (left right : Nat) : Nat :=
  Format.binary64.round (Format.binary64.units left + Format.binary64.units right)
    Format.binary64.one

def third (code : Nat) : Nat :=
  Format.binary64.round (Format.binary64.units code) (3 * Format.binary64.one)

/-- How far apart two letters that match may be. -/
def reach (left right : List Char) : Nat :=
  max left.length right.length / 2 - 1

/-- The first position within `reach` of `position` where the letter stands and
no earlier letter matched, if there is one. -/
def findMatch (reach position : Nat) (letter : Char) (taken : List Nat) (name : List Char) :
    Option Nat :=
  (List.range name.length).find? fun index =>
    decide (position ≤ index + reach) && decide (index ≤ position + reach) &&
      name[index]? == some letter && !taken.contains index

def matchesFrom (reach position : Nat) (taken : List Nat) (name : List Char) :
    List Char → List Char × List Nat
  | [] => ([], taken)
  | letter :: rest =>
      match findMatch reach position letter taken name with
      | some index =>
          let (letters, taken) := matchesFrom reach (position + 1) (index :: taken) name rest
          (letter :: letters, taken)
      | none => matchesFrom reach (position + 1) taken name rest

def takenLetters (taken : List Nat) (name : List Char) : List Char :=
  (List.range name.length).filterMap fun index =>
    if taken.contains index then name[index]? else none

def measure (left right : List Char) : Nat :=
  let (letters, taken) := matchesFrom (reach left right) 0 [] right left
  let count := letters.length
  if count = 0 then 0
  else
    let displaced := (letters.zip (takenLetters taken right)).countP fun (one, other) => one ≠ other
    third
      (add (add (ratio count left.length) (ratio count right.length))
        (ratio (count - displaced / 2) count))

def threshold : Nat :=
  ratio 7 10

/-- The argument whose name is most similar to an unknown one, if one is similar
enough. Of two equally similar ones it is the later. -/
def suggestion? (name : String) : Option Argument :=
  let scored := Argument.all.map fun argument =>
    (measure name.toList argument.name.toList, argument)
  let close := scored.filter fun (similarity, _) => decide (threshold < similarity)
  (close.foldl
    (fun best candidate =>
      match best with
      | none => some candidate
      | some chosen => if candidate.1 < chosen.1 then some chosen else some candidate)
    none).map (·.2)

end Similarity
end ScoreSheet
