import ScoreSheet.Binary32

/-!
The data that a score sheet shows: a name, a character, two numbers that decide
a condition, and five scores.
-/

namespace ScoreSheet

structure Sample where
  name : String
  x : Int32
  y : Binary32
  c : Char
  scores : Vector Int32 5
deriving DecidableEq, Repr

namespace Sample

/-- How many bytes a name may take, its terminator included. -/
def nameCapacity : Nat := 20

def fixed : Sample where
  name := "Osama"
  x := 42
  y := ⟨1078523331⟩
  c := 'A'
  scores := #v[90, 85, 78, 92, 88]

theorem fixed_y : fixed.y = Binary32.ofRatio false 314 100 := by decide

theorem fixed_name_fits : fixed.name.utf8ByteSize < nameCapacity := by decide

def bound : Int := 10

/-- Whether the first number is above ten and the second below it. The second
is below nothing if it is not a number. -/
def isConditionMet (sample : Sample) : Bool :=
  decide (bound < sample.x.toInt) && sample.y.lt (Binary32.ofInt bound)

def count (sample : Sample) : Nat :=
  sample.scores.toList.length

theorem count_eq (sample : Sample) : sample.count = 5 := by
  simp [count]

end Sample
end ScoreSheet
