import ScoreSheet.Binary32

/-!
The running average of a sequence of integers: an exact sum and a count, divided
only when the average is asked for.

Extending by a list and by copies of one value are separate routes to the same
state; `extend_replicate` says that they agree.
-/

namespace ScoreSheet

/-- What the values pushed so far leave behind. The sum is exact while at most
`2 ^ 32` values are held. -/
structure Average where
  sum : Int64
  count : UInt64
deriving DecidableEq, Repr

inductive AverageError where
  | emptySequence
deriving DecidableEq, Repr

def AverageError.message : AverageError → String
  | .emptySequence => "cannot average an empty sequence"

namespace Average

def empty : Average :=
  ⟨0, 0⟩

def push (state : Average) (value : Int32) : Average :=
  ⟨state.sum + value.toInt64, state.count + 1⟩

def extend (state : Average) (values : List Int32) : Average :=
  values.foldl push state

def extendCopies (state : Average) (value : Int32) (copies : Nat) : Average :=
  ⟨state.sum + value.toInt64 * Int64.ofNat copies, state.count + UInt64.ofNat copies⟩

def ofList (values : List Int32) : Average :=
  empty.extend values

/-- The sum over the count, each rounded to a binary number before the division
rounds again. -/
def average? (state : Average) : Except AverageError Binary32 :=
  if state.count = 0 then .error .emptySequence
  else .ok (Binary32.ofInt state.sum.toInt / Binary32.ofInt state.count.toNat)

@[simp] theorem extend_nil (state : Average) : state.extend [] = state := rfl

@[simp] theorem extend_cons (state : Average) (value : Int32) (rest : List Int32) :
    state.extend (value :: rest) = (state.push value).extend rest := rfl

theorem extend_append (state : Average) (earlier later : List Int32) :
    state.extend (earlier ++ later) = (state.extend earlier).extend later := by
  simp [extend, List.foldl_append]

private theorem extendCopies_succ (state : Average) (value : Int32) (copies : Nat) :
    state.extendCopies value (copies + 1) = (state.push value).extendCopies value copies := by
  have oneMore : Int64.ofNat (copies + 1) = Int64.ofNat copies + 1 := by
    simp [Int64.ofNat_add]
  have countMore : UInt64.ofNat (copies + 1) = UInt64.ofNat copies + 1 := by
    simp [UInt64.ofNat_add]
  simp only [extendCopies, push, oneMore, countMore, Int64.mul_add, Int64.mul_one, mk.injEq]
  constructor
  · rw [Int64.add_assoc, Int64.add_comm value.toInt64]
  · rw [UInt64.add_assoc, UInt64.add_comm 1]

theorem extend_replicate (state : Average) (value : Int32) (copies : Nat) :
    state.extend (List.replicate copies value) = state.extendCopies value copies := by
  induction copies generalizing state with
  | zero => simp [extendCopies]
  | succ copies ih => rw [List.replicate_succ, extend_cons, ih, extendCopies_succ]

end Average

inductive AverageStep where
  | push (value : Int32)
  | extend (values : List Int32)
  | collect (values : List Int32)
  | copies (value : Int32) (count : Nat)
  | reset
  | read
deriving Repr

/-- The state after a step. Collecting and resetting forget what was held, and
reading changes nothing. -/
def AverageStep.apply (state : Average) : AverageStep → Average
  | .push value => state.push value
  | .extend values => state.extend values
  | .collect values => Average.ofList values
  | .copies value count => state.extendCopies value count
  | .reset => Average.empty
  | .read => state

def Average.states (state : Average) : List AverageStep → List Average
  | [] => []
  | step :: rest =>
      let next := step.apply state
      next :: next.states rest

def AverageStep.holds (held : List Int32) : AverageStep → List Int32
  | .push value => held ++ [value]
  | .extend values => held ++ values
  | .collect values => values
  | .copies value count => held ++ List.replicate count value
  | .reset => []
  | .read => held

theorem AverageStep.apply_ofList (step : AverageStep) (held : List Int32) :
    step.apply (Average.ofList held) = Average.ofList (step.holds held) := by
  cases step with
  | push value => simp [apply, holds, Average.ofList, Average.extend_append]
  | extend values => simp [apply, holds, Average.ofList, Average.extend_append]
  | collect values => rfl
  | copies value count =>
      simp [apply, holds, Average.ofList, Average.extend_append, Average.extend_replicate]
  | reset => rfl
  | read => rfl

end ScoreSheet
