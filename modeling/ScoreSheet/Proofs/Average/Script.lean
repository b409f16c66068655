import ScoreSheet.Proofs.Average.Exact

/-!
Scripts that drive a running average, one value at a time.  Each step is a few
moves, which empty the average or push one value, so that every moment inside a
step is a moment between two moves.  While at most `2 ^ 32` values are held, the
state at every moment is exact and no push leaves its words.
-/

namespace ScoreSheet

inductive AverageMove where
  | clear
  | push (value : Int32)
deriving DecidableEq, Repr

namespace AverageMove

def apply (state : Average) : AverageMove → Average
  | .clear => Average.empty
  | .push value => state.push value

def holds (values : List Int32) : AverageMove → List Int32
  | .clear => []
  | .push value => values ++ [value]

def state (moves : List AverageMove) : Average :=
  moves.foldl apply Average.empty

/-- The values held after some moves: those pushed since the last clearing. -/
def held (moves : List AverageMove) : List Int32 :=
  moves.foldl holds []

theorem foldl_push (state : Average) (values : List Int32) :
    (values.map AverageMove.push).foldl apply state = state.extend values := by
  induction values generalizing state with
  | nil => rfl
  | cons value rest ih => exact ih (state.push value)

theorem foldl_holds_push (held values : List Int32) :
    (values.map AverageMove.push).foldl holds held = held ++ values := by
  induction values generalizing held with
  | nil => exact (List.append_nil held).symm
  | cons value rest ih =>
      rw [List.map_cons, List.foldl_cons, ih]
      exact List.append_assoc held [value] rest

theorem length_foldl_holds_le (values : List Int32) (moves : List AverageMove) :
    (moves.foldl holds values).length ≤ values.length + moves.length := by
  induction moves generalizing values with
  | nil => exact Nat.le_refl _
  | cons move rest ih =>
      rw [List.foldl_cons, List.length_cons]
      have later := ih (holds values move)
      cases move with
      | clear =>
          simp only [holds, List.length_nil] at later ⊢
          omega
      | push value =>
          simp only [holds, List.length_append, List.length_singleton] at later ⊢
          omega

theorem foldl_keeps_holds {state : Average} {values : List Int32} (moves : List AverageMove)
    (exactly : state.Holds values)
    (bounded : ∀ earlier, earlier <+: moves → (earlier.foldl holds values).length ≤ 2 ^ 32) :
    (moves.foldl apply state).Holds (moves.foldl holds values) := by
  -- The bound at each moment is what lets the next value be pushed exactly.
  induction moves generalizing state values with
  | nil => exact exactly
  | cons move rest ih =>
      have first := bounded [move] (List.prefix_append [move] rest)
      have later : ∀ earlier, earlier <+: rest →
          (earlier.foldl holds (holds values move)).length ≤ 2 ^ 32 := fun earlier initial =>
        bounded (move :: earlier) ((List.prefix_cons_inj move).mpr initial)
      cases move with
      | clear => exact ih Average.holds_empty later
      | push value =>
          change (values ++ [value]).length ≤ 2 ^ 32 at first
          rw [List.length_append, List.length_singleton] at first
          exact ih (exactly.push (by omega) value) later

end AverageMove

namespace AverageStep

def moves : AverageStep → List AverageMove
  | .push value => [.push value]
  | .extend values => values.map .push
  | .collect values => .clear :: values.map .push
  | .copies value count => (List.replicate count value).map .push
  | .reset => [.clear]
  | .read => []

theorem foldl_moves (step : AverageStep) (state : Average) :
    step.moves.foldl AverageMove.apply state = step.apply state := by
  cases step with
  | push value => rfl
  | extend values => exact AverageMove.foldl_push state values
  | collect values => exact AverageMove.foldl_push Average.empty values
  | copies value count =>
      exact (AverageMove.foldl_push state _).trans (state.extend_replicate value count)
  | reset => rfl
  | read => rfl

theorem foldl_holds_moves (step : AverageStep) (held : List Int32) :
    step.moves.foldl AverageMove.holds held = step.holds held := by
  cases step with
  | push value => rfl
  | extend values => exact AverageMove.foldl_holds_push held values
  | collect values => exact AverageMove.foldl_holds_push [] values
  | copies value count => exact AverageMove.foldl_holds_push held _
  | reset => rfl
  | read => rfl

def allMoves (steps : List AverageStep) : List AverageMove :=
  steps.flatMap moves

def finalState (steps : List AverageStep) : Average :=
  steps.foldl apply Average.empty

/-- The values held after a script: the list last collected, if that was not
forgotten since, and then every value pushed, extended or copied after it. -/
def finalValues (steps : List AverageStep) : List Int32 :=
  steps.foldl holds []

theorem state_allMoves (steps : List AverageStep) :
    AverageMove.state (allMoves steps) = finalState steps := by
  unfold AverageMove.state finalState allMoves
  rw [List.foldl_flatMap]
  simp only [foldl_moves]

theorem held_allMoves (steps : List AverageStep) :
    AverageMove.held (allMoves steps) = finalValues steps := by
  unfold AverageMove.held finalValues allMoves
  rw [List.foldl_flatMap]
  simp only [foldl_holds_moves]

def HoldsAtMost (bound : Nat) (steps : List AverageStep) : Prop :=
  ∀ earlier, earlier <+: allMoves steps → (AverageMove.held earlier).length ≤ bound

theorem holdsAtMost_of_length_le {bound : Nat} {steps : List AverageStep}
    (short : (allMoves steps).length ≤ bound) : HoldsAtMost bound steps := by
  intro earlier initial
  have heldLe := AverageMove.length_foldl_holds_le [] earlier
  have earlierLe := initial.length_le
  rw [List.length_nil, Nat.zero_add] at heldLe
  exact Nat.le_trans heldLe (Nat.le_trans earlierLe short)

theorem HoldsAtMost.take {bound : Nat} {steps : List AverageStep}
    (bounded : HoldsAtMost bound steps) (count : Nat) : HoldsAtMost bound (steps.take count) := by
  intro earlier initial
  apply bounded earlier
  have whole := List.prefix_append (allMoves (steps.take count))
    (allMoves (steps.drop count))
  rw [allMoves, allMoves, ← List.flatMap_append, List.take_append_drop] at whole
  exact initial.trans whole

theorem HoldsAtMost.holds {steps : List AverageStep} (bounded : HoldsAtMost (2 ^ 32) steps)
    {earlier : List AverageMove} (initial : earlier <+: allMoves steps) :
    (AverageMove.state earlier).Holds (AverageMove.held earlier) :=
  AverageMove.foldl_keeps_holds earlier Average.holds_empty
    (fun first firstInitial => bounded first (firstInitial.trans initial))

theorem HoldsAtMost.final_holds {steps : List AverageStep}
    (bounded : HoldsAtMost (2 ^ 32) steps) : (finalState steps).Holds (finalValues steps) := by
  have exactly := bounded.holds (List.prefix_refl (allMoves steps))
  rwa [state_allMoves, held_allMoves] at exactly

/-- At every moment of a script that holds at most `2 ^ 32` values, the state is the
exact sum and number of the values held, within the two-sided bound, and admits the
value that is pushed next. One value more can leave the sum's word. -/
theorem every_push_fits (steps : List AverageStep) (bounded : HoldsAtMost (2 ^ 32) steps) :
    (∀ earlier later, allMoves steps = earlier ++ later →
      (AverageMove.state earlier).Balanced ∧
        (AverageMove.state earlier).sum.toInt = exactSum (AverageMove.held earlier) ∧
        (AverageMove.state earlier).count.toNat = (AverageMove.held earlier).length ∧
        ∀ value rest, later = .push value :: rest →
          (AverageMove.state earlier).Admits value) ∧
      AverageMove.state (allMoves steps) = finalState steps ∧
      ∃ (pushed : List Int32) (last : Int32), (pushed ++ [last]).length = 2 ^ 32 + 1 ∧
        (Average.ofList pushed).sum.toInt + last.toInt < -2 ^ 63 := by
  refine ⟨?_, state_allMoves steps, ?_⟩
  · intro earlier later split
    have initial : earlier <+: allMoves steps := ⟨later, split.symm⟩
    have holds := bounded.holds initial
    refine ⟨holds.balanced, holds.sum_eq, holds.count_eq, ?_⟩
    intro value rest next
    subst next
    have afterPush := bounded (earlier ++ [.push value]) ⟨rest, by simp [split]⟩
    apply holds.admits
    rw [AverageMove.held, List.foldl_append] at afterPush
    change (AverageMove.held earlier ++ [value]).length ≤ 2 ^ 32 at afterPush
    rw [List.length_append, List.length_singleton] at afterPush
    omega
  · refine ⟨List.replicate (2 ^ 32) Int32.minValue, Int32.minValue, ?_, ?_⟩
    · rw [List.length_append, List.length_replicate, List.length_singleton]
    · rw [(Average.holds_ofList _ (Nat.le_of_eq List.length_replicate)).sum_eq,
        exactSum_replicate, Int32.toInt_minValue]
      omega

theorem every_push_fits_of_script :
    HoldsAtMost (2 ^ 32)
        [.extend [Int32.maxValue, -1], .reset, .copies Int32.minValue 2, .read, .push 7] ∧
      (AverageMove.state [.push Int32.maxValue, .push (-1), .clear, .push Int32.minValue,
        .push Int32.minValue]).Admits 7 := by
  have bounded : HoldsAtMost (2 ^ 32)
      [.extend [Int32.maxValue, -1], .reset, .copies Int32.minValue 2, .read, .push 7] :=
    holdsAtMost_of_length_le (by decide)
  have moments := (every_push_fits _ bounded).1 [.push Int32.maxValue, .push (-1), .clear,
    .push Int32.minValue, .push Int32.minValue] [.push 7] rfl
  exact ⟨bounded, moments.2.2.2 7 [] rfl⟩

end AverageStep
end ScoreSheet
