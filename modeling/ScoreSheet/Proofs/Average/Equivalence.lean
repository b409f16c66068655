import ScoreSheet.Proofs.Average.Script
import ScoreSheet.Report

/-!
What can be seen of a running average depends only on the values it holds.  After
each step of a script its count and its average are those of the list of values
held, however they came to be held, and reading leaves everything as it was.
-/

namespace ScoreSheet
namespace AverageStep

theorem states_append (state : Average) (before after : List AverageStep) :
    state.states (before ++ after) =
      state.states before ++ (before.foldl apply state).states after := by
  induction before generalizing state with
  | nil => rfl
  | cons step rest ih =>
      simp only [List.cons_append, Average.states, List.foldl_cons, ih]

theorem states_length (state : Average) (steps : List AverageStep) :
    (state.states steps).length = steps.length := by
  induction steps generalizing state with
  | nil => rfl
  | cons step rest ih =>
      simp only [Average.states, List.length_cons, ih]

theorem states_getElem? (state : Average) (steps : List AverageStep) (k : Nat) :
    (state.states steps)[k]? =
      if k < steps.length then some ((steps.take (k + 1)).foldl apply state) else none := by
  induction steps generalizing state k with
  | nil => rfl
  | cons step rest ih =>
      cases k with
      | zero => rfl
      | succ k =>
          simp only [Average.states, List.getElem?_cons_succ, List.take_succ_cons,
            List.foldl_cons, List.length_cons, Nat.add_lt_add_iff_right, ih]

theorem averageOf_eq {state : Average} {values : List Int32} (holds : state.Holds values)
    (room : values.length ≤ 2 ^ 32) : state.average? = (Report.averageOf values).2 := by
  rw [holds.eq_of_perm (Average.holds_ofList values room) (List.Perm.refl values)]
  rfl

theorem average?_fails_iff {state : Average} {values : List Int32} (holds : state.Holds values) :
    (∃ error, state.average? = .error error) ↔ values = [] := by
  rw [holds.average?_eq]
  by_cases none : values = []
  · rw [if_pos none]
    exact ⟨fun _ => none, fun _ => ⟨.emptySequence, rfl⟩⟩
  · rw [if_neg none]
    constructor
    · rintro ⟨error, impossible⟩
      cases impossible
    · intro empty
      exact absurd empty none

theorem HoldsAtMost.length_le {steps : List AverageStep} {bound : Nat}
    (bounded : HoldsAtMost bound steps) : (finalValues steps).length ≤ bound := by
  have whole := bounded (allMoves steps) (List.prefix_refl _)
  rwa [held_allMoves] at whole

/-- A read, also one that has no average to give, leaves the states after every
other step as they are without it. -/
theorem states_eraseIdx_read (state : Average) (before after : List AverageStep) :
    (state.states (before ++ .read :: after)).eraseIdx before.length =
      state.states (before ++ after) := by
  have length := states_length state before
  rw [states_append, states_append,
    List.eraseIdx_append_of_length_le (Nat.le_of_eq length), length, Nat.sub_self]
  rfl

/-- After every step of a script the count is that of the values held and the
average is theirs, which there is not exactly if none are held. Two scripts that
hold the same values in any order are seen to be the same, and reads do not matter. -/
theorem seen_of_values_held (steps : List AverageStep) (bounded : HoldsAtMost (2 ^ 32) steps) :
    (Average.empty.states steps).length = steps.length ∧
      (∀ k state, (Average.empty.states steps)[k]? = some state →
        state.count.toNat = (finalValues (steps.take (k + 1))).length ∧
          state.average? = (Report.averageOf (finalValues (steps.take (k + 1)))).2 ∧
          ((∃ error, state.average? = .error error) ↔ finalValues (steps.take (k + 1)) = []) ∧
          ∀ error, state.average? = .error error →
            error.message = "cannot average an empty sequence") ∧
      (∀ others, HoldsAtMost (2 ^ 32) others →
        (finalValues steps).Perm (finalValues others) →
          (finalState steps).count = (finalState others).count ∧
            (finalState steps).average? = (finalState others).average?) ∧
      ∀ before after, steps = before ++ .read :: after →
        (Average.empty.states steps).eraseIdx before.length =
          Average.empty.states (before ++ after) := by
  refine ⟨states_length Average.empty steps, ?_, ?_, ?_⟩
  · intro k state reached
    rw [states_getElem?] at reached
    split at reached
    · cases reached
      have within := bounded.take (k + 1)
      have holds := within.final_holds
      refine ⟨holds.count_eq, averageOf_eq holds within.length_le, average?_fails_iff holds, ?_⟩
      intro error _
      cases error
      rfl
    · cases reached
  · intro others othersBounded same
    have states := bounded.final_holds.eq_of_perm othersBounded.final_holds same
    rw [states]
    exact ⟨rfl, rfl⟩
  · intro before after split
    subst split
    exact states_eraseIdx_read Average.empty before after

theorem seen_of_values_held_of_scripts :
    HoldsAtMost (2 ^ 32) [.push 9, .collect [3, 5], .copies 7 2, .read, .push (-1)] ∧
      HoldsAtMost (2 ^ 32) [.push 7, .reset, .copies 7 2, .extend [5, -1, 3]] ∧
      (finalValues [.push 9, .collect [3, 5], .copies 7 2, .read, .push (-1)]).Perm
        (finalValues [.push 7, .reset, .copies 7 2, .extend [5, -1, 3]]) ∧
      (finalState [.push 9, .collect [3, 5], .copies 7 2, .read, .push (-1)]).average? =
        (finalState [.push 7, .reset, .copies 7 2, .extend [5, -1, 3]]).average? := by
  have bounded : HoldsAtMost (2 ^ 32)
      [.push 9, .collect [3, 5], .copies 7 2, .read, .push (-1)] :=
    holdsAtMost_of_length_le (by decide)
  have othersBounded : HoldsAtMost (2 ^ 32)
      [.push 7, .reset, .copies 7 2, .extend [5, -1, 3]] :=
    holdsAtMost_of_length_le (by decide)
  have same : (finalValues [.push 9, .collect [3, 5], .copies 7 2, .read, .push (-1)]).Perm
      (finalValues [.push 7, .reset, .copies 7 2, .extend [5, -1, 3]]) := by
    decide
  have seen := (seen_of_values_held _ bounded).2.2.1 _ othersBounded same
  exact ⟨bounded, othersBounded, same, seen.2⟩

end AverageStep
end ScoreSheet
