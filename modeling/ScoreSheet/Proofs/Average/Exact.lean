import Mathlib.Algebra.Ring.Int.Defs
import Mathlib.Algebra.Ring.Nat
import ScoreSheet.Average

/-!
The words of a running average hold the exact sum and number of its values, as
long as there are at most `2 ^ 32` of them.  A 32-bit value lies between `-2 ^ 31`
and `2 ^ 31 - 1`, and so does the mean of any number of them; this two-sided bound
on the sum is what keeps every addition within 64 bits.
-/

namespace ScoreSheet

def exactSum : List Int32 → Int
  | [] => 0
  | value :: rest => value.toInt + exactSum rest

theorem exactSum_append (earlier later : List Int32) :
    exactSum (earlier ++ later) = exactSum earlier + exactSum later := by
  induction earlier with
  | nil => exact (Int.zero_add _).symm
  | cons value rest ih =>
      rw [List.cons_append, exactSum, exactSum, ih, Int.add_assoc]

theorem exactSum_singleton (value : Int32) : exactSum [value] = value.toInt :=
  Int.add_zero value.toInt

theorem exactSum_replicate (count : Nat) (value : Int32) :
    exactSum (List.replicate count value) = count * value.toInt := by
  induction count with
  | zero => exact (Int.zero_mul _).symm
  | succ count ih =>
      rw [List.replicate_succ, exactSum, ih, Int.natCast_add, Int.natCast_one, Int.add_mul,
        Int.one_mul, Int.add_comm]

theorem exactSum_perm {left right : List Int32} (same : left.Perm right) :
    exactSum left = exactSum right := by
  induction same with
  | nil => rfl
  | cons value _ ih => simp only [exactSum, ih]
  | swap first second rest =>
      simp only [exactSum]
      omega
  | trans _ _ ihFirst ihSecond => exact ihFirst.trans ihSecond

theorem exactSum_between {values : List Int32} {low high : Int}
    (within : ∀ value ∈ values, low ≤ value.toInt ∧ value.toInt ≤ high) :
    values.length * low ≤ exactSum values ∧ exactSum values ≤ values.length * high := by
  induction values with
  | nil => exact ⟨Int.le_of_eq (Int.zero_mul low), Int.le_of_eq (Int.zero_mul high).symm⟩
  | cons value rest ih =>
      have first := within value List.mem_cons_self
      have others := ih fun other member => within other (List.mem_cons_of_mem value member)
      rw [exactSum, List.length_cons, Int.natCast_add, Int.natCast_one, Int.add_mul, Int.add_mul,
        Int.one_mul, Int.one_mul]
      omega

theorem exactSum_bounds (values : List Int32) :
    -2 ^ 31 * (values.length : Int) ≤ exactSum values ∧
      exactSum values ≤ (2 ^ 31 - 1) * (values.length : Int) := by
  have within : ∀ value ∈ values, -2 ^ 31 ≤ value.toInt ∧ value.toInt ≤ 2 ^ 31 - 1 :=
    fun value _ => ⟨value.le_toInt, Int.le_sub_one_of_lt value.toInt_lt⟩
  have bounds := exactSum_between within
  omega

namespace Average

/-- A state holds some values if its words are their sum and their number. -/
structure Holds (state : Average) (values : List Int32) : Prop where
  sum_eq : state.sum.toInt = exactSum values
  count_eq : state.count.toNat = values.length

def Balanced (state : Average) : Prop :=
  -2 ^ 31 * (state.count.toNat : Int) ≤ state.sum.toInt ∧
    state.sum.toInt ≤ (2 ^ 31 - 1) * (state.count.toNat : Int)

def Admits (state : Average) (value : Int32) : Prop :=
  -2 ^ 63 ≤ state.sum.toInt + value.toInt ∧ state.sum.toInt + value.toInt < 2 ^ 63 ∧
    state.count.toNat + 1 < 2 ^ 64

theorem holds_empty : Holds empty [] := ⟨rfl, rfl⟩

section

variable {state : Average} {values : List Int32}

theorem Holds.balanced (holds : Holds state values) : state.Balanced := by
  unfold Balanced
  rw [holds.sum_eq, holds.count_eq]
  exact exactSum_bounds values

theorem Holds.admits (holds : Holds state values) (room : values.length < 2 ^ 32)
    (value : Int32) : state.Admits value := by
  have bounds := exactSum_bounds values
  have lower := value.le_toInt
  have upper := value.toInt_lt
  unfold Admits
  rw [holds.sum_eq, holds.count_eq]
  omega

theorem Holds.push (holds : Holds state values) (room : values.length < 2 ^ 32)
    (value : Int32) :
    Holds (state.push value) (values ++ [value]) := by
  obtain ⟨lower, upper, countFits⟩ := holds.admits room value
  constructor
  · rw [exactSum_append, exactSum_singleton, ← holds.sum_eq]
    change (state.sum + value.toInt64).toInt = _
    rw [Int64.toInt_add, Int32.toInt_toInt64]
    exact Int.bmod_eq_of_le (by omega) (by omega)
  · change (state.count + 1).toNat = _
    rw [UInt64.toNat_add, UInt64.toNat_one, Nat.mod_eq_of_lt countFits, holds.count_eq,
      List.length_append, List.length_singleton]

theorem Holds.extend (holds : Holds state values) (more : List Int32)
    (room : values.length + more.length ≤ 2 ^ 32) :
    Holds (state.extend more) (values ++ more) := by
  induction more generalizing state values with
  | nil => rwa [extend_nil, List.append_nil]
  | cons value rest ih =>
      rw [List.length_cons] at room
      have pushed := holds.push (by omega) value
      have result := ih pushed (by rw [List.length_append, List.length_singleton]; omega)
      rwa [List.append_assoc] at result

theorem holds_ofList (values : List Int32) (room : values.length ≤ 2 ^ 32) :
    Holds (ofList values) values :=
  holds_empty.extend values (by rwa [List.length_nil, Nat.zero_add])

/-- The count alone is right for any number of values, as a word of 64 bits. -/
theorem count_extend (state : Average) (values : List Int32) :
    (state.extend values).count = state.count + UInt64.ofNat values.length := by
  induction values generalizing state with
  | nil => exact (UInt64.add_zero state.count).symm
  | cons value rest ih =>
      rw [extend_cons, ih, List.length_cons, UInt64.ofNat_add, UInt64.add_comm (UInt64.ofNat _),
        ← UInt64.add_assoc]
      rfl

theorem Holds.eq_of_perm {left right : Average} {others : List Int32}
    (holds : Holds left values) (holdsOthers : Holds right others)
    (same : values.Perm others) : left = right := by
  have sums : left.sum = right.sum := by
    rw [← Int64.toInt_inj, holds.sum_eq, holdsOthers.sum_eq, exactSum_perm same]
  have counts : left.count = right.count := by
    rw [← UInt64.toNat_inj, holds.count_eq, holdsOthers.count_eq, same.length_eq]
  cases left
  cases right
  simp_all only

theorem Holds.average?_eq (holds : Holds state values) :
    state.average? =
      if values = [] then .error .emptySequence
      else .ok (Binary32.ofInt (exactSum values) / Binary32.ofInt values.length) := by
  have noneIff : state.count = 0 ↔ values = [] := by
    rw [← UInt64.toNat_inj, holds.count_eq, ← List.length_eq_zero_iff]
    rfl
  unfold average?
  simp only [noneIff, holds.sum_eq, holds.count_eq]

end

end Average
end ScoreSheet
