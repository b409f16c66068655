import ScoreSheet.Sink

/-!
What a sink keeps of the bytes it is offered: the first ones, as many as there is
room for.  The size of its chunks and its interruptions decide only in how many
calls this happens, and twice as many calls as bytes are enough for a writing that
succeeds.
-/

namespace ScoreSheet
namespace Sink

/-- How many further bytes a sink holds. It is absent without a limit. -/
def room (sink : Sink) : Option Nat :=
  sink.limit.map fun limit => limit - sink.written.size

def HasRoom (sink : Sink) (size : Nat) : Prop :=
  ∀ room ∈ sink.room, size ≤ room

instance (sink : Sink) (size : Nat) : Decidable (sink.HasRoom size) :=
  inferInstanceAs (Decidable (∀ room ∈ sink.room, size ≤ room))

def share (sink : Sink) (size : Nat) : Nat :=
  match sink.room with
  | none => size
  | some room => min room size

/-- The error of a writing that a full sink ends: its own, or the one for a call
that took nothing. -/
def fullError (sink : Sink) : WriteError :=
  match sink.fullReply with
  | .failed error => error
  | _ => .nothingTaken

theorem share_le (sink : Sink) (size : Nat) : sink.share size ≤ size := by
  unfold share
  split
  · exact Nat.le_refl size
  · exact Nat.min_le_right _ _

theorem share_eq_iff (sink : Sink) (size : Nat) : sink.share size = size ↔ sink.HasRoom size := by
  unfold share HasRoom
  cases sink.room with
  | none => simp
  | some room =>
      simp only [Option.mem_some_iff, forall_eq']
      omega

theorem hasRoom_zero (sink : Sink) : sink.HasRoom 0 :=
  fun room _ => Nat.zero_le room

theorem hasRoom_of_le {sink : Sink} {smaller larger : Nat} (le : smaller ≤ larger)
    (enough : sink.HasRoom larger) : sink.HasRoom smaller :=
  fun room member => Nat.le_trans le (enough room member)

theorem share_eq_min (sink : Sink) {smaller larger : Nat} (le : smaller ≤ larger) :
    sink.share smaller = min (sink.share larger) smaller := by
  unfold share
  cases sink.room with
  | none => exact (Nat.min_eq_right le).symm
  | some room =>
      simp only
      omega

theorem take_share_append_of_full (sink : Sink) {first : List UInt8} (second : List UInt8)
    (full : ¬ sink.HasRoom first.length) :
    (first ++ second).take (sink.share (first ++ second).length) =
      first.take (sink.share first.length) := by
  have firstShare := sink.share_eq_min (Nat.le_add_right first.length second.length)
  have firstLe := sink.share_le first.length
  rw [← share_eq_iff] at full
  have sameShare : sink.share (first.length + second.length) = sink.share first.length := by
    omega
  rw [List.length_append, sameShare, List.take_append_of_le_length firstLe]

theorem exists_room_of_not_hasRoom {sink : Sink} {size : Nat} (full : ¬ sink.HasRoom size) :
    ∃ room, sink.room = some room ∧ room < size := by
  unfold HasRoom at full
  cases found : sink.room with
  | none => simp [found] at full
  | some room =>
      refine ⟨room, rfl, ?_⟩
      simpa [found] using full

theorem exists_cut_of_not_hasRoom {sink : Sink} {first second : List UInt8} (more : List UInt8)
    (enough : sink.HasRoom first.length) (full : ¬ sink.HasRoom (first ++ second).length) :
    ∃ size, size < second.length ∧ sink.room = some (first.length + size) ∧
      (first ++ second ++ more).take (sink.share (first ++ second ++ more).length) =
        first ++ second.take size := by
  obtain ⟨room, found, less⟩ := exists_room_of_not_hasRoom full
  have atLeast : first.length ≤ room := enough room found
  have size : first.length + (room - first.length) = room := Nat.add_sub_cancel' atLeast
  have shared : sink.share (first ++ second).length = room := by
    unfold share
    rw [found]
    exact Nat.min_eq_left (Nat.le_of_lt less)
  refine ⟨room - first.length, ?_, by rw [found, size], ?_⟩
  · rw [List.length_append] at less
    omega
  · rw [sink.take_share_append_of_full more full, shared, List.take_append,
      List.take_of_length_le atLeast]

theorem fitting_eq_take (sink : Sink) (offered : List UInt8) :
    sink.fitting offered = offered.take (sink.share offered.length) := by
  unfold fitting share room
  cases sink.limit with
  | none => exact (List.take_length).symm
  | some limit =>
      simp only [Option.map_some, List.take_eq_take_iff]
      omega

/-! ### Added bytes -/

/-- `after` is `before` with those of some offered bytes added that there was
room for. It has the same limit and is as strict when full. -/
structure Adds (before : Sink) (offered : List UInt8) (after : Sink) : Prop where
  limit_eq : after.limit = before.limit
  whenFull_eq : after.whenFull = before.whenFull
  written_eq :
    after.written.toList =
      before.written.toList ++ offered.take (before.share offered.length)

namespace Adds

variable {before after : Sink} {offered : List UInt8}

theorem size_eq (adds : Adds before offered after) :
    after.written.size = before.written.size + before.share offered.length := by
  have lengths := congrArg List.length adds.written_eq
  have le := before.share_le offered.length
  simp only [List.length_append, Array.length_toList, List.length_take] at lengths
  omega

theorem room_eq (adds : Adds before offered after) :
    after.room = before.room.map (· - before.share offered.length) := by
  unfold room
  rw [adds.limit_eq, adds.size_eq]
  cases before.limit with
  | none => rfl
  | some limit => simp only [Option.map_some, Nat.sub_add_eq]

theorem share_eq (adds : Adds before offered after) (size : Nat) :
    after.share size =
      before.share (offered.length + size) - before.share offered.length := by
  have roomAfter := adds.room_eq
  unfold share at roomAfter ⊢
  rw [roomAfter]
  cases before.room with
  | none => simp only [Option.map_none, Nat.add_sub_cancel_left]
  | some room =>
      simp only [Option.map_some]
      omega

theorem hasRoom_iff (adds : Adds before offered after) (size : Nat) :
    after.HasRoom size ↔ size = 0 ∨ before.HasRoom (offered.length + size) := by
  unfold HasRoom
  rw [adds.room_eq]
  unfold share
  cases before.room with
  | none => simp
  | some room =>
      simp only [Option.map_some, Option.mem_some_iff, forall_eq']
      omega

theorem hasRoom_iff_of_hasRoom (adds : Adds before offered after)
    (enough : before.HasRoom offered.length) (size : Nat) :
    after.HasRoom size ↔ before.HasRoom (offered.length + size) := by
  rw [adds.hasRoom_iff]
  constructor
  · rintro (zero | both)
    · subst zero
      exact enough
    · exact both
  · exact Or.inr

theorem hasRoom_drop_iff {count : Nat} (le : count ≤ offered.length)
    (enough : before.HasRoom count) (adds : Adds before (offered.take count) after) :
    after.HasRoom (offered.drop count).length ↔ before.HasRoom offered.length := by
  have taken := List.length_take_of_le le
  rw [adds.hasRoom_iff_of_hasRoom (by rwa [taken]), ← List.length_append,
    List.take_append_drop]

theorem hasRoom_of_nil (adds : Adds before [] after) (size : Nat) :
    after.HasRoom size ↔ before.HasRoom size := by
  have room := adds.hasRoom_iff_of_hasRoom before.hasRoom_zero size
  rwa [List.length_nil, Nat.zero_add] at room

theorem share_of_nil (adds : Adds before [] after) (size : Nat) :
    after.share size = before.share size := by
  have none := before.share_le 0
  have later := adds.share_eq size
  rw [List.length_nil, Nat.zero_add] at later
  omega

theorem fullError_eq (adds : Adds before offered after) :
    after.fullError = before.fullError := by
  simp only [fullError, fullReply, adds.whenFull_eq]

theorem nil (sink : Sink) : Adds sink [] sink where
  limit_eq := rfl
  whenFull_eq := rfl
  written_eq := by simp

/-- Two writings add what one of both texts adds, whether or not the first of
them fits. -/
theorem trans {between : Sink} {first second : List UInt8} (adds : Adds before first between)
    (addsLater : Adds between second after) :
    Adds before (first ++ second) after where
  limit_eq := addsLater.limit_eq.trans adds.limit_eq
  whenFull_eq := addsLater.whenFull_eq.trans adds.whenFull_eq
  written_eq := by
    have firstShare := before.share_eq_min (Nat.le_add_right first.length second.length)
    have secondShare := adds.share_eq second.length
    rw [addsLater.written_eq, adds.written_eq, List.append_assoc, List.length_append,
      List.take_append]
    congr 2
    · rw [List.take_eq_take_iff]
      omega
    · rw [List.take_eq_take_iff]
      omega

theorem append_of_full {first : List UInt8} (second : List UInt8)
    (adds : Adds before first after) (full : ¬ before.HasRoom first.length) :
    Adds before (first ++ second) after where
  limit_eq := adds.limit_eq
  whenFull_eq := adds.whenFull_eq
  written_eq := by rw [adds.written_eq, before.take_share_append_of_full second full]

end Adds

/-! ### One call -/

theorem fullReply_cases (sink : Sink) :
    (sink.fullReply = .taken 0 ∧ sink.fullError = .nothingTaken) ∨
      ∃ error, sink.fullReply = .failed error ∧ sink.fullError = error := by
  unfold fullError fullReply
  cases sink.whenFull with
  | takesNothing => exact Or.inl ⟨rfl, rfl⟩
  | fails cause => exact Or.inr ⟨@WriteError.sinkFull cause, rfl, rfl⟩
  | disconnects => exact Or.inr ⟨.disconnected, rfl, rfl⟩

private theorem reach_eq_take (sink : Sink) (offered : List UInt8) (nonempty : offered ≠ []) :
    ∃ size, sink.reach offered = offered.take size ∧ 0 < size ∧ size ≤ offered.length := by
  have positive := List.length_pos_iff.mpr nonempty
  unfold reach
  cases sink.chunk with
  | none => exact ⟨offered.length, List.take_length.symm, positive, Nat.le_refl _⟩
  | some chunk =>
      have chunkPositive := chunk.property
      refine ⟨min chunk.val offered.length, ?_, by omega, by omega⟩
      rw [List.take_eq_take_iff]
      omega

private theorem accepted_eq_take (sink : Sink) (offered : List UInt8) (nonempty : offered ≠ []) :
    ∃ size, sink.fitting (sink.reach offered) = offered.take size ∧ size ≤ offered.length ∧
      sink.HasRoom size ∧ (size = 0 → sink.share offered.length = 0) := by
  obtain ⟨reached, reachEq, reachedPositive, reachedLe⟩ := reach_eq_take sink offered nonempty
  have reachedLength := List.length_take_of_le reachedLe
  have reachedShare := sink.share_eq_min reachedLe
  have shareLe := sink.share_le reached
  refine ⟨sink.share reached, ?_, by omega, ?_, by omega⟩
  · rw [fitting_eq_take, reachEq, reachedLength, List.take_take, Nat.min_eq_left shareLe]
  · have again := sink.share_eq_min shareLe
    rw [← share_eq_iff]
    omega

/-- What one call can do to nonempty bytes: it is interrupted, finds no room, or
takes at least one of them. -/
inductive Call (sink : Sink) (offered : List UInt8) : WriteReply → Sink → Prop where
  | interrupted (next : Sink) (before : sink.interrupts = true)
      (after : next.interrupts = false) (adds : Adds sink [] next) :
      Call sink offered .interrupted next
  | tookNothing (next : Sink) (before : sink.interrupts = false)
      (full : ¬ sink.HasRoom offered.length) (own : sink.fullError = .nothingTaken)
      (adds : Adds sink offered next) :
      Call sink offered (.taken 0) next
  | refused (error : WriteError) (next : Sink) (before : sink.interrupts = false)
      (full : ¬ sink.HasRoom offered.length) (own : sink.fullError = error)
      (adds : Adds sink offered next) :
      Call sink offered (.failed error) next
  | took (count : Nat) (next : Sink) (before : sink.interrupts = false)
      (le : count + 1 ≤ offered.length) (enough : sink.HasRoom (count + 1))
      (adds : Adds sink (offered.take (count + 1)) next) :
      Call sink offered (.taken (count + 1)) next

private theorem fullReply_call (sink next : Sink) (offered : List UInt8)
    (before : sink.interrupts = false) (full : ¬ sink.HasRoom offered.length)
    (adds : Adds sink offered next) : Call sink offered sink.fullReply next := by
  rcases sink.fullReply_cases with ⟨replyEq, own⟩ | ⟨error, replyEq, own⟩
  · rw [replyEq]
    exact .tookNothing next before full own adds
  · rw [replyEq]
    exact .refused error next before full own adds

theorem write_call (sink : Sink) (offered : List UInt8) (nonempty : offered ≠ []) :
    Call sink offered (sink.write offered).1 (sink.write offered).2 := by
  obtain ⟨size, acceptedEq, sizeLe, enough, emptyOnly⟩ := accepted_eq_take sink offered nonempty
  unfold write
  by_cases interrupted : sink.interrupts = true
  · rw [if_pos interrupted]
    exact .interrupted _ interrupted (not_interrupts_after_interruption sink interrupted)
      ⟨rfl, rfl, by simp⟩
  · have before := Bool.eq_false_iff.mpr interrupted
    rw [if_neg interrupted, acceptedEq]
    cases size with
    | zero =>
        have noShare := emptyOnly rfl
        have positive := List.length_pos_iff.mpr nonempty
        have full : ¬ sink.HasRoom offered.length := by
          rw [← share_eq_iff]
          omega
        apply fullReply_call sink _ offered before full
        exact ⟨rfl, rfl, by simp [noShare]⟩
    | succ count =>
        have acceptedLength := List.length_take_of_le sizeLe
        have some : (offered.take (count + 1)).isEmpty = false := by
          rw [List.isEmpty_eq_false_iff, ← List.length_pos_iff]
          omega
        have all := (sink.share_eq_iff (count + 1)).mpr enough
        simp only [some, Bool.false_eq_true, if_false, acceptedLength]
        refine .took count _ before sizeLe enough ⟨rfl, rfl, ?_⟩
        rw [acceptedLength, all, List.take_take, Nat.min_self]
        simp

theorem write_calls (sink : Sink) (offered : List UInt8) :
    (sink.write offered).2.calls = sink.calls + 1 := by
  unfold write
  simp only
  split
  · rfl
  · split <;> rfl

/-! ### Writing every byte -/

private theorem call_of_answer {sink next : Sink} {offered : List UInt8} {reply : WriteReply}
    (nonempty : ¬ offered.isEmpty = true) (answered : sink.write offered = (reply, next)) :
    Call sink offered reply next ∧ next.calls = sink.calls + 1 := by
  have call := write_call sink offered (by simpa using nonempty)
  have calls := write_calls sink offered
  rw [answered] at call calls
  exact ⟨call, calls⟩

theorem writeAll_adds (sink : Sink) (bytes : List UInt8) :
    Adds sink bytes (sink.writeAll bytes).2 := by
  fun_induction Sink.writeAll sink bytes with
  | case1 sink remaining empty =>
      rw [List.isEmpty_iff] at empty
      subst empty
      exact Adds.nil sink
  | case2 sink remaining nonempty next answered ih =>
      cases (call_of_answer nonempty answered).1 with
      | interrupted _ _ _ adds => exact adds.trans ih
  | case3 sink remaining nonempty error next answered =>
      cases (call_of_answer nonempty answered).1 with
      | refused _ _ _ _ _ adds => exact adds
  | case4 sink remaining nonempty next answered =>
      cases (call_of_answer nonempty answered).1 with
      | tookNothing _ _ _ _ adds => exact adds
  | case5 sink remaining nonempty count next answered ih =>
      cases (call_of_answer nonempty answered).1 with
      | took _ _ _ _ _ adds =>
          have both := adds.trans ih
          rwa [List.take_append_drop] at both

/-- A writing succeeds exactly if there is room for all its bytes, and otherwise
fails as the full sink does. -/
theorem writeAll_result (sink : Sink) (bytes : List UInt8) :
    (sink.writeAll bytes).1 =
      if sink.HasRoom bytes.length then .ok () else .error sink.fullError := by
  fun_induction Sink.writeAll sink bytes with
  | case1 sink remaining empty =>
      rw [List.isEmpty_iff] at empty
      subst empty
      exact (if_pos sink.hasRoom_zero).symm
  | case2 sink remaining nonempty next answered ih =>
      cases (call_of_answer nonempty answered).1 with
      | interrupted _ _ _ adds =>
          simp only [ih, adds.hasRoom_of_nil, adds.fullError_eq]
  | case3 sink remaining nonempty error next answered =>
      cases (call_of_answer nonempty answered).1 with
      | refused _ _ _ full own _ => rw [if_neg full, own]
  | case4 sink remaining nonempty next answered =>
      cases (call_of_answer nonempty answered).1 with
      | tookNothing _ _ full own _ => rw [if_neg full, own]
  | case5 sink remaining nonempty count next answered ih =>
      cases (call_of_answer nonempty answered).1 with
      | took _ _ _ le enough adds =>
          simp only [ih, adds.hasRoom_drop_iff le enough, adds.fullError_eq]

theorem writeAll_ok {sink next : Sink} {bytes : List UInt8}
    (written : sink.writeAll bytes = (.ok (), next)) :
    sink.HasRoom bytes.length ∧ Adds sink bytes next := by
  have result := sink.writeAll_result bytes
  have adds := sink.writeAll_adds bytes
  rw [written] at result adds
  refine ⟨?_, adds⟩
  by_cases enough : sink.HasRoom bytes.length
  · exact enough
  · rw [if_neg enough] at result
    cases result

theorem writeAll_error {sink next : Sink} {bytes : List UInt8} {error : WriteError}
    (failed : sink.writeAll bytes = (.error error, next)) :
    ¬ sink.HasRoom bytes.length ∧ error = sink.fullError ∧ Adds sink bytes next := by
  have result := sink.writeAll_result bytes
  have adds := sink.writeAll_adds bytes
  rw [failed] at result adds
  by_cases enough : sink.HasRoom bytes.length
  · rw [if_pos enough] at result
    cases result
  · rw [if_neg enough] at result
    exact ⟨enough, Except.error.inj result, adds⟩

/-- At most every other call is interrupted, so that a writing ends: it makes at
most two calls for each byte it adds, and two more to find the sink full. -/
theorem writeAll_calls_le (sink : Sink) (bytes : List UInt8) :
    (sink.writeAll bytes).2.calls ≤
      sink.calls + 2 * sink.share bytes.length + if sink.HasRoom bytes.length then 0 else 2 := by
  -- An uninterrupted call saves one, which pays for the interruption before it.
  suffices saved : (sink.writeAll bytes).2.calls +
      (if sink.interrupts = true ∨ bytes = [] then 0 else 1) ≤
        sink.calls + 2 * sink.share bytes.length +
          if sink.HasRoom bytes.length then 0 else 2 by
    omega
  fun_induction Sink.writeAll sink bytes with
  | case1 sink remaining empty =>
      rw [List.isEmpty_iff] at empty
      subst empty
      simp only [or_true, if_true]
      omega
  | case2 sink remaining nonempty next answered ih =>
      obtain ⟨call, calls⟩ := call_of_answer nonempty answered
      cases call with
      | interrupted _ before after adds =>
          rw [List.isEmpty_iff] at nonempty
          rw [adds.share_of_nil] at ih
          simp only [before, after, nonempty, calls, adds.hasRoom_of_nil, Bool.false_eq_true,
            or_self, true_or, if_true, if_false] at ih ⊢
          omega
  | case3 sink remaining nonempty error next answered =>
      obtain ⟨call, calls⟩ := call_of_answer nonempty answered
      cases call with
      | refused _ _ _ full _ _ =>
          simp only [calls, if_neg full]
          split <;> omega
  | case4 sink remaining nonempty next answered =>
      obtain ⟨call, calls⟩ := call_of_answer nonempty answered
      cases call with
      | tookNothing _ _ full _ _ =>
          simp only [calls, if_neg full]
          split <;> omega
  | case5 sink remaining nonempty count next answered ih =>
      obtain ⟨call, calls⟩ := call_of_answer nonempty answered
      cases call with
      | took _ _ before le enough adds =>
          have share := adds.share_eq (remaining.drop (count + 1)).length
          have taken := (sink.share_eq_iff (count + 1)).mpr enough
          have monotone := sink.share_eq_min le
          rw [← List.length_append, List.take_append_drop, List.length_take_of_le le] at share
          have later := Nat.le_trans (Nat.le_add_right _ _) ih
          rw [calls, share] at later
          simp only [adds.hasRoom_drop_iff le enough] at later
          split <;> omega

end Sink
end ScoreSheet
