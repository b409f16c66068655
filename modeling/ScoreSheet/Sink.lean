/-!
A byte sink of limited capacity.  One call of `write` takes some of the bytes
offered to it; `writeAll` repeats the call until every byte is taken or the sink
gives out.

A sink may take only a few bytes per call and may ask for every n-th call to be
made again.  Neither ends a writing: a call that is not interrupted takes at
least one byte unless the sink is full, and after an interrupted call the next
one is not interrupted.
-/

namespace ScoreSheet

inductive WhenFull where
  | takesNothing
  | fails (cause : String := "sink is full")
  | disconnects
deriving DecidableEq, Repr

/-- Why a writing ended. The cause that a full sink told is part of the error, though not of
its kind. -/
inductive WriteError where
  | nothingTaken
  | sinkFull {cause : String}
  | disconnected
deriving DecidableEq, Repr

def WriteError.message : WriteError → String
  | .nothingTaken => "failed to write whole buffer"
  | @sinkFull cause => cause
  | .disconnected => "broken pipe"

/-- A sink and what it holds. An absent `limit`, `chunk` or `period` means
unlimited capacity, unlimited calls and no interruptions. -/
structure Sink where
  limit : Option Nat := none
  whenFull : WhenFull := .takesNothing
  chunk : Option { size : Nat // 0 < size } := none
  period : Option { calls : Nat // 2 ≤ calls } := none
  calls : Nat := 0
  written : Array UInt8 := #[]
deriving DecidableEq, Repr

inductive WriteReply where
  | taken (count : Nat)
  | interrupted
  | failed (error : WriteError)
deriving DecidableEq, Repr

namespace Sink

def unlimited : Sink := {}

def reach (sink : Sink) (offered : List UInt8) : List UInt8 :=
  match sink.chunk with
  | none => offered
  | some chunk => offered.take chunk.val

def fitting (sink : Sink) (offered : List UInt8) : List UInt8 :=
  match sink.limit with
  | none => offered
  | some limit => offered.take (limit - sink.written.size)

def interrupts (sink : Sink) : Bool :=
  match sink.period with
  | none => false
  | some period => (sink.calls + 1) % period.val == 0

def fullReply (sink : Sink) : WriteReply :=
  match sink.whenFull with
  | .takesNothing => .taken 0
  | .fails cause => .failed (@WriteError.sinkFull cause)
  | .disconnects => .failed .disconnected

def write (sink : Sink) (offered : List UInt8) : WriteReply × Sink :=
  let calls := sink.calls + 1
  if sink.interrupts then (.interrupted, { sink with calls })
  else
    let accepted := sink.fitting (sink.reach offered)
    if accepted.isEmpty then (sink.fullReply, { sink with calls })
    else (.taken accepted.length, { sink with calls, written := sink.written ++ accepted })

theorem not_interrupts_after_interruption (sink : Sink) (interrupted : sink.interrupts = true) :
    ({ sink with calls := sink.calls + 1 } : Sink).interrupts = false := by
  cases hPeriod : sink.period with
  | none => simp [interrupts, hPeriod] at interrupted
  | some period =>
      have twoLe := period.property
      have divides : period.val ∣ sink.calls + 1 := by
        simpa [interrupts, hPeriod, Nat.dvd_iff_mod_eq_zero] using interrupted
      have notNext : ¬ period.val ∣ sink.calls + 1 + 1 := by
        intro next
        have dividesOne : period.val ∣ 1 := (Nat.dvd_add_right divides).mp next
        have := Nat.le_of_dvd (by omega) dividesOne
        omega
      simpa [interrupts, hPeriod, Nat.dvd_iff_mod_eq_zero] using notNext

private theorem write_interrupted {sink next : Sink} {offered : List UInt8}
    (reply : sink.write offered = (.interrupted, next)) :
    sink.interrupts = true ∧ next.interrupts = false := by
  unfold write at reply
  by_cases interrupted : sink.interrupts = true
  · simp only [interrupted, if_true, Prod.mk.injEq, true_and] at reply
    exact ⟨interrupted, reply ▸ not_interrupts_after_interruption sink interrupted⟩
  · simp only [interrupted, Bool.false_eq_true, if_false] at reply
    split at reply
    · unfold fullReply at reply
      split at reply <;> simp at reply
    · simp at reply

/-- Writes every byte, making each interrupted call again and going on after a
call that took only a part. The writing fails with the sink's own error, or if a
call takes nothing. -/
def writeAll (sink : Sink) (remaining : List UInt8) : Except WriteError Unit × Sink :=
  if remaining.isEmpty then (.ok (), sink)
  else
    match reply : sink.write remaining with
    | (.interrupted, next) => next.writeAll remaining
    | (.failed error, next) => (.error error, next)
    | (.taken 0, next) => (.error .nothingTaken, next)
    | (.taken (count + 1), next) => next.writeAll (remaining.drop (count + 1))
termination_by (remaining.length, if sink.interrupts then 1 else 0)
decreasing_by
  · have hInterrupts := write_interrupted reply
    rw [if_pos hInterrupts.1, hInterrupts.2]
    exact Prod.Lex.right _ (by decide)
  · rename_i nonempty
    apply Prod.Lex.left
    have positive : 0 < remaining.length := by
      simpa [List.length_pos_iff] using nonempty
    simp only [List.length_drop]
    omega

end Sink
end ScoreSheet
