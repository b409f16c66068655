import ScoreSheet.Proofs.Report.Sequence

/-!
What is announced while actions are performed.  Actions that do not all fit announce the first
of their events, and what stands behind other actions is announced only if there was room for
those.  A report takes its average after the last score and before its last line, so that the
length of what it writes before the average decides whether anything is announced.
-/

namespace ScoreSheet
namespace Action

def announced : List Action → List Event
  | [] => []
  | .announce event :: rest => event :: announced rest
  | .write _ :: rest => announced rest
  | .fail _ :: rest => announced rest

theorem announced_append (first second : List Action) :
    announced (first ++ second) = announced first ++ announced second := by
  induction first with
  | nil => rfl
  | cons action rest ih =>
      cases action with
      | write piece => exact ih
      | announce event => exact congrArg (event :: ·) ih
      | fail error => exact ih

theorem announced_line (pieces : List String) : announced (line pieces) = [] := by
  unfold line
  induction pieces with
  | nil => rfl
  | cons piece rest ih => exact ih

theorem perform_events_prefix (sink : Sink) (actions : List Action) :
    (perform sink actions).events <+: announced actions := by
  fun_induction perform sink actions with
  | case1 sink => exact List.prefix_refl []
  | case2 sink piece rest next written ih => exact ih
  | case3 sink piece rest error next failed => exact List.nil_prefix
  | case4 sink event rest outcome ih => exact (List.prefix_cons_inj event).mpr ih
  | case5 sink error rest => exact List.nil_prefix

theorem perform_events_of_silent (sink : Sink) {actions : List Action}
    (silent : announced actions = []) : (perform sink actions).events = [] := by
  have first := perform_events_prefix sink actions
  rw [silent] at first
  exact List.prefix_nil.mp first

theorem perform_append_events (sink : Sink) {first : List Action} (second : List Action)
    (finished : ending first = .ok ()) :
    (perform sink (first ++ second)).events =
      (perform sink first).events ++
        if sink.HasRoom (bytesOf (text first)).length then
          (perform (perform sink first).sink second).events
        else [] := by
  fun_induction perform sink first with
  | case1 sink => exact (if_pos sink.hasRoom_zero).symm
  | case2 sink piece rest next written ih =>
      obtain ⟨fits, adds⟩ := Sink.writeAll_ok written
      have room := adds.hasRoom_iff_of_hasRoom fits (bytesOf (text rest)).length
      rw [← List.length_append] at room
      rw [List.cons_append, perform, text, bytesOf_append]
      simp only [written]
      rw [ih finished]
      congr 1
      exact if_congr room rfl rfl
  | case3 sink piece rest error next failed =>
      have full := not_hasRoom_text rest (Sink.writeAll_error failed).1
      rw [List.cons_append, perform, if_neg full]
      simp only [failed]
      rfl
  | case4 sink event rest outcome ih => exact congrArg (event :: ·) (ih finished)
  | case5 sink error rest => cases finished

end Action

namespace Report

theorem announced_scoresFrom (first : Nat) (values : List Int32) :
    Action.announced (scoresFrom first values) = [] := by
  induction values generalizing first with
  | nil => rfl
  | cons value rest ih =>
      have line : Action.announced (score first value) = [] := Action.announced_line _
      rw [scoresFrom, Action.announced_append, line, ih (first + 1), List.nil_append]

theorem announced_head (sample : Sample) : Action.announced (head sample) = [] := by
  have name : Action.announced (name sample) = [] := Action.announced_line _
  have scalars : Action.announced (scalars sample) = [] := Action.announced_line _
  have condition : Action.announced (condition sample) = [] := Action.announced_line _
  have scores : Action.announced (scores sample.scores.toList) = [] := announced_scoresFrom 1 _
  simp only [head, Action.announced_append, name, scalars, condition, scores, List.append_nil]

end Report

namespace Part

def beforeAverage (sample : Sample) : List Part :=
  [.name sample, .scalars sample, .condition sample, .scores sample.scores.toList]

theorem bytesOf_text_head (sample : Sample) :
    bytesOf (Action.text (Report.head sample)) = allBytes (beforeAverage sample) := by
  simp only [Report.text_head, bytesOf_append, beforeAverage, allBytes, List.flatMap_cons,
    List.flatMap_nil, bytes_eq, List.append_nil, List.append_assoc]
  rfl

theorem length_beforeAverage_lt (sample : Sample) :
    (allBytes (beforeAverage sample)).length < (Part.all sample).bytes.length := by
  have line : Action.text (Report.average sample) =
      "Average Score: " ++ ((Report.mean sample).toHundredthsText ++ "\n") := by
    rw [Report.average_eq]
    rfl
  have some : 0 < (bytesOf "Average Score: ").length := by decide
  rw [bytes_eq, text, actions, Report.all_eq,
    Action.text_append _ _ (Report.ending_head sample), bytesOf_append, bytesOf_text_head, line,
    bytesOf_append, List.length_append, List.length_append]
  omega

/-- A report announces both of its events or none of them. -/
theorem write_all_events (sample : Sample) (sink : Sink) :
    ((Part.all sample).write sink).events =
      if sink.HasRoom (allBytes (beforeAverage sample)).length then
        [.averaging 5, .averaged (Report.mean sample)]
      else [] := by
  have line : Action.announced (Report.averageLine (Report.mean sample)) = [] :=
    Action.announced_line _
  have average : ∀ sink, (Action.perform sink (Report.average sample)).events =
      [.averaging 5, .averaged (Report.mean sample)] := by
    intro sink
    simp only [Report.average_eq, Action.perform, Action.perform_events_of_silent sink line]
  rw [write, actions, Report.all_eq,
    Action.perform_append_events sink _ (Report.ending_head sample), bytesOf_text_head, average,
    Action.perform_events_of_silent sink (Report.announced_head sample), List.nil_append]

theorem write_events_of_not_all {part : Part} (notAll : ∀ sample, part ≠ .all sample)
    (sink : Sink) : (part.write sink).events = [] := by
  apply Action.perform_events_of_silent
  cases part with
  | all sample => exact absurd rfl (notAll sample)
  | name sample => exact Action.announced_line _
  | scalars sample => exact Action.announced_line _
  | condition sample => exact Action.announced_line _
  | scores values => exact Report.announced_scoresFrom 1 values

end Part
end ScoreSheet
