import Mathlib.Logic.Basic
import ScoreSheet.Proofs.Average.Exact
import ScoreSheet.Proofs.Sink.Capacity
import ScoreSheet.Report

/-!
Reports on a sink without enough room.  A part that is cut leaves the first bytes
of the text that it leaves on a sink that takes everything, and the cut may fall
inside, before or after any piece of it.
-/

namespace ScoreSheet

def bytesOf (text : String) : List UInt8 :=
  text.toUTF8.data.toList

theorem bytesOf_append (first second : String) :
    bytesOf (first ++ second) = bytesOf first ++ bytesOf second := by
  simp [bytesOf]

theorem bytesOf_inj {text other : String} : bytesOf text = bytesOf other ↔ text = other := by
  constructor
  · intro same
    exact String.toByteArray_inj.mp (ByteArray.ext (Array.toList_inj.mp same))
  · exact congrArg bytesOf

namespace Action

def ending : List Action → Except ReportError Unit
  | [] => .ok ()
  | .write _ :: rest => ending rest
  | .announce _ :: rest => ending rest
  | .fail error :: _ => .error (.average error)

theorem ending_append (first second : List Action) (finished : ending first = .ok ()) :
    ending (first ++ second) = ending second := by
  fun_induction ending first with
  | case1 => rfl
  | case2 piece rest ih => exact ih finished
  | case3 event rest ih => exact ih finished
  | case4 error rest => cases finished

theorem text_append (first second : List Action) (finished : ending first = .ok ()) :
    text (first ++ second) = text first ++ text second := by
  fun_induction ending first with
  | case1 => exact (String.empty_append).symm
  | case2 piece rest ih =>
      simp only [List.cons_append, text]
      rw [ih finished, String.append_assoc]
  | case3 event rest ih => exact ih finished
  | case4 error rest => cases finished

theorem ending_line (pieces : List String) : ending (line pieces) = .ok () := by
  unfold line
  induction pieces with
  | nil => rfl
  | cons piece rest ih => exact ih

/-! ### Performing actions -/

theorem perform_adds (sink : Sink) (actions : List Action) :
    Sink.Adds sink (bytesOf (text actions)) (perform sink actions).sink := by
  fun_induction perform sink actions with
  | case1 sink => exact Sink.Adds.nil sink
  | case2 sink piece rest next written ih =>
      have adds := (Sink.writeAll_ok written).2
      rw [text, bytesOf_append]
      exact adds.trans ih
  | case3 sink piece rest error next failed =>
      obtain ⟨full, _, adds⟩ := Sink.writeAll_error failed
      rw [text, bytesOf_append]
      exact adds.append_of_full _ full
  | case4 sink event rest outcome ih => exact ih
  | case5 sink error rest => exact Sink.Adds.nil sink

theorem not_hasRoom_text {sink : Sink} {piece : String} (rest : List Action)
    (full : ¬ sink.HasRoom (bytesOf piece).length) :
    ¬ sink.HasRoom (bytesOf (text (.write piece :: rest))).length := by
  intro enough
  apply full
  apply Sink.hasRoom_of_le _ enough
  rw [text, bytesOf_append, List.length_append]
  exact Nat.le_add_right _ _

/-- Actions on a sink end as on one that takes everything, unless there is no room
for their text. -/
theorem perform_result (sink : Sink) (actions : List Action) :
    (perform sink actions).result =
      if sink.HasRoom (bytesOf (text actions)).length then ending actions
      else .error (.write sink.fullError) := by
  fun_induction perform sink actions with
  | case1 sink => exact (if_pos sink.hasRoom_zero).symm
  | case2 sink piece rest next written ih =>
      change sink.writeAll (bytesOf piece) = (.ok (), next) at written
      obtain ⟨enough, adds⟩ := Sink.writeAll_ok written
      have room := adds.hasRoom_iff_of_hasRoom enough (bytesOf (text rest)).length
      rw [← List.length_append, ← bytesOf_append] at room
      rw [ih, adds.fullError_eq]
      exact if_congr room rfl rfl
  | case3 sink piece rest error next failed =>
      change sink.writeAll (bytesOf piece) = (.error error, next) at failed
      obtain ⟨full, own, _⟩ := Sink.writeAll_error failed
      rw [if_neg (not_hasRoom_text rest full), own]
  | case4 sink event rest outcome ih => exact ih
  | case5 sink error rest => exact (if_pos sink.hasRoom_zero).symm

theorem perform_calls_le (sink : Sink) (actions : List Action) :
    (perform sink actions).sink.calls ≤
      sink.calls + 2 * sink.share (bytesOf (text actions)).length +
        if sink.HasRoom (bytesOf (text actions)).length then 0 else 2 := by
  fun_induction perform sink actions with
  | case1 sink =>
      simp only
      omega
  | case2 sink piece rest next written ih =>
      change sink.writeAll (bytesOf piece) = (.ok (), next) at written
      obtain ⟨enough, adds⟩ := Sink.writeAll_ok written
      have calls := sink.writeAll_calls_le (bytesOf piece)
      have room := adds.hasRoom_iff_of_hasRoom enough (bytesOf (text rest)).length
      have share := adds.share_eq (bytesOf (text rest)).length
      have monotone := sink.share_eq_min
        (Nat.le_add_right (bytesOf piece).length (bytesOf (text rest)).length)
      rw [if_pos enough, written] at calls
      rw [text, bytesOf_append, List.length_append]
      simp only [share, room] at calls ih
      omega
  | case3 sink piece rest error next failed =>
      change sink.writeAll (bytesOf piece) = (.error error, next) at failed
      have full := (Sink.writeAll_error failed).1
      have calls := sink.writeAll_calls_le (bytesOf piece)
      have monotone := sink.share_eq_min
        (Nat.le_add_right (bytesOf piece).length (bytesOf (text rest)).length)
      rw [if_neg full, failed] at calls
      rw [if_neg (not_hasRoom_text rest full), text, bytesOf_append, List.length_append]
      simp only at calls ⊢
      omega
  | case4 sink event rest outcome ih => exact ih
  | case5 sink error rest =>
      simp only
      omega

end Action

/-! ### Parts of a report -/

namespace Report

theorem length_scores (sample : Sample) : sample.scores.toList.length = 5 :=
  sample.scores.length_toList

theorem scores_ne_nil (sample : Sample) : sample.scores.toList ≠ [] :=
  List.ne_nil_of_length_eq_add_one (length_scores sample)

/-- The average that a whole report announces and shows. -/
def mean (sample : Sample) : Binary32 :=
  Binary32.ofInt (exactSum sample.scores.toList) / Binary32.ofInt 5

theorem average_eq (sample : Sample) :
    average sample =
      .announce (.averaging 5) :: .announce (.averaged (mean sample)) ::
        averageLine (mean sample) := by
  have five := length_scores sample
  have holds := Average.holds_ofList sample.scores.toList (by omega)
  have average := holds.average?_eq
  rw [if_neg (scores_ne_nil sample), five] at average
  simp only [Report.average, averageOf, average, holds.count_eq, five]
  rfl

def head (sample : Sample) : List Action :=
  name sample ++ scalars sample ++ condition sample ++ scores sample.scores.toList

theorem all_eq (sample : Sample) : all sample = head sample ++ average sample := rfl

theorem ending_scoresFrom (first : Nat) (values : List Int32) :
    Action.ending (scoresFrom first values) = .ok () := by
  induction values generalizing first with
  | nil => rfl
  | cons value rest ih =>
      have line : Action.ending (score first value) = .ok () := Action.ending_line _
      rw [scoresFrom, Action.ending_append _ _ line]
      exact ih (first + 1)

theorem ending_head (sample : Sample) : Action.ending (head sample) = .ok () := by
  have name : Action.ending (name sample) = .ok () := Action.ending_line _
  have scalars : Action.ending (scalars sample) = .ok () := Action.ending_line _
  have condition : Action.ending (condition sample) = .ok () := Action.ending_line _
  simp only [head, List.append_assoc]
  rw [Action.ending_append _ _ name, Action.ending_append _ _ scalars,
    Action.ending_append _ _ condition]
  exact ending_scoresFrom 1 _

theorem text_head (sample : Sample) :
    Action.text (head sample) =
      Action.text (name sample) ++ Action.text (scalars sample) ++
        Action.text (condition sample) ++ Action.text (scores sample.scores.toList) := by
  simp only [head, List.append_assoc, String.append_assoc]
  rw [Action.text_append (name sample) _ (Action.ending_line _),
    Action.text_append (scalars sample) _ (Action.ending_line _),
    Action.text_append (condition sample) _ (Action.ending_line _)]

theorem ending_average (sample : Sample) : Action.ending (average sample) = .ok () := by
  rw [average_eq]
  exact Action.ending_line _

end Report

namespace Part

theorem ending_actions (part : Part) : Action.ending part.actions = .ok () := by
  cases part with
  | all sample =>
      rw [actions, Report.all_eq, Action.ending_append _ _ (Report.ending_head sample)]
      exact Report.ending_average sample
  | name sample => exact Action.ending_line _
  | scalars sample => exact Action.ending_line _
  | condition sample => exact Action.ending_line _
  | scores values => exact Report.ending_scoresFrom 1 values

/-- The bytes that a part leaves on a sink that takes everything. -/
def bytes (part : Part) : List UInt8 :=
  (part.write Sink.unlimited).sink.written.toList

theorem bytes_eq (part : Part) : part.bytes = bytesOf part.text := by
  have adds := Action.perform_adds Sink.unlimited part.actions
  have all : Sink.unlimited.share (bytesOf (Action.text part.actions)).length =
      (bytesOf (Action.text part.actions)).length := rfl
  unfold bytes write text
  rw [adds.written_eq, all, List.take_length]
  rfl

theorem write_adds (part : Part) (sink : Sink) :
    Sink.Adds sink part.bytes (part.write sink).sink := by
  rw [bytes_eq]
  exact Action.perform_adds sink part.actions

theorem write_result (part : Part) (sink : Sink) :
    (part.write sink).result =
      if sink.HasRoom part.bytes.length then .ok () else .error (.write sink.fullError) := by
  have result := Action.perform_result sink part.actions
  rw [ending_actions] at result
  rw [bytes_eq]
  exact result

theorem write_ok_iff (part : Part) (sink : Sink) :
    (part.write sink).result = .ok () ↔ sink.HasRoom part.bytes.length := by
  rw [write_result]
  by_cases enough : sink.HasRoom part.bytes.length
  · rw [if_pos enough]
    exact ⟨fun _ => enough, fun _ => rfl⟩
  · rw [if_neg enough]
    constructor
    · intro impossible
      cases impossible
    · intro fits
      exact absurd fits enough

theorem write_error {part : Part} {sink : Sink} {error : ReportError}
    (failed : (part.write sink).result = .error error) :
    ¬ sink.HasRoom part.bytes.length ∧ error = .write sink.fullError := by
  rw [write_result] at failed
  by_cases enough : sink.HasRoom part.bytes.length
  · rw [if_pos enough] at failed
    cases failed
  · rw [if_neg enough] at failed
    exact ⟨enough, (Except.error.inj failed).symm⟩

/-- A part adds the first bytes of its text, as many as there is room for, and
succeeds exactly if they are all; otherwise it fails as the full sink does. It makes
at most two calls for each of them and two more, and neither the size of the chunks
nor the interruptions change what it adds or how it ends. -/
theorem write_adds_first_bytes (part : Part) (sink : Sink) :
    part.bytes = bytesOf part.text ∧
      (part.write sink).sink.written.toList =
        sink.written.toList ++ part.bytes.take (sink.share part.bytes.length) ∧
      (part.write sink).sink.calls ≤
        sink.calls + 2 * (sink.share part.bytes.length + 1) ∧
      ((part.write sink).result = .ok () ↔ sink.HasRoom part.bytes.length) ∧
      (∀ error, (part.write sink).result = .error error →
        (sink.fullReply = .taken 0 ∧ error = .write .nothingTaken ∧
            error.message = "failed to write whole buffer") ∨
          ∃ own, sink.fullReply = .failed own ∧ error = .write own) ∧
      (∀ chunk period calls,
        (part.write { sink with chunk, period, calls }).sink.written =
            (part.write sink).sink.written ∧
          (part.write { sink with chunk, period, calls }).result = (part.write sink).result) ∧
      sink.writeAll [] = (.ok (), sink) := by
  refine ⟨part.bytes_eq, (part.write_adds sink).written_eq, ?_, part.write_ok_iff sink, ?_, ?_,
    ?_⟩
  · have calls := Action.perform_calls_le sink part.actions
    rw [bytes_eq]
    change _ ≤ sink.calls + 2 * (sink.share (bytesOf (Action.text part.actions)).length + 1)
    change (part.write sink).sink.calls ≤ _ at calls
    split at calls <;> omega
  · intro error failed
    have own := (write_error failed).2
    subst own
    rcases sink.fullReply_cases with ⟨reply, own⟩ | ⟨own, reply, same⟩
    · left
      rw [own]
      exact ⟨reply, rfl, rfl⟩
    · right
      rw [same]
      exact ⟨own, reply, rfl⟩
  · intro chunk period calls
    have adds := part.write_adds sink
    have addsOther := part.write_adds { sink with chunk, period, calls }
    constructor
    · apply Array.toList_inj.mp
      rw [adds.written_eq, addsOther.written_eq]
      rfl
    · rw [write_result, write_result]
      rfl
  · rw [Sink.writeAll]
    rfl

theorem bytes_name_fixed : (Part.name Sample.fixed).bytes = bytesOf "Name: Osama\n" := by
  rw [bytes_eq]
  rfl

theorem write_adds_first_bytes_of_short_sink :
    ((Part.name Sample.fixed).write { limit := some 8 }).sink.written.toList =
        bytesOf "Name: Os" ∧
      ((Part.name Sample.fixed).write { limit := some 8 }).result =
        .error (.write .nothingTaken) := by
  obtain ⟨_, written, _, ok, failed, _⟩ :=
    write_adds_first_bytes (.name Sample.fixed) { limit := some 8 }
  rw [bytes_name_fixed] at written ok
  refine ⟨written.trans (by decide), ?_⟩
  cases result : ((Part.name Sample.fixed).write { limit := some 8 }).result with
  | ok => exact absurd (ok.mp result) (by decide)
  | error error =>
      rcases failed error result with ⟨_, own, _⟩ | ⟨own, reply, _⟩
      · rw [own]
      · cases reply

end Part
end ScoreSheet
