import ScoreSheet.Proofs.Report.Cut

/-!
Several parts on one sink.  Whether or not a part fails, the sink holds the first
bytes of all texts together, as many as there is room for; a failed part leaves no
room behind it, so that nothing is added after the first failure.
-/

namespace ScoreSheet

/-- What each of several outcomes on one sink added, if it held `size` bytes
before them. -/
def Outcome.additions (size : Nat) : List Outcome → List (List UInt8)
  | [] => []
  | outcome :: rest =>
      outcome.sink.written.toList.drop size :: additions outcome.sink.written.size rest

namespace Part

def allBytes (parts : List Part) : List UInt8 :=
  parts.flatMap bytes

def keptBytes (sink : Sink) (parts : List Part) : List UInt8 :=
  (allBytes parts).take (sink.share (allBytes parts).length)

def sinkAfter (sink : Sink) : List Part → Sink
  | [] => sink
  | part :: rest => sinkAfter (part.write sink).sink rest

theorem allBytes_take_succ {parts : List Part} {k : Nat} {part : Part}
    (called : parts[k]? = some part) :
    allBytes (parts.take (k + 1)) = allBytes (parts.take k) ++ part.bytes := by
  rw [List.take_add_one, called]
  simp only [allBytes, Option.toList_some, List.flatMap_append, List.flatMap_singleton]

theorem allBytes_take_of_le (parts : List Part) {j k : Nat} (le : j ≤ k) :
    ∃ more, allBytes (parts.take k) = allBytes (parts.take j) ++ more := by
  have first : parts.take j = (parts.take k).take j := by
    rw [List.take_take, Nat.min_eq_left le]
  refine ⟨allBytes ((parts.take k).drop j), ?_⟩
  unfold allBytes
  rw [first, ← List.flatMap_append, List.take_append_drop]

theorem hasRoom_take_of_le {sink : Sink} {parts : List Part} {j k : Nat} (le : j ≤ k)
    (enough : sink.HasRoom (allBytes (parts.take k)).length) :
    sink.HasRoom (allBytes (parts.take j)).length := by
  obtain ⟨more, whole⟩ := allBytes_take_of_le parts le
  rw [whole, List.length_append] at enough
  exact Sink.hasRoom_of_le (Nat.le_add_right _ _) enough

theorem keptBytes_of_hasRoom {sink : Sink} {parts : List Part}
    (enough : sink.HasRoom (allBytes parts).length) : keptBytes sink parts = allBytes parts := by
  rw [keptBytes, (sink.share_eq_iff _).mpr enough, List.take_length]

theorem keptBytes_length (sink : Sink) (parts : List Part) :
    (keptBytes sink parts).length = sink.share (allBytes parts).length := by
  rw [keptBytes, List.length_take_of_le (sink.share_le _)]

theorem keptBytes_of_full (sink : Sink) (parts : List Part) {j k : Nat} (le : j ≤ k)
    (full : ¬ sink.HasRoom (allBytes (parts.take j)).length) :
    keptBytes sink (parts.take k) = keptBytes sink (parts.take j) := by
  obtain ⟨more, whole⟩ := allBytes_take_of_le parts le
  unfold keptBytes
  rw [whole, sink.take_share_append_of_full more full]

theorem sinkAfter_adds (sink : Sink) (parts : List Part) :
    Sink.Adds sink (allBytes parts) (sinkAfter sink parts) := by
  induction parts generalizing sink with
  | nil => exact Sink.Adds.nil sink
  | cons part rest ih =>
      exact (part.write_adds sink).trans (ih (part.write sink).sink)

theorem writeEach_length (sink : Sink) (parts : List Part) :
    (writeEach sink parts).length = parts.length := by
  induction parts generalizing sink with
  | nil => rfl
  | cons part rest ih =>
      rw [writeEach, List.length_cons, List.length_cons, ih]

section

variable (sink : Sink) {parts : List Part} {k : Nat} {part : Part}

theorem writeEach_getElem? (called : parts[k]? = some part) :
    (writeEach sink parts)[k]? = some (part.write (sinkAfter sink (parts.take k))) := by
  induction parts generalizing sink k with
  | nil => cases called
  | cons first rest ih =>
      cases k with
      | zero =>
          cases called
          rfl
      | succ k =>
          rw [List.getElem?_cons_succ] at called
          exact ih (first.write sink).sink called

theorem write_adds_after (called : parts[k]? = some part) :
    Sink.Adds sink (allBytes (parts.take (k + 1)))
      (part.write (sinkAfter sink (parts.take k))).sink := by
  rw [allBytes_take_succ called]
  exact (sinkAfter_adds sink (parts.take k)).trans (part.write_adds _)

theorem write_after_ok_iff (called : parts[k]? = some part) :
    (part.write (sinkAfter sink (parts.take k))).result = .ok () ↔
      part.bytes = [] ∨ sink.HasRoom (allBytes (parts.take (k + 1))).length := by
  rw [write_ok_iff, (sinkAfter_adds sink (parts.take k)).hasRoom_iff, List.length_eq_zero_iff,
    allBytes_take_succ called, List.length_append]

theorem write_after_error {error : ReportError} (called : parts[k]? = some part)
    (failed : (part.write (sinkAfter sink (parts.take k))).result = .error error) :
    part.bytes ≠ [] ∧ ¬ sink.HasRoom (allBytes (parts.take (k + 1))).length ∧
      error = .write sink.fullError := by
  have notOk : ¬ (part.write (sinkAfter sink (parts.take k))).result = .ok () := by
    rw [failed]
    intro impossible
    cases impossible
  rw [write_after_ok_iff sink called, not_or] at notOk
  refine ⟨notOk.1, notOk.2, ?_⟩
  rw [(write_error failed).2, (sinkAfter_adds sink (parts.take k)).fullError_eq]

theorem write_after_error_iff (called : parts[k]? = some part) :
    (∃ error, (part.write (sinkAfter sink (parts.take k))).result = .error error) ↔
      part.bytes ≠ [] ∧ ¬ sink.HasRoom (allBytes (parts.take (k + 1))).length := by
  constructor
  · rintro ⟨error, failed⟩
    have cause := write_after_error sink called failed
    exact ⟨cause.1, cause.2.1⟩
  · rintro ⟨nonempty, full⟩
    cases result : (part.write (sinkAfter sink (parts.take k))).result with
    | ok =>
        rcases (write_after_ok_iff sink called).mp result with empty | enough
        · exact absurd empty nonempty
        · exact absurd enough full
    | error error => exact ⟨error, rfl⟩

theorem write_after_written (called : parts[k]? = some part) :
    (part.write (sinkAfter sink (parts.take k))).sink.written.toList =
      sink.written.toList ++ keptBytes sink (parts.take (k + 1)) :=
  (write_adds_after sink called).written_eq

private theorem additions_getElem?_drop (called : parts[k]? = some part) :
    (Outcome.additions sink.written.size (writeEach sink parts))[k]? =
      some ((part.write (sinkAfter sink (parts.take k))).sink.written.toList.drop
        (sinkAfter sink (parts.take k)).written.size) := by
  induction parts generalizing sink k with
  | nil => cases called
  | cons first rest ih =>
      cases k with
      | zero =>
          cases called
          rfl
      | succ k =>
          rw [List.getElem?_cons_succ] at called
          exact ih (first.write sink).sink called

theorem additions_getElem? (called : parts[k]? = some part) :
    (Outcome.additions sink.written.size (writeEach sink parts))[k]? =
      some ((keptBytes sink (parts.take (k + 1))).drop
        (keptBytes sink (parts.take k)).length) := by
  have sizeBefore := (sinkAfter_adds sink (parts.take k)).size_eq
  rw [additions_getElem?_drop sink called, write_after_written sink called, sizeBefore,
    keptBytes_length, ← Array.length_toList, List.drop_length_add_append]

/-- After a call that there was no room for, another one changes nothing, and
fails in the same way if it has something to write. -/
theorem write_after_full {j : Nat} {later : Part} (before : k < j)
    (called : parts[k]? = some part) (calledLater : parts[j]? = some later)
    (full : ¬ sink.HasRoom (allBytes (parts.take (k + 1))).length) :
    (later.write (sinkAfter sink (parts.take j))).sink.written =
        (part.write (sinkAfter sink (parts.take k))).sink.written ∧
      (later.bytes ≠ [] →
        (later.write (sinkAfter sink (parts.take j))).result = .error (.write sink.fullError)) := by
  have le : k + 1 ≤ j + 1 := by omega
  constructor
  · apply Array.toList_inj.mp
    rw [write_after_written sink called, write_after_written sink calledLater,
      keptBytes_of_full sink parts le full]
  · intro nonempty
    cases result : (later.write (sinkAfter sink (parts.take j))).result with
    | ok =>
        rcases (write_after_ok_iff sink calledLater).mp result with empty | enough
        · exact absurd empty nonempty
        · exact absurd (hasRoom_take_of_le le enough) full
    | error error => rw [(write_after_error sink calledLater result).2.2]

end

/-- Parts on one sink share its room. After each call the sink holds the first
bytes of the texts up to it, the call added its own slice of them, and it failed
exactly if it had something to write and the texts up to it exceed the room. After
the first failure nothing changes what the sink holds. -/
theorem writeEach_shares_room (sink : Sink) (parts : List Part) :
    (writeEach sink parts).length = parts.length ∧
      ∀ k part, parts[k]? = some part → ∃ outcome,
        (writeEach sink parts)[k]? = some outcome ∧
          outcome.sink.written.toList =
            sink.written.toList ++ keptBytes sink (parts.take (k + 1)) ∧
          (Outcome.additions sink.written.size (writeEach sink parts))[k]? =
            some ((keptBytes sink (parts.take (k + 1))).drop
              (keptBytes sink (parts.take k)).length) ∧
          ((∃ error, outcome.result = .error error) ↔
            part.bytes ≠ [] ∧ ¬ sink.HasRoom (allBytes (parts.take (k + 1))).length) ∧
          ∀ error, outcome.result = .error error →
            ∀ j later, k < j → parts[j]? = some later → ∃ laterOutcome,
              (writeEach sink parts)[j]? = some laterOutcome ∧
                laterOutcome.sink.written = outcome.sink.written ∧
                (Outcome.additions sink.written.size (writeEach sink parts))[j]? = some [] ∧
                (later.bytes ≠ [] → laterOutcome.result = .error error) ∧
                (later = .scores [] → laterOutcome.result = .ok ()) := by
  refine ⟨writeEach_length sink parts, ?_⟩
  intro k part called
  refine ⟨_, writeEach_getElem? sink called, write_after_written sink called,
    additions_getElem? sink called, write_after_error_iff sink called, ?_⟩
  intro error failed j later before calledLater
  obtain ⟨nonempty, full, own⟩ := write_after_error sink called failed
  have after := write_after_full sink before called calledLater full
  refine ⟨_, writeEach_getElem? sink calledLater, after.1, ?_, ?_, ?_⟩
  · rw [additions_getElem? sink calledLater,
      keptBytes_of_full sink parts (by omega : k + 1 ≤ j + 1) full,
      ← keptBytes_of_full sink parts (by omega : k + 1 ≤ j) full, List.drop_length]
  · intro laterNonempty
    rw [own]
    exact after.2 laterNonempty
  · intro noScores
    subst noScores
    exact (write_after_ok_iff sink calledLater).mpr (Or.inl rfl)

theorem writeEach_shares_room_of_short_sink :
    (Outcome.additions 0 (writeEach { limit := some 8 }
        [.name Sample.fixed, .scores [], .name Sample.fixed]))[0]? =
          some (bytesOf "Name: Os") ∧
      (Outcome.additions 0 (writeEach { limit := some 8 }
        [.name Sample.fixed, .scores [], .name Sample.fixed]))[2]? = some [] := by
  obtain ⟨outcome, _, _, added, failed, later⟩ := (writeEach_shares_room { limit := some 8 }
    [.name Sample.fixed, .scores [], .name Sample.fixed]).2 0 (.name Sample.fixed) rfl
  have firstBytes : allBytes [.name Sample.fixed] = bytesOf "Name: Osama\n" := by
    rw [allBytes, List.flatMap_singleton, bytes_name_fixed]
  constructor
  · refine added.trans ?_
    change some ((keptBytes _ [.name Sample.fixed]).drop 0) = _
    rw [keptBytes, firstBytes]
    decide
  · have fails := failed.mpr (by
      change _ ∧ ¬ Sink.HasRoom _ (allBytes [.name Sample.fixed]).length
      rw [bytes_name_fixed, firstBytes]
      decide)
    obtain ⟨error, fails⟩ := fails
    obtain ⟨_, _, _, nothing, _⟩ := later error fails 2 (.name Sample.fixed) (by decide) rfl
    exact nothing

end Part
end ScoreSheet
