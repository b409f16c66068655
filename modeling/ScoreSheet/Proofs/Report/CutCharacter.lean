import ScoreSheet.Proofs.Report.LostTail
import ScoreSheet.Proofs.Report.Sequence
import ScoreSheet.Proofs.Text.Bytes

/-!
Parts on one sink whose limit falls inside a character.  Only the first part that fails is cut,
and what it leaves is no text exactly if the cut falls inside a character of more than one byte.
Such a character is one of the name or the character of the line of scalars, because all else
that a report shows takes one byte each.  Nothing goes on after a cut, so that whatever is added
begins with a character.
-/

namespace ScoreSheet

/-- A limit that falls inside a character, whose bytes begin at a position of what the sink
holds. -/
def Sink.EndsInside (sink : Sink) (position : Nat) (character : Char) : Prop :=
  ∃ limit, sink.limit = some limit ∧ position < limit ∧ limit < position + character.utf8Size

theorem Sink.endsInside_iff {sink : Sink} {first size width : Nat} {character : Char}
    (room : sink.room = some (first + size)) :
    sink.EndsInside (sink.written.size + first + width) character ↔
      width < size ∧ size < width + character.utf8Size := by
  obtain ⟨limit, found, left⟩ := Option.map_eq_some_iff.mp room
  unfold EndsInside
  simp only [found, Option.some.injEq, exists_eq_left']
  omega

/-- The outcome at a position is a failure, and none before it is. -/
def Outcome.FirstFailure (outcomes : List Outcome) (k : Nat) : Prop :=
  (∃ outcome error, outcomes[k]? = some outcome ∧ outcome.result = .error error) ∧
    ∀ j earlier, j < k → outcomes[j]? = some earlier → earlier.result = .ok ()

/-- Where the text of a part shows a character of its sample: one of the name, or the character
of the line of scalars. -/
inductive Part.FromSample : Part → String → Char → Prop where
  | name {sample : Sample} {start rest : String} {character : Char}
      (split : sample.name = start ++ character.toString ++ rest) :
      FromSample (.name sample) ("Name: " ++ start) character
  | nameOfAll {sample : Sample} {start rest : String} {character : Char}
      (split : sample.name = start ++ character.toString ++ rest) :
      FromSample (.all sample) ("Name: " ++ start) character
  | character (sample : Sample) : FromSample (.scalars sample) "Char: " sample.c
  | characterOfAll (sample : Sample) :
      FromSample (.all sample) ("Name: " ++ sample.name ++ "\nChar: ") sample.c

namespace Report

variable {sample : Sample} {before : String} {character : Char}

theorem isSingleByte_condition (sample : Sample) :
    IsSingleByte (Action.text (condition sample)) := by
  rw [condition, text_line_cons, text_line_nil]
  apply isSingleByte_append
  · split <;> decide
  · decide

theorem isSingleByte_scoreLines (first : Nat) (values : List Int32) :
    IsSingleByte (scoreLines first values) := by
  induction values generalizing first with
  | nil =>
      change IsSingleByte ""
      decide
  | cons value rest ih => exact isSingleByte_append (isSingleByte_scoreLine first value) (ih _)

theorem isSingleByte_scores (values : List Int32) :
    IsSingleByte (Action.text (scores values)) := by
  rw [scores, text_scoresFrom]
  exact isSingleByte_scoreLines 1 values

theorem isSingleByte_averageLine (average : Binary32) :
    IsSingleByte (Action.text (averageLine average)) := by
  simp only [averageLine, text_line_cons, text_line_nil]
  exact isSingleByte_append (by decide)
    (isSingleByte_append average.isNumberText_toHundredthsText.isSingleByte (by decide))

theorem wideAt_name (wide : WideAt (Action.text (name sample)) before character) :
    ∃ start rest, sample.name = start ++ character.toString ++ rest ∧
      before = "Name: " ++ start := by
  simp only [name, text_line_cons, text_line_nil] at wide
  obtain ⟨start, rfl, inLine⟩ := wide.of_isSingleByte_append (by decide)
  obtain ⟨_, rest, split⟩ := inLine.of_append_isSingleByte (by decide)
  exact ⟨start, rest, split, rfl⟩

theorem wideAt_scalars (wide : WideAt (Action.text (scalars sample)) before character) :
    before = "Char: " ∧ character = sample.c := by
  simp only [scalars, text_line_cons, text_line_nil] at wide
  obtain ⟨start, rfl, inLine⟩ := wide.of_isSingleByte_append (by decide)
  have float := sample.y.isNumberText_toHundredthsText.isSingleByte
  have integer := (isNumberText_intText sample.x.toInt).isSingleByte
  have numbers : IsSingleByte (", Float: " ++ (sample.y.toHundredthsText ++
      (", Int: " ++ (toString sample.x.toInt ++ "\n")))) :=
    isSingleByte_append (by decide) (isSingleByte_append float
      (isSingleByte_append (by decide) (isSingleByte_append integer (by decide))))
  obtain ⟨rfl, own⟩ := (inLine.of_append_isSingleByte numbers).of_toString
  exact ⟨String.append_empty, own⟩

end Report

theorem Part.fromSample_of_wideAt {part : Part} {before : String} {character : Char}
    (wide : WideAt part.text before character) : part.FromSample before character := by
  cases part with
  | all sample =>
      rw [text_all] at wide
      have beforeAverage := wide.of_append_isSingleByte (Report.isSingleByte_averageLine _)
      have beforeScores := beforeAverage.of_append_isSingleByte (Report.isSingleByte_scores _)
      have inFirstLines := beforeScores.of_append_isSingleByte (Report.isSingleByte_condition _)
      rcases inFirstLines.of_append with inName | ⟨start, rfl, inScalars⟩
      · obtain ⟨start, rest, split, rfl⟩ := Report.wideAt_name inName
        exact .nameOfAll split
      · obtain ⟨rfl, rfl⟩ := Report.wideAt_scalars inScalars
        have lines : Action.text (Report.name sample) ++ "Char: " =
            "Name: " ++ sample.name ++ "\nChar: " := by
          have lineBreak : "\n" ++ "Char: " = "\nChar: " := rfl
          simp only [Report.name, Report.text_line_cons, Report.text_line_nil,
            String.append_assoc, lineBreak]
        rw [lines]
        exact .characterOfAll sample
  | name sample =>
      obtain ⟨start, rest, split, rfl⟩ := Report.wideAt_name wide
      exact .name split
  | scalars sample =>
      obtain ⟨rfl, rfl⟩ := Report.wideAt_scalars wide
      exact .character sample
  | condition sample => exact absurd (Report.isSingleByte_condition sample) wide.not_isSingleByte
  | scores values => exact absurd (Report.isSingleByte_scores values) wide.not_isSingleByte

/-! ### First failures -/

theorem Outcome.FirstFailure.unique {outcomes : List Outcome} {j k : Nat}
    (first : FirstFailure outcomes j) (other : FirstFailure outcomes k) : j = k := by
  obtain ⟨⟨outcome, error, found, failed⟩, before⟩ := first
  obtain ⟨⟨otherOutcome, otherError, otherFound, otherFailed⟩, otherBefore⟩ := other
  rcases Nat.lt_trichotomy j k with less | same | more
  · rw [otherBefore j outcome less found] at failed
    cases failed
  · exact same
  · rw [before k otherOutcome more otherFound] at otherFailed
    cases otherFailed

theorem Outcome.additions_length (size : Nat) (outcomes : List Outcome) :
    (additions size outcomes).length = outcomes.length := by
  induction outcomes generalizing size with
  | nil => rfl
  | cons outcome rest ih => rw [additions, List.length_cons, List.length_cons, ih]

namespace Part

section

variable (sink : Sink) {parts : List Part} {k : Nat} {part : Part}

theorem hasRoom_iff_all_ok (within : k ≤ parts.length) :
    sink.HasRoom (allBytes (parts.take k)).length ↔
      ∀ j earlier, j < k → (writeEach sink parts)[j]? = some earlier →
        earlier.result = .ok () := by
  constructor
  · intro enough j earlier less found
    have called := List.getElem?_eq_getElem (Nat.lt_of_lt_of_le less within)
    rw [writeEach_getElem? sink called] at found
    cases found
    exact (write_after_ok_iff sink called).mpr (Or.inr (hasRoom_take_of_le less enough))
  · intro ok
    induction k with
    | zero => exact sink.hasRoom_zero
    | succ k ih =>
        have called := List.getElem?_eq_getElem within
        have last := ok k _ (Nat.lt_succ_self k) (writeEach_getElem? sink called)
        rcases (write_after_ok_iff sink called).mp last with empty | enough
        · rw [allBytes_take_succ called, empty, List.append_nil]
          exact ih (Nat.le_of_succ_le within) fun j earlier less =>
            ok j earlier (Nat.lt_succ_of_lt less)
        · exact enough

theorem firstFailure_iff (called : parts[k]? = some part) :
    Outcome.FirstFailure (writeEach sink parts) k ↔
      sink.HasRoom (allBytes (parts.take k)).length ∧
        ¬ sink.HasRoom (allBytes (parts.take (k + 1))).length := by
  have within := (List.getElem?_eq_some_iff.mp called).1
  unfold Outcome.FirstFailure
  rw [← hasRoom_iff_all_ok sink within.le, and_comm, and_congr_right_iff]
  intro enough
  constructor
  · rintro ⟨outcome, error, found, failed⟩
    rw [writeEach_getElem? sink called] at found
    cases found
    exact (write_after_error sink called failed).2.1
  · intro full
    have nonempty : part.bytes ≠ [] := by
      intro empty
      rw [allBytes_take_succ called, empty, List.append_nil] at full
      exact full enough
    obtain ⟨error, failed⟩ := (write_after_error_iff sink called).mpr ⟨nonempty, full⟩
    exact ⟨_, error, writeEach_getElem? sink called, failed⟩

/-! ### What one call adds -/

theorem additions_length (sink : Sink) (parts : List Part) :
    (Outcome.additions sink.written.size (writeEach sink parts)).length = parts.length := by
  rw [Outcome.additions_length, writeEach_length]

theorem additions_of_hasRoom (called : parts[k]? = some part)
    (enough : sink.HasRoom (allBytes (parts.take (k + 1))).length) :
    (Outcome.additions sink.written.size (writeEach sink parts))[k]? =
      some (bytesOf part.text) := by
  rw [additions_getElem? sink called, keptBytes_of_hasRoom enough,
    keptBytes_of_hasRoom (hasRoom_take_of_le (Nat.le_succ k) enough), allBytes_take_succ called,
    List.drop_left, part.bytes_eq]

variable {added : List UInt8}

theorem added_cases (called : parts[k]? = some part)
    (adds : (Outcome.additions sink.written.size (writeEach sink parts))[k]? = some added) :
    ¬ sink.HasRoom (allBytes (parts.take k)).length ∧ added = [] ∨
      sink.HasRoom (allBytes (parts.take (k + 1))).length ∧ added = bytesOf part.text ∨
        sink.HasRoom (allBytes (parts.take k)).length ∧
          ¬ sink.HasRoom (allBytes (parts.take (k + 1))).length ∧
            ∃ size, sink.room = some ((allBytes (parts.take k)).length + size) ∧
              added = (bytesOf part.text).take size := by
  by_cases enough : sink.HasRoom (allBytes (parts.take k)).length
  · right
    by_cases all : sink.HasRoom (allBytes (parts.take (k + 1))).length
    · rw [additions_of_hasRoom sink called all] at adds
      cases adds
      exact Or.inl ⟨all, rfl⟩
    · have full := all
      rw [allBytes_take_succ called] at full
      obtain ⟨size, _, room, taken⟩ := Sink.exists_cut_of_not_hasRoom [] enough full
      rw [List.append_nil, ← allBytes_take_succ called] at taken
      rw [additions_getElem? sink called, keptBytes_of_hasRoom enough, keptBytes, taken,
        List.drop_left, part.bytes_eq] at adds
      cases adds
      exact Or.inr ⟨enough, all, size, room, rfl⟩
  · left
    rw [additions_getElem? sink called, keptBytes_of_full sink parts (Nat.le_succ k) enough,
      List.drop_length] at adds
    cases adds
    exact ⟨enough, rfl⟩

theorem added_isPrefix (called : parts[k]? = some part)
    (adds : (Outcome.additions sink.written.size (writeEach sink parts))[k]? = some added) :
    added <+: bytesOf part.text := by
  rcases added_cases sink called adds with ⟨_, rfl⟩ | ⟨_, rfl⟩ | ⟨_, _, size, _, rfl⟩
  · exact List.nil_prefix
  · exact List.prefix_rfl
  · exact List.take_prefix size _

theorem hasRoom_of_added (called : parts[k]? = some part)
    (adds : (Outcome.additions sink.written.size (writeEach sink parts))[k]? = some added)
    (nonempty : added ≠ []) : sink.HasRoom (allBytes (parts.take k)).length := by
  rcases added_cases sink called adds with ⟨_, empty⟩ | ⟨all, _⟩ | ⟨enough, _⟩
  · exact absurd empty nonempty
  · exact hasRoom_take_of_le (Nat.le_succ k) all
  · exact enough

theorem textOf?_added_eq_none_iff (called : parts[k]? = some part)
    (adds : (Outcome.additions sink.written.size (writeEach sink parts))[k]? = some added) :
    textOf? added = none ↔
      Outcome.FirstFailure (writeEach sink parts) k ∧
        ∃ before character, WideAt part.text before character ∧
          sink.EndsInside
            (sink.written.size + (allBytes (parts.take k)).length + before.utf8ByteSize)
            character := by
  have whole : ∀ text, textOf? (bytesOf text) ≠ none := by
    intro text
    rw [textOf?_bytesOf]
    exact Option.some_ne_none text
  rw [firstFailure_iff sink called]
  rcases added_cases sink called adds with
    ⟨full, rfl⟩ | ⟨all, rfl⟩ | ⟨enough, full, size, room, rfl⟩
  · exact iff_of_false (whole "") fun fails => full fails.1.1
  · exact iff_of_false (whole part.text) fun fails => fails.1.2 all
  · rw [textOf?_take_eq_none_iff, and_iff_right ⟨enough, full⟩]
    refine exists_congr fun before => exists_congr fun character => and_congr_right fun _ => ?_
    exact (Sink.endsInside_iff room).symm

theorem firstFailure_of_invalid
    (adds : (Outcome.additions sink.written.size (writeEach sink parts))[k]? = some added)
    (invalid : textOf? added = none) : Outcome.FirstFailure (writeEach sink parts) k := by
  have within := (List.getElem?_eq_some_iff.mp adds).1
  rw [additions_length] at within
  have called := List.getElem?_eq_getElem within
  exact ((textOf?_added_eq_none_iff sink called adds).mp invalid).1

end

/-- What a call adds is no text exactly if it is the first to fail and the limit falls inside a
character of its text that takes more than one byte. Such a character is one of the name or the
character of the line of scalars, so that the condition and the scores by themselves are never
cut like this, and of several calls on one sink at most one is. What a call adds begins with a
character, behind the whole texts of the calls before it. -/
theorem writeEach_cuts_one_character (sink : Sink) (parts : List Part) :
    (Outcome.additions sink.written.size (writeEach sink parts)).length = parts.length ∧
      (∀ k part added, parts[k]? = some part →
        (Outcome.additions sink.written.size (writeEach sink parts))[k]? = some added →
          (textOf? added = none ↔
            Outcome.FirstFailure (writeEach sink parts) k ∧
              ∃ before character, WideAt part.text before character ∧
                sink.EndsInside
                  (sink.written.size + (allBytes (parts.take k)).length + before.utf8ByteSize)
                  character) ∧
          (∀ before character, WideAt part.text before character →
            part.FromSample before character) ∧
          (textOf? added = none →
            (∀ sample, part ≠ .condition sample) ∧ ∀ values, part ≠ .scores values) ∧
          added <+: bytesOf part.text ∧
          (∀ byte, added.head? = some byte → byte.IsUTF8FirstByte) ∧
          (added ≠ [] → ∀ j earlier, j < k → parts[j]? = some earlier →
            (Outcome.additions sink.written.size (writeEach sink parts))[j]? =
              some (bytesOf earlier.text))) ∧
      ∀ (j k : Nat) (added other : List UInt8),
        (Outcome.additions sink.written.size (writeEach sink parts))[j]? = some added →
        (Outcome.additions sink.written.size (writeEach sink parts))[k]? = some other →
          textOf? added = none → textOf? other = none → j = k := by
  refine ⟨additions_length sink parts, ?_, ?_⟩
  · intro k part added called adds
    have invalid_iff := textOf?_added_eq_none_iff sink called adds
    refine ⟨invalid_iff, fun _ _ wide => fromSample_of_wideAt wide, ?_,
      added_isPrefix sink called adds, ?_, ?_⟩
    · intro invalid
      obtain ⟨_, before, character, wide, _⟩ := invalid_iff.mp invalid
      have source := fromSample_of_wideAt wide
      constructor
      · rintro sample rfl
        cases source
      · rintro values rfl
        cases source
    · intro byte first
      obtain ⟨rest, whole⟩ := added_isPrefix sink called adds
      have begins : (bytesOf part.text).head? = some byte := by
        rw [← whole, List.head?_append, first, Option.some_or]
      exact isUTF8FirstByte_of_head? begins
    · intro nonempty j earlier less calledEarlier
      have enough := hasRoom_of_added sink called adds nonempty
      exact additions_of_hasRoom sink calledEarlier (hasRoom_take_of_le less enough)
  · intro j k added other adds otherAdds invalid otherInvalid
    have first := firstFailure_of_invalid sink adds invalid
    exact first.unique (firstFailure_of_invalid sink otherAdds otherInvalid)

/-- The seventh byte of this line is the first of the two that the accented letter takes. -/
theorem writeEach_cuts_one_character_of_accent :
    let part : Part := .name { Sample.fixed with name := "é" }
    ∃ added, (Outcome.additions 0 (writeEach { limit := some 7 } [part]))[0]? = some added ∧
      textOf? added = none := by
  intro part
  obtain ⟨lengths, calls, _⟩ := writeEach_cuts_one_character { limit := some 7 } [part]
  obtain ⟨added, adds⟩ : ∃ added,
      (Outcome.additions 0 (writeEach { limit := some 7 } [part]))[0]? = some added :=
    ⟨_, List.getElem?_eq_getElem (Nat.lt_of_lt_of_eq Nat.one_pos lengths.symm)⟩
  have fails : Outcome.FirstFailure (writeEach { limit := some 7 } [part]) 0 := by
    have called : [part][0]? = some part := rfl
    have bytes : part.bytes = bytesOf "Name: é\n" := part.bytes_eq
    rw [firstFailure_iff _ called]
    refine ⟨Sink.hasRoom_zero _, ?_⟩
    change ¬ Sink.HasRoom _ (allBytes [part]).length
    rw [allBytes, List.flatMap_singleton, bytes]
    decide
  have letter : WideAt part.text "Name: " 'é' := ⟨by decide, "\n", rfl⟩
  have inside : Sink.EndsInside { limit := some 7 } 6 'é' := ⟨7, rfl, by decide, by decide⟩
  exact ⟨added, adds, (calls 0 part added rfl adds).1.mpr ⟨fails, "Name: ", 'é', letter, inside⟩⟩

end Part
end ScoreSheet
