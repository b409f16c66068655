import Mathlib.Data.Nat.Find
import Mathlib.Order.Bounds.Basic
import ScoreSheet.Proofs.Report.ScoreLines
import ScoreSheet.Proofs.Text.Bytes

/-!
A list of scores on a sink without room for all of it.  The lines that fit are written whole
and of the line after them a proper part, which has no line break.  So a reader gets back the
numbers and values of the lines that fit: no cut line is taken for a whole one, and no whole
line is lost.
-/

namespace ScoreSheet
namespace Report

theorem isSingleByte_scoreLine (number : Nat) (value : Int32) :
    IsSingleByte (scoreLine number value) := by
  have label : IsSingleByte "Score " := by decide
  have colon : IsSingleByte ": " := by decide
  have lineBreak : IsSingleByte "\n" := by decide
  have numbered := isSingleByte_append label (isNumberText_natText number).isSingleByte
  have valued := isSingleByte_append (isSingleByte_append numbered colon)
    (isNumberText_intText value.toInt).isSingleByte
  exact isSingleByte_append valued lineBreak

theorem exists_text_of_take_scoreLine (number : Nat) (value : Int32) {size : Nat}
    (short : size < (bytesOf (scoreLine number value)).length) :
    ∃ text : String, (bytesOf (scoreLine number value)).take size = bytesOf text ∧
      '\n' ∉ text.toList := by
  have single := isSingleByte_scoreLine number value
  refine ⟨_, take_bytesOf single size, ?_⟩
  rw [length_bytesOf single, toList_scoreLine, List.length_append, List.length_singleton] at short
  rw [String.toList_ofList, toList_scoreLine,
    List.take_append_of_le_length (Nat.le_of_lt_succ short)]
  intro member
  exact newline_not_mem_scoreText number value (List.mem_of_mem_take member)

def firstLines (values : List Int32) (count : Nat) : List UInt8 :=
  bytesOf (scoreLines 1 (values.take count))

theorem firstLines_length (values : List Int32) :
    firstLines values values.length = bytesOf (scoreLines 1 values) := by
  rw [firstLines, List.take_length]

theorem firstLines_succ {values : List Int32} {count : Nat} {value : Int32}
    (found : values[count]? = some value) :
    firstLines values (count + 1) =
      firstLines values count ++ bytesOf (scoreLine (count + 1) value) := by
  have inside := (List.getElem?_eq_some_iff.mp found).1
  have before : (values.take count).length = count := List.length_take_of_le inside.le
  rw [firstLines, firstLines, List.take_add_one, found, Option.toList_some, scoreLines_append,
    bytesOf_append, before, Nat.add_comm 1 count]
  rw [scoreLines, scoreLines, String.append_empty]

theorem exists_bytesOf_scoreLines (values : List Int32) (count : Nat) :
    ∃ more, bytesOf (scoreLines 1 values) = firstLines values count ++ more := by
  refine ⟨bytesOf (scoreLines (1 + (values.take count).length) (values.drop count)), ?_⟩
  rw [firstLines, ← bytesOf_append, ← scoreLines_append, List.take_append_drop]

theorem readScores?_firstLines {values : List Int32} {count : Nat} (within : count ≤ values.length)
    {text : String} (unbroken : '\n' ∉ text.toList) :
    (textOf? (firstLines values count ++ bytesOf text)).bind (readScores? ·.toList) =
      some ((List.range' 1 count).zip ((values.take count).map Int32.toInt)) := by
  have read := readScores?_scoreLines 1 (values.take count) unbroken
  rw [List.length_take_of_le within] at read
  rw [firstLines, ← bytesOf_append, textOf?_bytesOf, Option.bind_some, String.toList_append]
  exact read

/-- How many scores have lines that all fit on a sink. -/
def fittingCount (sink : Sink) (values : List Int32) : Nat :=
  Nat.findGreatest (fun count => sink.HasRoom (firstLines values count).length) values.length

section

variable (sink : Sink) (values : List Int32)

theorem isGreatest_fittingCount :
    IsGreatest {count | count ≤ values.length ∧ sink.HasRoom (firstLines values count).length}
      (fittingCount sink values) := by
  have noLines : sink.HasRoom (firstLines values 0).length := sink.hasRoom_zero
  constructor
  · exact ⟨Nat.findGreatest_le _, Nat.findGreatest_spec
      (P := fun count => sink.HasRoom (firstLines values count).length) (Nat.zero_le _) noLines⟩
  · rintro count ⟨within, fits⟩
    exact Nat.le_findGreatest within fits

theorem hasRoom_iff_fittingCount :
    sink.HasRoom (bytesOf (scoreLines 1 values)).length ↔
      fittingCount sink values = values.length := by
  have greatest := isGreatest_fittingCount sink values
  rw [← firstLines_length]
  constructor
  · intro enough
    exact Nat.le_antisymm greatest.1.1 (greatest.2 ⟨Nat.le_refl _, enough⟩)
  · intro all
    have fits := greatest.1.2
    rwa [all] at fits

/-- What a sink keeps of the line after the ones that fit: a text without a line break, not the
whole line, that uses up the room. -/
structure CutLine (text : String) : Prop where
  kept_eq : (bytesOf (scoreLines 1 values)).take
      (sink.share (bytesOf (scoreLines 1 values)).length) =
    firstLines values (fittingCount sink values) ++ bytesOf text
  unbroken : '\n' ∉ text.toList
  none_of_all : fittingCount sink values = values.length → bytesOf text = []
  part : ∀ value, values[fittingCount sink values]? = some value →
    bytesOf text <+: bytesOf (scoreLine (fittingCount sink values + 1) value) ∧
      bytesOf text ≠ bytesOf (scoreLine (fittingCount sink values + 1) value) ∧
      sink.room = some (firstLines values (fittingCount sink values) ++ bytesOf text).length

theorem cutLine_of_all (all : fittingCount sink values = values.length) :
    CutLine sink values "" where
  kept_eq := by
    have total := (sink.share_eq_iff _).mpr ((hasRoom_iff_fittingCount sink values).mpr all)
    rw [total, List.take_length, all, firstLines_length]
    exact (List.append_nil _).symm
  unbroken := by decide
  none_of_all _ := rfl
  part value found := by
    rw [all] at found
    exact absurd (List.getElem?_eq_some_iff.mp found).1 (Nat.lt_irrefl _)

theorem exists_cutLine : ∃ text, CutLine sink values text := by
  have greatest := isGreatest_fittingCount sink values
  rcases Nat.lt_or_eq_of_le greatest.1.1 with inside | all
  · obtain ⟨value, found⟩ : ∃ value, values[fittingCount sink values]? = some value :=
      ⟨_, List.getElem?_eq_getElem inside⟩
    have full : ¬ sink.HasRoom (firstLines values (fittingCount sink values + 1)).length :=
      fun enough => absurd (greatest.2 ⟨inside, enough⟩) (Nat.not_succ_le_self _)
    obtain ⟨more, bytes⟩ := exists_bytesOf_scoreLines values (fittingCount sink values + 1)
    rw [firstLines_succ found] at full bytes
    obtain ⟨size, short, room, taken⟩ := Sink.exists_cut_of_not_hasRoom more greatest.1.2 full
    obtain ⟨text, cut, unbroken⟩ := exists_text_of_take_scoreLine _ value short
    have length := List.length_take_of_le short.le
    rw [← bytes, cut] at taken
    rw [cut] at length
    refine ⟨text, taken, unbroken, fun all => absurd all inside.ne, ?_⟩
    intro other foundOther
    obtain rfl : value = other := Option.some.inj (found.symm.trans foundOther)
    refine ⟨cut ▸ List.take_prefix _ _, ?_, ?_⟩
    · intro whole
      rw [whole] at length
      exact absurd length short.ne'
    · rw [room, List.length_append, length]
  · exact ⟨"", cutLine_of_all sink values all⟩

end

end Report

namespace Part

theorem bytes_scores (values : List Int32) :
    (Part.scores values).bytes = bytesOf (Report.scoreLines 1 values) := by
  rw [bytes_eq]
  exact congrArg bytesOf (Report.text_scoresFrom 1 values)

/-- On a sink with any room, a list of scores leaves the lines that fit, as many as fit, and of
the next line the first bytes that still fit, which are not all of it. It succeeds exactly if
every line fits. Whoever reads the lines that have their line break gets the numbers from one
on and the first scores, in order and without a gap. -/
theorem write_scores_loses_tail (values : List Int32) (sink : Sink) :
    ∃ kept cut,
      IsGreatest {count | count ≤ values.length ∧
        sink.HasRoom (Report.firstLines values count).length} kept ∧
      ((Part.scores values).write sink).sink.written.toList =
        sink.written.toList ++ (Report.firstLines values kept ++ cut) ∧
      (kept = values.length → cut = []) ∧
      (∀ value, values[kept]? = some value →
        cut <+: bytesOf (Report.scoreLine (kept + 1) value) ∧
          cut ≠ bytesOf (Report.scoreLine (kept + 1) value) ∧
          sink.room = some (Report.firstLines values kept ++ cut).length) ∧
      (((Part.scores values).write sink).result = .ok () ↔ kept = values.length) ∧
      (textOf? (Report.firstLines values kept ++ cut)).bind (Report.readScores? ·.toList) =
        some ((List.range' 1 kept).zip ((values.take kept).map Int32.toInt)) := by
  have greatest := Report.isGreatest_fittingCount sink values
  obtain ⟨text, cut⟩ := Report.exists_cutLine sink values
  refine ⟨_, bytesOf text, greatest, ?_, cut.none_of_all, cut.part, ?_,
    Report.readScores?_firstLines greatest.1.1 cut.unbroken⟩
  · rw [((Part.scores values).write_adds sink).written_eq, bytes_scores, cut.kept_eq]
  · rw [write_ok_iff, bytes_scores, Report.hasRoom_iff_fittingCount]

end Part
end ScoreSheet
