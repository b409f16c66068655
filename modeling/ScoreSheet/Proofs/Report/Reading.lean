import ScoreSheet.Proofs.Report.Cut

/-!
Whole reports are read back from their end.  A name or a character may look like
lines of a report, so that reading from the front is ambiguous; but all that follows
them is fixed words and numbers, and no number holds a blank.  So each line gives up
its last word, and with it what stands in front, in one way only.
-/

namespace ScoreSheet

/-- A text that no blank divides. -/
def IsWord (text : String) : Prop :=
  ' ' ∉ text.toList

instance (text : String) : Decidable (IsWord text) :=
  inferInstanceAs (Decidable (' ' ∉ text.toList))

private theorem eq_nil_of_blank_cons {between word last : List Char} (solid : ' ' ∉ word)
    (split : ' ' :: word = between ++ ' ' :: last) : between = [] := by
  cases between with
  | nil => rfl
  | cons first rest =>
      rw [List.cons_append, List.cons.injEq] at split
      rw [split.2] at solid
      exact absurd (List.mem_append_right rest List.mem_cons_self) solid

theorem append_blank_inj {before other word last : List Char} (solid : ' ' ∉ word)
    (solidLast : ' ' ∉ last) (same : before ++ ' ' :: word = other ++ ' ' :: last) :
    before = other ∧ word = last := by
  rcases List.append_eq_append_iff.mp same with ⟨between, front, back⟩ | ⟨between, front, back⟩
  · obtain rfl := eq_nil_of_blank_cons solid back
    rw [List.append_nil] at front
    exact ⟨front.symm, (List.cons.inj back).2⟩
  · obtain rfl := eq_nil_of_blank_cons solidLast back
    rw [List.append_nil] at front
    exact ⟨front, (List.cons.inj back).2.symm⟩

theorem lastWord_inj (stem : String) {label before other word last : String}
    (labelEq : label = stem ++ " ") (solid : IsWord word) (solidLast : IsWord last)
    (same : before ++ label ++ word = other ++ label ++ last) : before = other ∧ word = last := by
  have characters : (before ++ stem).toList ++ ' ' :: word.toList =
      (other ++ stem).toList ++ ' ' :: last.toList := by
    simpa [labelEq] using congrArg String.toList same
  obtain ⟨front, back⟩ := append_blank_inj solid solidLast characters
  exact ⟨(String.append_left_inj stem).mp (String.toList_inj.mp front), String.toList_inj.mp back⟩

/-- A character of printed numbers: a digit, a sign or a point, or a letter of what is infinite
or not a number. -/
def isNumberCharacter (character : Char) : Bool :=
  character.isDigit || ['-', '.', 'N', 'a', 'i', 'n', 'f'].contains character

def IsNumberText (text : String) : Prop :=
  ∀ character ∈ text.toList, isNumberCharacter character = true

instance (text : String) : Decidable (IsNumberText text) :=
  List.decidableBAll (fun character => isNumberCharacter character = true) text.toList

theorem IsNumberText.not_mem {text : String} {character : Char} (number : IsNumberText text)
    (other : isNumberCharacter character = false) : character ∉ text.toList := by
  intro member
  rw [number character member] at other
  cases other

theorem IsNumberText.isWord {text : String} (number : IsNumberText text) : IsWord text :=
  number.not_mem (by decide)

theorem forall_mem_toList_append {first second : String} {property : Char → Prop}
    (holds : ∀ character ∈ first.toList, property character)
    (holdsNext : ∀ character ∈ second.toList, property character) :
    ∀ character ∈ (first ++ second).toList, property character := by
  intro character member
  rw [String.toList_append, List.mem_append] at member
  exact member.elim (holds character) (holdsNext character)

theorem isNumberText_append {first second : String} (number : IsNumberText first)
    (numberNext : IsNumberText second) : IsNumberText (first ++ second) :=
  forall_mem_toList_append number numberNext

theorem isDigit_of_mem_natText {number : Nat} {character : Char}
    (member : character ∈ (toString number).toList) : character.isDigit = true := by
  rw [Nat.toString_eq_ofList_toDigits, String.toList_ofList] at member
  exact Nat.isDigit_of_mem_toDigits (by decide) (by decide) member

theorem isNumberText_natText (number : Nat) : IsNumberText (toString number) := by
  intro character member
  rw [isNumberCharacter, isDigit_of_mem_natText member, Bool.true_or]

theorem isNumberText_intText (number : Int) : IsNumberText (toString number) := by
  rw [Int.toString_eq_repr, Int.repr_eq_if]
  split
  · exact isNumberText_natText number.toNat
  · exact isNumberText_append (by decide) (isNumberText_natText (-number).toNat)

theorem isNumberText_hundredthsText (hundredths : Nat) :
    IsNumberText (hundredthsText hundredths) := by
  have point : IsNumberText "." := by decide
  have whole := isNumberText_append (isNumberText_natText (hundredths / 100)) point
  have tenths := isNumberText_append whole (isNumberText_natText (hundredths % 100 / 10))
  exact isNumberText_append tenths (isNumberText_natText (hundredths % 100 % 10))

theorem Binary32.isNumberText_toHundredthsText (value : Binary32) :
    IsNumberText value.toHundredthsText := by
  unfold toHundredthsText
  split
  · decide
  · apply isNumberText_append
    · split <;> decide
    · split
      · decide
      · exact isNumberText_hundredthsText value.hundredths

/-! ### Numbers are told by their texts -/

theorem natText_inj {number other : Nat} (same : toString number = toString other) :
    number = other := by
  rw [Nat.toString_eq_ofList_toDigits, Nat.toString_eq_ofList_toDigits] at same
  have values := congrArg (Nat.ofDigitChars 10 · 0) (String.ofList_injective same)
  simpa only [Nat.ofDigitChars_ten_toDigits] using values

private theorem natText_ne_minus (number : Nat) (text : String) :
    toString number ≠ "-" ++ text := by
  intro same
  have sign : '-' ∈ (toString number).toList := by
    rw [same, String.toList_append]
    exact List.mem_append_left _ (by decide)
  exact absurd (isDigit_of_mem_natText sign) (by decide)

theorem intText_inj {number other : Int} (same : toString number = toString other) :
    number = other := by
  rw [Int.toString_eq_repr, Int.toString_eq_repr, Int.repr_eq_if, Int.repr_eq_if] at same
  by_cases sign : 0 ≤ number
  · by_cases otherSign : 0 ≤ other
    · rw [if_pos sign, if_pos otherSign] at same
      have sizes : number.toNat = other.toNat := natText_inj same
      omega
    · rw [if_pos sign, if_neg otherSign] at same
      exact absurd same (natText_ne_minus _ _)
  · by_cases otherSign : 0 ≤ other
    · rw [if_neg sign, if_pos otherSign] at same
      exact absurd same.symm (natText_ne_minus _ _)
    · rw [if_neg sign, if_neg otherSign] at same
      have sizes : (-number).toNat = (-other).toNat :=
        natText_inj ((String.append_right_inj "-").mp same)
      omega

namespace Report

theorem text_line_nil : Action.text (Action.line []) = "\n" := rfl

theorem text_line_cons (piece : String) (rest : List String) :
    Action.text (Action.line (piece :: rest)) = piece ++ Action.text (Action.line rest) := rfl

variable {before other : String}

theorem score_inj (number : Nat) {value otherValue : Int32}
    (same : before ++ Action.text (score number value) =
      other ++ Action.text (score number otherValue)) :
    before = other ∧ value = otherValue := by
  simp only [score, text_line_cons, text_line_nil, ← String.append_assoc,
    String.append_left_inj] at same
  obtain ⟨front, numbers⟩ := lastWord_inj ":" rfl (isNumberText_intText _).isWord
    (isNumberText_intText _).isWord same
  simp only [String.append_left_inj] at front
  exact ⟨front, Int32.toInt_inj.mp (intText_inj numbers)⟩

theorem text_scoresFrom_cons (first : Nat) (value : Int32) (rest : List Int32) :
    Action.text (scoresFrom first (value :: rest)) =
      Action.text (score first value) ++ Action.text (scoresFrom (first + 1) rest) :=
  Action.text_append _ _ (Action.ending_line _)

theorem scoresFrom_inj (first : Nat) {values otherValues : List Int32}
    (lengths : values.length = otherValues.length)
    (same : before ++ Action.text (scoresFrom first values) =
      other ++ Action.text (scoresFrom first otherValues)) :
    before = other ∧ values = otherValues := by
  induction values generalizing first otherValues before other with
  | nil =>
      obtain rfl := List.length_eq_zero_iff.mp lengths.symm
      exact ⟨(String.append_left_inj _).mp same, rfl⟩
  | cons value rest ih =>
      cases otherValues with
      | nil => cases lengths
      | cons otherValue otherRest =>
          rw [text_scoresFrom_cons, text_scoresFrom_cons, ← String.append_assoc,
            ← String.append_assoc] at same
          obtain ⟨throughFirst, rests⟩ := ih (first + 1) (Nat.succ.inj lengths) same
          obtain ⟨front, firsts⟩ := score_inj first throughFirst
          exact ⟨front, by rw [firsts, rests]⟩

theorem averageLine_inj {average otherAverage : Binary32}
    (same : before ++ Action.text (averageLine average) =
      other ++ Action.text (averageLine otherAverage)) : before = other := by
  simp only [averageLine, text_line_cons, text_line_nil, ← String.append_assoc,
    String.append_left_inj] at same
  exact (lastWord_inj "Average Score:" rfl average.isNumberText_toHundredthsText.isWord
    otherAverage.isNumberText_toHundredthsText.isWord same).1

variable {sample otherSample : Sample}

private theorem append_conditionMet_ne :
    before ++ conditionMet ≠ other ++ conditionNotMet := by
  intro same
  have met : conditionMet = "x is greater than 10 and y is less than" ++ " " ++ "10" := rfl
  have notMet : conditionNotMet = "Condition not" ++ " " ++ "met" := rfl
  simp only [met, notMet, ← String.append_assoc] at same
  have lastWords : "10" = "met" := (lastWord_inj "" rfl (by decide) (by decide) same).2
  exact absurd lastWords (by decide)

theorem condition_inj
    (same : before ++ Action.text (condition sample) =
      other ++ Action.text (condition otherSample)) :
    before = other ∧ sample.isConditionMet = otherSample.isConditionMet := by
  simp only [condition, text_line_cons, text_line_nil, ← String.append_assoc,
    String.append_left_inj] at same
  cases first : sample.isConditionMet with
  | false =>
      cases second : otherSample.isConditionMet with
      | false =>
          rw [first, second] at same
          exact ⟨(String.append_left_inj _).mp same, rfl⟩
      | true =>
          rw [first, second] at same
          exact absurd same.symm append_conditionMet_ne
  | true =>
      cases second : otherSample.isConditionMet with
      | false =>
          rw [first, second] at same
          exact absurd same append_conditionMet_ne
      | true =>
          rw [first, second] at same
          exact ⟨(String.append_left_inj _).mp same, rfl⟩

theorem scalars_inj
    (same : before ++ Action.text (scalars sample) = other ++ Action.text (scalars otherSample)) :
    before = other ∧ sample.c = otherSample.c ∧
      sample.y.toHundredthsText = otherSample.y.toHundredthsText ∧ sample.x = otherSample.x := by
  simp only [scalars, text_line_cons, text_line_nil, ← String.append_assoc,
    String.append_left_inj] at same
  obtain ⟨throughFloat, ints⟩ :=
    lastWord_inj ", Int:" rfl (isNumberText_intText _).isWord (isNumberText_intText _).isWord
      same
  obtain ⟨throughChar, floats⟩ := lastWord_inj ", Float:" rfl
    sample.y.isNumberText_toHundredthsText.isWord
    otherSample.y.isNumberText_toHundredthsText.isWord throughFloat
  have characters : (before ++ "Char: ").toList ++ [sample.c] =
      (other ++ "Char: ").toList ++ [otherSample.c] := by
    simpa using congrArg String.toList throughChar
  obtain ⟨front, lasts⟩ := List.append_inj' characters rfl
  exact ⟨(String.append_left_inj _).mp (String.toList_inj.mp front), (List.cons.inj lasts).1,
    floats, Int32.toInt_inj.mp (intText_inj ints)⟩

theorem name_inj (same : Action.text (name sample) = Action.text (name otherSample)) :
    sample.name = otherSample.name := by
  simpa only [name, text_line_cons, text_line_nil, String.append_right_inj,
    String.append_left_inj] using same

end Report

/-! ### Whole reports -/

/-- A sink without a limit that holds nothing yet. It keeps the size of its chunks
and its interruptions. -/
def Sink.boundless (sink : Sink) : Sink :=
  { sink with limit := none, written := #[] }

namespace Part

theorem text_all (sample : Sample) :
    (Part.all sample).text =
      Action.text (Report.name sample) ++ Action.text (Report.scalars sample) ++
        Action.text (Report.condition sample) ++
        Action.text (Report.scores sample.scores.toList) ++
        Action.text (Report.averageLine (Report.mean sample)) := by
  rw [text, actions, Report.all_eq, Action.text_append _ _ (Report.ending_head sample),
    Report.text_head, Report.average_eq]
  rfl

theorem text_all_inj {sample otherSample : Sample}
    (same : (Part.all sample).text = (Part.all otherSample).text) :
    sample.name = otherSample.name ∧ sample.c = otherSample.c ∧ sample.x = otherSample.x ∧
      sample.scores = otherSample.scores ∧
      sample.y.toHundredthsText = otherSample.y.toHundredthsText ∧
      sample.isConditionMet = otherSample.isConditionMet := by
  rw [text_all, text_all] at same
  have throughScores := Report.averageLine_inj same
  have lengths : sample.scores.toList.length = otherSample.scores.toList.length := by
    rw [Vector.length_toList, Vector.length_toList]
  obtain ⟨throughCondition, scores⟩ := Report.scoresFrom_inj 1 lengths throughScores
  obtain ⟨throughScalars, conditions⟩ := Report.condition_inj throughCondition
  obtain ⟨throughName, characters, floats, ints⟩ := Report.scalars_inj throughScalars
  exact ⟨Report.name_inj throughName, characters, ints, Vector.toList_inj.mp scores, floats,
    conditions⟩

theorem text_all_congr {sample otherSample : Sample} (names : sample.name = otherSample.name)
    (characters : sample.c = otherSample.c) (ints : sample.x = otherSample.x)
    (scores : sample.scores = otherSample.scores)
    (floats : sample.y.toHundredthsText = otherSample.y.toHundredthsText)
    (conditions : sample.isConditionMet = otherSample.isConditionMet) :
    (Part.all sample).text = (Part.all otherSample).text := by
  simp only [text_all, Report.name, Report.scalars, Report.condition, Report.mean, names,
    characters, ints, scores, floats, conditions]

theorem write_boundless (part : Part) (sink : Sink) :
    (part.write sink.boundless).result = .ok () ∧
      (part.write sink.boundless).sink.written.toList = bytesOf part.text := by
  constructor
  · exact (part.write_ok_iff sink.boundless).mpr fun room none => by cases none
  · have written := (part.write_adds sink.boundless).written_eq
    have all : sink.boundless.share part.bytes.length = part.bytes.length := rfl
    rw [all, List.take_length, part.bytes_eq] at written
    exact written

/-- Two whole reports are the same exactly if they show the same: the name, the
character, the integer, the five scores in order, the other number to two places, and
whether the condition is met. Nothing is asked of the name or the character. -/
theorem write_all_eq_iff (sample otherSample : Sample) (sink otherSink : Sink) :
    ((Part.all sample).write sink.boundless).result = .ok () ∧
      ((Part.all otherSample).write otherSink.boundless).result = .ok () ∧
      (((Part.all sample).write sink.boundless).sink.written =
          ((Part.all otherSample).write otherSink.boundless).sink.written ↔
        sample.name = otherSample.name ∧ sample.c = otherSample.c ∧
          sample.x = otherSample.x ∧ sample.scores = otherSample.scores ∧
          sample.y.toHundredthsText = otherSample.y.toHundredthsText ∧
          sample.isConditionMet = otherSample.isConditionMet) := by
  obtain ⟨finished, written⟩ := (Part.all sample).write_boundless sink
  obtain ⟨otherFinished, otherWritten⟩ := (Part.all otherSample).write_boundless otherSink
  refine ⟨finished, otherFinished, ?_⟩
  rw [← Array.toList_inj, written, otherWritten, bytesOf_inj]
  constructor
  · exact text_all_inj
  · rintro ⟨names, characters, ints, scores, floats, conditions⟩
    exact text_all_congr names characters ints scores floats conditions

/-- A number just below ten is shown as one that is not, and the condition tells
the two reports apart. -/
example :
    Binary32.toHundredthsText ⟨0x411fffff⟩ = Binary32.toHundredthsText ⟨0x41200000⟩ ∧
      Sample.isConditionMet { Sample.fixed with y := ⟨0x411fffff⟩ } ≠
        Sample.isConditionMet { Sample.fixed with y := ⟨0x41200000⟩ } := by
  decide

end Part
end ScoreSheet
