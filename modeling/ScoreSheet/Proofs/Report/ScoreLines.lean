import Mathlib.Data.List.Basic
import ScoreSheet.Proofs.Report.Reading
import ScoreSheet.Text.Split

/-!
Lines of scores and a reader for them.  The reader takes only what has a line break after it,
so that it gives back the numbers and values of whole lines whatever stands after the last of
them.
-/

namespace ScoreSheet
namespace Report

def scoreText (number : Nat) (value : Int32) : String :=
  "Score " ++ toString number ++ ": " ++ toString value.toInt

def scoreLine (number : Nat) (value : Int32) : String :=
  scoreText number value ++ "\n"

def scoreLines (first : Nat) : List Int32 → String
  | [] => ""
  | value :: rest => scoreLine first value ++ scoreLines (first + 1) rest

theorem text_score (number : Nat) (value : Int32) :
    Action.text (score number value) = scoreLine number value := by
  simp only [score, text_line_cons, text_line_nil, scoreLine, scoreText, String.append_assoc]

theorem text_scoresFrom (first : Nat) (values : List Int32) :
    Action.text (scoresFrom first values) = scoreLines first values := by
  induction values generalizing first with
  | nil => rfl
  | cons value rest ih => rw [text_scoresFrom_cons, text_score, ih, scoreLines]

theorem scoreLines_append (first : Nat) (before after : List Int32) :
    scoreLines first (before ++ after) =
      scoreLines first before ++ scoreLines (first + before.length) after := by
  induction before generalizing first with
  | nil => exact String.empty_append.symm
  | cons value rest ih =>
      have next : first + 1 + rest.length = first + (value :: rest).length := by
        rw [List.length_cons]
        omega
      rw [List.cons_append, scoreLines, scoreLines, ih, next, String.append_assoc]

/-- The lines of a text that have a line break, without it. What stands after the last line
break is none. -/
def endedLines (text : List Char) : List (List Char) :=
  (splitOnChar '\n' text).dropLast

def readNat? (digits : List Char) : Option Nat :=
  if digits ≠ [] ∧ digits.all Char.isDigit = true then some (Nat.ofDigitChars 10 digits 0)
  else none

def readInt? : List Char → Option Int
  | '-' :: digits => (readNat? digits).map fun (size : Nat) => -(size : Int)
  | digits => (readNat? digits).map fun (size : Nat) => (size : Int)

def readScore? (line : List Char) : Option (Nat × Int) := do
  let labelled ← ['S', 'c', 'o', 'r', 'e', ' '].isPrefixOf? line
  let number ← readNat? (labelled.takeWhile Char.isDigit)
  let signed ← [':', ' '].isPrefixOf? (labelled.dropWhile Char.isDigit)
  let value ← readInt? signed
  pure (number, value)

def readScores? (text : List Char) : Option (List (Nat × Int)) :=
  (endedLines text).mapM readScore?

theorem endedLines_append {line : List Char} (rest : List Char) (unbroken : '\n' ∉ line) :
    endedLines (line ++ '\n' :: rest) = line :: endedLines rest := by
  rw [endedLines, splitOnChar_append rest unbroken,
    List.dropLast_cons_of_ne_nil (splitOnChar_ne_nil '\n' rest), endedLines]

theorem endedLines_of_unbroken {text : List Char} (unbroken : '\n' ∉ text) :
    endedLines text = [] := by
  rw [endedLines, splitOnChar_eq_singleton unbroken, List.dropLast_singleton]

theorem readNat?_natText (number : Nat) : readNat? (toString number).toList = some number := by
  have digits : (toString number).toList = Nat.toDigits 10 number := by
    rw [Nat.toString_eq_ofList_toDigits, String.toList_ofList]
  have some : (toString number).toList ≠ [] := by
    rw [digits]
    exact Nat.toDigits_ne_nil
  have all : (toString number).toList.all Char.isDigit = true :=
    List.all_eq_true.mpr fun _ member => isDigit_of_mem_natText member
  rw [readNat?, if_pos ⟨some, all⟩, digits, Nat.ofDigitChars_ten_toDigits]

theorem readInt?_of_isDigit {digits : List Char}
    (all : ∀ character ∈ digits, character.isDigit = true) :
    readInt? digits = (readNat? digits).map fun (size : Nat) => (size : Int) := by
  rw [readInt?]
  rintro rest rfl
  exact absurd (all '-' List.mem_cons_self) (by decide)

theorem readInt?_intText (number : Int) : readInt? (toString number).toList = some number := by
  rw [Int.toString_eq_repr, Int.repr_eq_if]
  split
  · next positive =>
      have read : readNat? number.toNat.repr.toList = some number.toNat :=
        readNat?_natText number.toNat
      have all : ∀ character ∈ number.toNat.repr.toList, character.isDigit = true :=
        fun _ member => isDigit_of_mem_natText member
      rw [readInt?_of_isDigit all, read, Option.map_some, Int.toNat_of_nonneg positive]
  · next negative =>
      have read : readNat? (-number).toNat.repr.toList = some (-number).toNat :=
        readNat?_natText (-number).toNat
      have minus : "-".toList = ['-'] := by decide
      have size : -((-number).toNat : Int) = number := by omega
      rw [String.toList_append, minus, List.singleton_append, readInt?, read, Option.map_some,
        size]

theorem takeWhile_isDigit_natText (number : Nat) (rest : List Char) :
    ((toString number).toList ++ ':' :: rest).takeWhile Char.isDigit =
      (toString number).toList := by
  rw [List.takeWhile_append_of_pos fun _ member => isDigit_of_mem_natText member,
    List.takeWhile_cons_of_neg (by decide), List.append_nil]

theorem dropWhile_isDigit_natText (number : Nat) (rest : List Char) :
    ((toString number).toList ++ ':' :: rest).dropWhile Char.isDigit = ':' :: rest := by
  rw [List.dropWhile_append_of_pos fun _ member => isDigit_of_mem_natText member,
    List.dropWhile_cons_of_neg (by decide)]

theorem toList_scoreText (number : Nat) (value : Int32) :
    (scoreText number value).toList =
      ['S', 'c', 'o', 'r', 'e', ' '] ++
        ((toString number).toList ++ ':' :: ' ' :: (toString value.toInt).toList) := by
  have label : "Score ".toList = ['S', 'c', 'o', 'r', 'e', ' '] := by decide
  have colon : ": ".toList = [':', ' '] := by decide
  simp only [scoreText, String.toList_append, label, colon, List.append_assoc, List.cons_append,
    List.nil_append]

theorem readScore?_scoreText (number : Nat) (value : Int32) :
    readScore? (scoreText number value).toList = some (number, value.toInt) := by
  have separated : [':', ' '].isPrefixOf? (':' :: ' ' :: (toString value.toInt).toList) =
      some (toString value.toInt).toList := rfl
  rw [readScore?, toList_scoreText, List.isPrefixOf?_eq_some_iff_append_eq.mpr rfl]
  simp only [Option.bind_eq_bind, Option.bind_some, takeWhile_isDigit_natText,
    dropWhile_isDigit_natText, readNat?_natText, separated, readInt?_intText, Option.pure_def]

theorem newline_not_mem_scoreText (number : Nat) (value : Int32) :
    '\n' ∉ (scoreText number value).toList := by
  have label : '\n' ∉ "Score ".toList := by decide
  have colon : '\n' ∉ ": ".toList := by decide
  have numbered : '\n' ∉ (toString number).toList :=
    (isNumberText_natText number).not_mem (by decide)
  have valued : '\n' ∉ (toString value.toInt).toList :=
    (isNumberText_intText value.toInt).not_mem (by decide)
  simp only [scoreText, String.toList_append, List.mem_append, label, colon, numbered, valued,
    or_self, not_false_eq_true]

theorem toList_scoreLine (number : Nat) (value : Int32) :
    (scoreLine number value).toList = (scoreText number value).toList ++ ['\n'] :=
  String.toList_append

/-- Whatever follows the last line break, whole lines are read back in order. -/
theorem readScores?_scoreLines (first : Nat) (values : List Int32) {rest : List Char}
    (unbroken : '\n' ∉ rest) :
    readScores? ((scoreLines first values).toList ++ rest) =
      some ((List.range' first values.length).zip (values.map Int32.toInt)) := by
  induction values generalizing first with
  | nil =>
      rw [readScores?]
      change (endedLines rest).mapM readScore? = _
      rw [endedLines_of_unbroken unbroken]
      rfl
  | cons value others ih =>
      have lines : (scoreLines first (value :: others)).toList ++ rest =
          (scoreText first value).toList ++
            '\n' :: ((scoreLines (first + 1) others).toList ++ rest) := by
        rw [scoreLines, String.toList_append, toList_scoreLine, List.append_assoc,
          List.append_assoc, List.singleton_append]
      have later := ih (first + 1)
      rw [readScores?] at later ⊢
      rw [lines, endedLines_append _ (newline_not_mem_scoreText first value), List.mapM_cons,
        readScore?_scoreText, later, List.length_cons, List.range'_succ, List.map_cons,
        List.zip_cons_cons]
      rfl

/-- A value cut after its first digit would be another value, but its line has no line break. -/
example : readScores? "Score 1: 7\nScore 2: 4".toList = some [(1, 7)] := by decide

end Report
end ScoreSheet
