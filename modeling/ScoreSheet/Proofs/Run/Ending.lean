import ScoreSheet.Proofs.Log.Cuts
import ScoreSheet.Proofs.Log.SetUp
import ScoreSheet.Proofs.Report.Cut
import ScoreSheet.Run

/-!
How a run ends whose standard output is read.  What it leaves there is the report of
the fixed sample, the text that was asked for, or nothing; the log and its filters do
not show there.  Only one thing keeps the report back that the options do not tell: a
filter with a text that would be cut inside a character.
-/

namespace ScoreSheet
namespace Run

def reportText : String :=
  "Name: Osama\n" ++
  "Char: A, Float: 3.14, Int: 42\n" ++
  "x is greater than 10 and y is less than 10\n" ++
  "Score 1: 90\n" ++
  "Score 2: 85\n" ++
  "Score 3: 78\n" ++
  "Score 4: 92\n" ++
  "Score 5: 88\n" ++
  "Average Score: 86.60\n"

theorem text_fixed : (Part.all Sample.fixed).text = reportText := by
  decide +kernel

/-- What the options alone promise of a run whose standard output is read. -/
structure Keeps (environment : Environment) (words : List String) (result : RunResult) : Prop where
  report : ∀ options, Options.read environment words = .ok options →
    AddressFits options.address →
      result.exitCode = 0 ∧ result.stdout = bytesOf reportText
  request : ∀ error, Options.read environment words = .error error → error.isRequest = true →
    result.exitCode = 0 ∧ result.stdout = bytesOf (error.printed programName environment) ∧
      result.stderr = ""
  mistake : ∀ error, Options.read environment words = .error error → error.isRequest = false →
    result.exitCode = 2 ∧ result.stdout = []
  badAddress : ∀ options, Options.read environment words = .ok options →
    ¬ AddressFits options.address →
      (∃ error, result = .stopped (.badAddress error)) ∧ result.exitCode = 101 ∧
        result.stdout = []

/-- A filter is reached that would be cut inside a character. -/
def Splits (environment : Environment) (words : List String) (split : SplitCharacter) : Prop :=
  ∃ options, Options.read environment words = .ok options ∧ AddressFits options.address ∧
    Log.ofEnvironment environment = .error split

theorem print_readable (log : Log) :
    print log .readable =
      .exited 0 (bytesOf reportText)
        (log.lines none [.starting] ++
          log.lines (Part.all Sample.fixed).span
            ((Part.all Sample.fixed).write Sink.unlimited).events) := by
  have finished := ((Part.all Sample.fixed).write_ok_iff Sink.unlimited).mpr
    fun room none => by cases none
  have bytes : ((Part.all Sample.fixed).write Sink.unlimited).sink.written.toList =
      bytesOf reportText := by
    rw [← text_fixed, ← Part.bytes_eq]
    rfl
  rw [print]
  simp only [Stdout.sink, finished, bytes]

section

variable {environment : Environment} {words : List String}

theorem outcome_of_error {error : CommandLineError}
    (read : Options.read environment words = .error error) (stdout : Stdout) :
    outcome environment words stdout =
      if error.isRequest then
        .exited 0 (stdout.shown (error.printed programName environment)) ""
      else .exited 2 [] (error.printed programName environment) := by
  rw [outcome, read]
  cases request : error.isRequest <;> simp [CommandLineError.exitCode, request]

theorem outcome_of_mistake {error : CommandLineError}
    (read : Options.read environment words = .error error) (mistake : error.isRequest = false)
    (stdout : Stdout) :
    outcome environment words stdout = .exited 2 [] (error.printed programName environment) := by
  rw [outcome_of_error read, if_neg (by simp [mistake])]

theorem outcome_of_options {options : Options}
    (read : Options.read environment words = .ok options) (stdout : Stdout) :
    outcome environment words stdout =
      match setUp environment options.address with
      | .error error => .stopped error
      | .ok (_, log) => print log stdout := by
  cases ready : setUp environment options.address with
  | error error => simp only [outcome, read, ready]
  | ok both => simp only [outcome, read, ready]

theorem outcome_of_badAddress {options : Options}
    (read : Options.read environment words = .ok options)
    (bad : ¬ AddressFits options.address) (stdout : Stdout) :
    ∃ error, outcome environment words stdout = .stopped (.badAddress error) := by
  obtain ⟨error, stopped⟩ := setUp_of_not_fits environment bad
  exact ⟨error, by rw [outcome_of_options read, stopped]⟩

theorem outcome_of_fits {options : Options}
    (read : Options.read environment words = .ok options) (fits : AddressFits options.address)
    (stdout : Stdout) :
    (∃ split, Log.ofEnvironment environment = .error split ∧
        outcome environment words stdout = .stopped (.splitCharacter split)) ∨
      ∃ log, Log.ofEnvironment environment = .ok log ∧
        outcome environment words stdout = print log stdout := by
  rw [outcome_of_options read]
  rcases setUp_of_fits environment fits with
    ⟨split, unread, stopped⟩ | ⟨collector, log, readLog, ready⟩
  · exact Or.inl ⟨split, unread, by rw [stopped]⟩
  · exact Or.inr ⟨log, readLog, by rw [ready]⟩

theorem outcome_of_splits {split : SplitCharacter} (splits : Splits environment words split)
    (stdout : Stdout) : outcome environment words stdout = .stopped (.splitCharacter split) := by
  obtain ⟨options, read, fits, unread⟩ := splits
  rcases outcome_of_fits read fits stdout with ⟨other, otherUnread, stopped⟩ | ⟨log, readLog, _⟩
  · rw [unread] at otherUnread
    cases otherUnread
    exact stopped
  · rw [unread] at readLog
    cases readLog

theorem not_splits_of_plain (plainCollector : IsPlainSetting environment.collectorLog)
    (plainLog : IsPlainSetting environment.log) (split : SplitCharacter) :
    ¬ Splits environment words split := by
  rintro ⟨options, _, _, unread⟩
  obtain ⟨log, read⟩ := Log.ofEnvironment_of_plain plainCollector plainLog
  rw [read] at unread
  cases unread

theorem keeps_of_not_splits (unsplit : ∀ split, ¬ Splits environment words split) :
    Keeps environment words (outcome environment words .readable) where
  report options read fits := by
    rcases outcome_of_fits read fits .readable with ⟨split, unread, _⟩ | ⟨log, _, printed⟩
    · exact absurd ⟨options, read, fits, unread⟩ (unsplit split)
    · rw [printed, print_readable]
      exact ⟨rfl, rfl⟩
  request error read request := by
    rw [outcome_of_error read, if_pos request]
    exact ⟨rfl, rfl, rfl⟩
  mistake error read mistake := by
    rw [outcome_of_mistake read mistake]
    exact ⟨rfl, rfl⟩
  badAddress options read bad := by
    obtain ⟨error, stopped⟩ := outcome_of_badAddress read bad .readable
    rw [stopped]
    exact ⟨⟨error, rfl⟩, rfl, rfl⟩

end

/-- A run whose standard output is read keeps what its options promise exactly if no
filter that it reaches is cut inside a character. Otherwise it stops before anything is
written. No such filter is among those whose directives have no blank in front or only
characters of a single byte, nor is a variable that is not set. -/
theorem outcome_keeps_iff (environment : Environment) (words : List String) :
    (Keeps environment words (outcome environment words .readable) ↔
        ∀ split, ¬ Splits environment words split) ∧
      (∀ split, Splits environment words split →
        outcome environment words .readable = .stopped (.splitCharacter split) ∧
          (outcome environment words .readable).exitCode = 101 ∧
          (outcome environment words .readable).stdout = []) ∧
      (IsPlainSetting environment.collectorLog → IsPlainSetting environment.log →
        Keeps environment words (outcome environment words .readable)) := by
  have stopped : ∀ split, Splits environment words split →
      outcome environment words .readable = .stopped (.splitCharacter split) ∧
        (outcome environment words .readable).exitCode = 101 ∧
        (outcome environment words .readable).stdout = [] := by
    intro split splits
    rw [outcome_of_splits splits]
    exact ⟨rfl, rfl, rfl⟩
  refine ⟨⟨?_, keeps_of_not_splits⟩, stopped, ?_⟩
  · intro keeps split splits
    have code101 := (stopped split splits).2.1
    obtain ⟨options, read, fits, _⟩ := splits
    have code0 := (keeps.report options read fits).1
    rw [code101] at code0
    cases code0
  · intro plainCollector plainLog
    exact keeps_of_not_splits (not_splits_of_plain plainCollector plainLog)

theorem outcome_not_keeps_after_blank :
    ¬ Keeps { log := some " xé=info" } []
      (outcome { log := some " xé=info" } [] .readable) := by
  intro keeps
  have read : Options.read { log := some " xé=info" } [] = .ok ⟨none, ⟨1036831949⟩⟩ := by
    decide +kernel
  have stopped : outcome { log := some " xé=info" } [] .readable =
      .stopped (.splitCharacter ⟨.stop, 3, 'é', 2⟩) := by
    decide +kernel
  have code := (keeps.report _ read fun text none => by cases none).1
  rw [stopped] at code
  cases code

end Run
end ScoreSheet
