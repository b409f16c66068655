import ScoreSheet.Proofs.CommandLine.Precedence
import ScoreSheet.Proofs.Decimal.Literal
import ScoreSheet.Proofs.Decimal.LiteralValue

/-!
The sample rate as it is written and as it is used.  Options are read if and only if the text of
the rate is a literal, and the rate is then the number that the literal stands for, rounded once.
-/

namespace ScoreSheet

theorem Binary32.read?_eq_ok_iff {text : String} {value : Binary32} :
    Binary32.read? text = .ok value ↔
      ∃ literal : Literal, literal.Writes text.toList ∧ literal.toBinary32 = value := by
  simp only [← Literal.read?_eq_ok_iff, Binary32.read?]
  cases Literal.read? text with
  | error error => simp [Except.map]
  | ok literal => simp [Except.map]

theorem Literal.isNaN_toBinary32 (negative : Bool) :
    (toBinary32 ⟨negative, .notANumber⟩).isNaN = true := by
  cases negative <;> decide

namespace CommandLine

/-- Settings that are each given once, with the text that is used as the rate: they are accepted
if and only if this is a name or a decimal under an optional sign, and nothing else.  Of a decimal
the rate is the number nearest to what is written. -/
theorem read_words_reads_rate (environment : Environment) (occurrences : List Occurrence)
    (text : String) (distinct : (settings occurrences).Nodup)
    (used : chosenRateText environment occurrences = text) :
    ((∃ options, Options.read environment (words occurrences) = .ok options) ↔
      ∃ literal : Literal, literal.Writes text.toList) ∧
    ∀ options, Options.read environment (words occurrences) = .ok options → ∀ negative,
      (∀ decimal, Literal.Writes ⟨negative, .decimal decimal⟩ text.toList →
        Binary32.RoundsOnce negative decimal.toRat options.sampleRate) ∧
      (Literal.Writes ⟨negative, .infinity⟩ text.toList →
        options.sampleRate = Binary32.infinity negative) ∧
      (Literal.Writes ⟨negative, .notANumber⟩ text.toList →
        options.sampleRate.isNaN = true) := by
  simp only [read_words_eq_ok_iff distinct, used, Binary32.read?_eq_ok_iff]
  constructor
  · constructor
    · rintro ⟨options, _, literal, written, _⟩
      exact ⟨literal, written⟩
    · rintro ⟨literal, written⟩
      exact ⟨⟨chosenAddress environment occurrences, literal.toBinary32⟩, rfl, literal, written,
        rfl⟩
  · rintro options ⟨_, literal, written, rate⟩ negative
    rw [← rate]
    refine ⟨?_, ?_, ?_⟩
    · intro decimal meaning
      rw [written.unique meaning]
      exact Literal.toBinary32_roundsOnce negative decimal
    · intro meaning
      rw [written.unique meaning]
      rfl
    · intro meaning
      rw [written.unique meaning]
      exact Literal.isNaN_toBinary32 negative

/-- A rate just above the middle between two numbers, on which rounding it to 64 bits first would
give the middle and then the wrong neighbour. -/
theorem read_words_reads_rate_above_middle :
    Options.read { sampleRate := some "x" }
        (words [⟨.sampleRate, "16777217.0000000000000000001", .joined, nofun⟩]) =
      .ok ⟨none, ⟨0x4b800001⟩⟩ ∧
    Binary32.RoundsOnce false (16777217 + 1 / 10 ^ 19) ⟨0x4b800001⟩ := by
  have written : Literal.Writes ⟨false, .decimal ⟨167772170000000000000000001, -19⟩⟩
      "16777217.0000000000000000001".toList :=
    Literal.read?_eq_ok_iff.mp (by decide +kernel)
  have read : Options.read { sampleRate := some "x" }
      (words [⟨.sampleRate, "16777217.0000000000000000001", .joined, nofun⟩]) =
        .ok ⟨none, ⟨0x4b800001⟩⟩ := by
    decide +kernel
  obtain ⟨_, value⟩ := read_words_reads_rate { sampleRate := some "x" }
    [⟨.sampleRate, "16777217.0000000000000000001", .joined, nofun⟩]
    "16777217.0000000000000000001" (by decide) (by decide)
  have number : (⟨167772170000000000000000001, -19⟩ : Decimal).toRat = 16777217 + 1 / 10 ^ 19 := by
    rw [Decimal.toRat]
    norm_num
  rw [← number]
  exact ⟨read, (value _ read false).1 _ written⟩

end CommandLine
end ScoreSheet
