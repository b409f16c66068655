import ScoreSheet.Session

/-!
What setting up the log depends on.  The address of the collector is checked first and
the two filters are read after it, and each of these steps can stop the setting up.
-/

namespace ScoreSheet

/-- No address is given, an empty one, or one of a collector. -/
def AddressFits (address : Option String) : Prop :=
  ∀ text, address = some text → text ≠ "" → ∃ found, Address.check text = .ok found

inductive SettingUp (environment : Environment) (address : Option String) :
    Except SetUpError (Bool × Log) → Prop where
  | badAddress (text : String) (error : AddressError) (given : address = some text)
      (nonempty : text ≠ "") (bad : Address.check text = .error error) :
      SettingUp environment address (.error (.badAddress error))
  | splitCharacter (split : SplitCharacter) (fits : AddressFits address)
      (unread : Log.ofEnvironment environment = .error split) :
      SettingUp environment address (.error (.splitCharacter split))
  | done (collector : Bool) (log : Log) (fits : AddressFits address)
      (read : Log.ofEnvironment environment = .ok log) :
      SettingUp environment address (.ok (collector, log))

private theorem settingUp_of_collector {environment : Environment} {address : Option String}
    {collector : Bool} (fits : AddressFits address)
    (known : hasCollector environment address = .ok collector) :
    SettingUp environment address (setUp environment address) := by
  rw [setUp, known]
  cases read : Log.ofEnvironment environment with
  | error split => exact .splitCharacter split fits read
  | ok log => exact .done collector log fits read

theorem setUp_settingUp (environment : Environment) (address : Option String) :
    SettingUp environment address (setUp environment address) := by
  cases given : address.filter (· ≠ "") with
  | none =>
      have fits : AddressFits address := by
        intro text some nonempty
        rw [some, Option.filter_some, if_pos (by simpa using nonempty)] at given
        cases given
      exact settingUp_of_collector fits (by rw [hasCollector, given])
  | some text =>
      obtain ⟨same, nonempty⟩ := Option.filter_eq_some_iff.mp given
      have notEmpty : text ≠ "" := by simpa using nonempty
      cases checked : Address.check text with
      | error error =>
          have stopped : setUp environment address = .error (.badAddress error) := by
            rw [setUp, hasCollector, given]
            simp only [checked]
            rfl
          rw [stopped]
          exact .badAddress text error same notEmpty checked
      | ok found =>
          have fits : AddressFits address := by
            intro other some _
            rw [same] at some
            cases some
            exact ⟨found, checked⟩
          have known : hasCollector environment address = .ok true := by
            rw [hasCollector, given]
            simp only [checked]
            rfl
          exact settingUp_of_collector fits known

theorem setUp_of_not_fits (environment : Environment) {address : Option String}
    (bad : ¬ AddressFits address) :
    ∃ error, setUp environment address = .error (.badAddress error) := by
  have ending := setUp_settingUp environment address
  generalize setUp environment address = result at ending ⊢
  cases ending with
  | badAddress text error given nonempty checked => exact ⟨error, rfl⟩
  | splitCharacter split fits unread => exact absurd fits bad
  | done collector log fits read => exact absurd fits bad

theorem setUp_of_fits (environment : Environment) {address : Option String}
    (fits : AddressFits address) :
    (∃ split, Log.ofEnvironment environment = .error split ∧
        setUp environment address = .error (.splitCharacter split)) ∨
      ∃ collector log, Log.ofEnvironment environment = .ok log ∧
        setUp environment address = .ok (collector, log) := by
  have ending := setUp_settingUp environment address
  generalize setUp environment address = result at ending ⊢
  cases ending with
  | badAddress text error given nonempty checked =>
      obtain ⟨found, valid⟩ := fits text given nonempty
      rw [valid] at checked
      cases checked
  | splitCharacter split _ unread => exact Or.inl ⟨split, unread, rfl⟩
  | done collector log _ read => exact Or.inr ⟨collector, log, read, rfl⟩

def Environment.colouring (environment : Environment) : Colouring :=
  if isFilled environment.noColour then .plain else .coloured

theorem Log.ofEnvironment_ok {environment : Environment} {log : Log}
    (read : Log.ofEnvironment environment = .ok log) :
    Filter.ofVariable environment.log .warn = .ok log.filters.log ∧
      log.colouring =
        if Environment.isFilled environment.noColour then .plain else .coloured := by
  unfold ofEnvironment at read
  cases collectorRead : Filter.ofVariable environment.collectorLog .info with
  | error split =>
      rw [collectorRead] at read
      cases read
  | ok collector =>
      cases logRead : Filter.ofVariable environment.log .warn with
      | error split =>
          rw [collectorRead, logRead] at read
          cases read
      | ok filter =>
          rw [collectorRead, logRead] at read
          cases read
          exact ⟨rfl, rfl⟩

theorem Log.ofEnvironment_of_filters {environment : Environment} {collector filter : Filter}
    (readCollector : Filter.ofVariable environment.collectorLog .info = .ok collector)
    (readLog : Filter.ofVariable environment.log .warn = .ok filter) :
    Log.ofEnvironment environment = .ok ⟨⟨collector, filter⟩, environment.colouring⟩ := by
  rw [ofEnvironment, readCollector, Except.bind, readLog]
  rfl

end ScoreSheet
