import Mathlib.Data.List.Nodup
import ScoreSheet.Proofs.Run.Ending

/-!
Which value of a setting is used: that of the command line, else that of its variable,
else the default.  A command line of settings is read by taking them up one after the
other, however each is spelled; this is the induction over the words.  What settings that
are each given once leave behind does then not depend on their order, and a setting that
is given twice is always refused.
-/

namespace ScoreSheet
namespace CommandLine

inductive Spelling where
  | apart
  | joined
deriving DecidableEq, Repr

/-- A setting on a command line, with its value in the next word or after an equals sign.
A value in a word of its own does not begin with a dash. -/
structure Occurrence where
  setting : Setting
  value : String
  spelling : Spelling
  undashed : spelling = .apart → value.toList.head? ≠ some '-'

namespace Occurrence

def words (occurrence : Occurrence) : List String :=
  match occurrence.spelling with
  | .apart => ["--" ++ occurrence.setting.name, occurrence.value]
  | .joined => ["--" ++ occurrence.setting.name ++ "=" ++ occurrence.value]

def content (occurrence : Occurrence) : Setting × String :=
  (occurrence.setting, occurrence.value)

end Occurrence

def words (occurrences : List Occurrence) : List String :=
  occurrences.flatMap Occurrence.words

def settings (occurrences : List Occurrence) : List Setting :=
  occurrences.map Occurrence.setting

def valueOf? (setting : Setting) (occurrences : List Occurrence) : Option String :=
  (occurrences.find? fun occurrence => occurrence.setting = setting).map Occurrence.value

def chosenAddress (environment : Environment) (occurrences : List Occurrence) : Option String :=
  valueOf? .address occurrences <|> environment.address

def chosenRateText (environment : Environment) (occurrences : List Occurrence) : String :=
  (valueOf? .sampleRate occurrences <|> environment.sampleRate).getD "0.1"

def readRate (text : String) : Except CommandLineError Binary32 :=
  (Binary32.read? text).mapError (.invalidRate text)

def takeOne (reading : Reading) (setting : Setting) (value : String) :
    Except CommandLineError Reading :=
  match reading.take setting value with
  | (_, some error) => .error error
  | (taken, none) => .ok taken

def takeAll (reading : Reading) : List Occurrence → Except CommandLineError Reading
  | [] => .ok reading
  | occurrence :: rest =>
      (takeOne reading occurrence.setting occurrence.value).bind fun taken => takeAll taken rest

/-! ### Words -/

section

variable {reading : Reading} {setting : Setting} {value : String}

theorem ofText_name (setting : Setting) :
    Token.ofText ("--" ++ setting.name) = .named setting.name none := by
  cases setting <;> decide +kernel

theorem ofText_joined (setting : Setting) (value : String) :
    Token.ofText ("--" ++ setting.name ++ "=" ++ value) = .named setting.name (some value) := by
  unfold Token.ofText
  cases setting <;> simp [Setting.name, String.toList_append]

theorem ofText_operand (undashed : value.toList.head? ≠ some '-') :
    Token.ofText value = .operand value := by
  unfold Token.ofText
  split
  · simp_all
  · simp_all
  · simp_all
  · rfl

theorem ofName?_name (setting : Setting) :
    Argument.ofName? setting.name = some (.setting setting) := by
  cases setting <;> decide

theorem readAll_cons {word : String} {token : Token} (rest : List String)
    (tokenised : Token.ofText word = token) (continues : token ≠ .endOfOptions) :
    reading.readAll (word :: rest) = (reading.step token).bind fun next => next.readAll rest := by
  subst tokenised
  rw [Reading.readAll.eq_def]
  dsimp only
  split
  · contradiction
  · cases reading.step (Token.ofText word) <;> rfl

theorem step_name (reading : Reading) (setting : Setting) :
    reading.step (.named setting.name none) =
      reading.afterSettling fun settled =>
        .ok { settled with pending := some (setting, none) } := by
  simp only [Reading.step, ofName?_name]

theorem step_joined (reading : Reading) (setting : Setting) (value : String) :
    reading.step (.named setting.name (some value)) =
      reading.afterSettling fun settled => takeOne settled setting value := by
  simp only [Reading.step, ofName?_name]
  rfl

theorem pending_take (reading : Reading) (setting : Setting) (value : String) :
    (reading.take setting value).1.pending = reading.pending := by
  unfold Reading.take
  cases setting with
  | address => split <;> rfl
  | sampleRate =>
      split
      · rfl
      · cases Binary32.read? value <;> rfl

theorem pending_settle (reading : Reading) : reading.settle.1.pending = none := by
  unfold Reading.settle
  rcases reading.pending with _ | ⟨setting, _ | value⟩
  · rfl
  · rfl
  · exact pending_take _ setting value

theorem afterSettling_of_settled {α : Type} (idle : reading.pending = none)
    (next : Reading → Except CommandLineError α) : reading.afterSettling next = next reading := by
  cases reading
  cases idle
  rfl

theorem afterSettling_waiting {α : Type} (idle : reading.pending = none)
    (next : Reading → Except CommandLineError α) :
    ({ reading with pending := some (setting, some value) } : Reading).afterSettling next =
      (takeOne reading setting value).bind next := by
  have settles : ({ reading with pending := some (setting, some value) } : Reading).settle =
      reading.take setting value := by
    cases reading
    cases idle
    rfl
  rw [Reading.afterSettling, settles, takeOne]
  rcases reading.take setting value with ⟨taken, _ | error⟩ <;> rfl

theorem afterSettling_congr {α : Type} {next other : Reading → Except CommandLineError α}
    (agree : ∀ settled : Reading, settled.pending = none → next settled = other settled) :
    reading.afterSettling next = reading.afterSettling other := by
  have idle := pending_settle reading
  unfold Reading.afterSettling
  generalize reading.settle = settling at idle
  rcases settling with ⟨settled, _ | error⟩
  · exact agree settled idle
  · rfl

theorem afterSettling_bind {α β : Type} (next : Reading → Except CommandLineError α)
    (later : α → Except CommandLineError β) :
    (reading.afterSettling next).bind later =
      reading.afterSettling fun settled => (next settled).bind later := by
  unfold Reading.afterSettling
  rcases reading.settle with ⟨settled, _ | error⟩ <;> rfl

theorem pending_takeOne {taken : Reading} (ready : takeOne reading setting value = .ok taken) :
    taken.pending = reading.pending := by
  have still := pending_take reading setting value
  unfold takeOne at ready
  generalize reading.take setting value = taking at ready still
  rcases taking with ⟨next, _ | error⟩
  · cases ready
    exact still
  · cases ready

end

/-- The words of settings are read as the settings are taken up, after what still waits. -/
theorem readAll_words (reading : Reading) (occurrences : List Occurrence) :
    reading.readAll (words occurrences) =
      reading.afterSettling fun settled => takeAll settled occurrences := by
  induction occurrences generalizing reading with
  | nil => rfl
  | cons occurrence rest ih =>
      obtain ⟨setting, value, spelling, undashed⟩ := occurrence
      cases spelling with
      | apart =>
          change reading.readAll (("--" ++ setting.name) :: value :: words rest) = _
          rw [readAll_cons _ (ofText_name setting) (by simp), step_name, afterSettling_bind]
          apply afterSettling_congr
          intro settled idle
          have operand := ofText_operand (undashed rfl)
          change Reading.readAll { settled with pending := some (setting, none) } _ = _
          rw [readAll_cons _ operand (by simp)]
          change Reading.readAll { settled with pending := some (setting, some value) } _ = _
          rw [ih, afterSettling_waiting idle, takeAll]
      | joined =>
          change reading.readAll (("--" ++ setting.name ++ "=" ++ value) :: words rest) = _
          rw [readAll_cons _ (ofText_joined setting value) (by simp), step_joined,
            afterSettling_bind]
          apply afterSettling_congr
          intro settled idle
          rw [takeAll]
          cases taking : takeOne settled setting value with
          | error error => rfl
          | ok taken =>
              have still := (pending_takeOne taking).trans idle
              change taken.readAll (words rest) = takeAll taken rest
              rw [ih, afterSettling_of_settled still]

section

variable {occurrence : Occurrence} {occurrences others rest : List Occurrence}
  {setting : Setting} {value : String}

theorem valueOf?_cons (setting : Setting) :
    valueOf? setting (occurrence :: rest) =
      if occurrence.setting = setting then some occurrence.value else valueOf? setting rest := by
  unfold valueOf?
  rw [List.find?_cons]
  by_cases same : occurrence.setting = setting <;> simp [same]

theorem valueOf?_eq_none (absent : setting ∉ settings occurrences) :
    valueOf? setting occurrences = none := by
  rw [valueOf?, Option.map_eq_none_iff, List.find?_eq_none]
  intro occurrence member same
  exact absent (List.mem_map.mpr ⟨occurrence, member, of_decide_eq_true same⟩)

theorem valueOf?_eq_some_iff (distinct : (settings occurrences).Nodup) :
    valueOf? setting occurrences = some value ↔
      (setting, value) ∈ occurrences.map Occurrence.content := by
  rw [valueOf?, Option.map_eq_some_iff, List.mem_map]
  constructor
  · rintro ⟨occurrence, found, rfl⟩
    have same : occurrence.setting = setting := by simpa using List.find?_some found
    exact ⟨occurrence, List.mem_of_find?_eq_some found, by rw [← same, Occurrence.content]⟩
  · rintro ⟨occurrence, member, content⟩
    obtain ⟨same, rfl⟩ := Prod.mk.inj content
    have present : (occurrences.find? fun other => other.setting = setting).isSome = true :=
      List.find?_isSome.mpr ⟨occurrence, member, decide_eq_true same⟩
    obtain ⟨first, found⟩ := Option.isSome_iff_exists.mp present
    have firstSame : first.setting = setting := by simpa using List.find?_some found
    have only := List.inj_on_of_nodup_map distinct (List.mem_of_find?_eq_some found) member
      (firstSame.trans same.symm)
    exact ⟨first, found, by rw [only]⟩

theorem settings_eq_map_content (occurrences : List Occurrence) :
    settings occurrences = (occurrences.map Occurrence.content).map Prod.fst := by
  rw [List.map_map]
  rfl

theorem nodup_of_perm (distinct : (settings occurrences).Nodup)
    (same : (others.map Occurrence.content).Perm (occurrences.map Occurrence.content)) :
    (settings others).Nodup := by
  rw [settings_eq_map_content] at distinct ⊢
  exact (same.map Prod.fst).nodup_iff.mpr distinct

theorem valueOf?_of_perm (distinct : (settings occurrences).Nodup)
    (same : (others.map Occurrence.content).Perm (occurrences.map Occurrence.content)) :
    valueOf? setting others = valueOf? setting occurrences := by
  have otherDistinct := nodup_of_perm distinct same
  ext value
  rw [valueOf?_eq_some_iff distinct, valueOf?_eq_some_iff otherDistinct, same.mem_iff]

end

/-! ### Taking settings up -/

section

variable {reading taken : Reading} {occurrences : List Occurrence} {setting : Setting}
  {value : String} {error : CommandLineError}

theorem takeOne_repeated (again : setting ∈ reading.given) (value : String) :
    takeOne reading setting value = .error (.repeated setting) := by
  rw [takeOne, Reading.take, if_pos (by simpa using again)]

theorem takeOne_address (fresh : .address ∉ reading.given) (value : String) :
    takeOne reading .address value =
      .ok { reading with given := reading.given ++ [.address], address := some value } := by
  rw [takeOne, Reading.take, if_neg (by simpa using fresh)]

theorem takeOne_sampleRate (fresh : .sampleRate ∉ reading.given) (value : String) :
    takeOne reading .sampleRate value =
      (readRate value).map fun rate =>
        { reading with given := reading.given ++ [.sampleRate], sampleRate := some rate } := by
  rw [takeOne, Reading.take, if_neg (by simpa using fresh), readRate]
  cases Binary32.read? value <;> rfl

theorem takeOne_cases (reading : Reading) (setting : Setting) (value : String) :
    (∃ error, takeOne reading setting value = .error error ∧ error.isRequest = false) ∨
      ∃ taken, takeOne reading setting value = .ok taken ∧ setting ∉ reading.given ∧
        taken.given = reading.given ++ [setting] := by
  by_cases again : setting ∈ reading.given
  · exact Or.inl ⟨_, takeOne_repeated again value, rfl⟩
  · cases setting with
    | address => exact Or.inr ⟨_, takeOne_address again value, again, rfl⟩
    | sampleRate =>
        rw [takeOne_sampleRate again, readRate]
        cases Binary32.read? value with
        | error cause => exact Or.inl ⟨_, rfl, rfl⟩
        | ok rate => exact Or.inr ⟨_, rfl, again, rfl⟩

theorem takeAll_of_nodup (distinct : (settings occurrences).Nodup)
    (fresh : ∀ setting ∈ settings occurrences, setting ∉ reading.given) :
    takeAll reading occurrences =
      match valueOf? .sampleRate occurrences with
      | none =>
          .ok { reading with
            given := reading.given ++ settings occurrences
            address := valueOf? .address occurrences <|> reading.address }
      | some text =>
          (readRate text).map fun rate =>
            { reading with
              given := reading.given ++ settings occurrences
              address := valueOf? .address occurrences <|> reading.address
              sampleRate := some rate } := by
  induction occurrences generalizing reading with
  | nil => simp [takeAll, settings, valueOf?]
  | cons occurrence rest ih =>
      obtain ⟨setting, value, spelling, undashed⟩ := occurrence
      obtain ⟨once, restDistinct⟩ := List.nodup_cons.mp distinct
      have new : setting ∉ reading.given := fresh setting (List.mem_cons_self ..)
      have restFresh : ∀ other ∈ settings rest, other ∉ reading.given ++ [setting] := by
        intro other member
        rw [List.mem_append, List.mem_singleton, not_or]
        refine ⟨fresh other (List.mem_cons_of_mem _ member), ?_⟩
        rintro rfl
        exact once member
      rw [takeAll]
      cases setting with
      | address =>
          rw [takeOne_address new, Except.bind, ih restDistinct restFresh]
          simp [valueOf?_cons, valueOf?_eq_none once, settings]
      | sampleRate =>
          rw [takeOne_sampleRate new]
          cases rated : readRate value with
          | error error => simp [valueOf?_cons, rated, Except.map, Except.bind]
          | ok rate =>
              simp only [Except.map, Except.bind]
              rw [ih restDistinct restFresh]
              simp [valueOf?_cons, valueOf?_eq_none once, rated, settings]

theorem takeAll_cons_error {occurrence : Occurrence} (rest : List Occurrence)
    (refused : takeOne reading occurrence.setting occurrence.value = .error error) :
    takeAll reading (occurrence :: rest) = .error error := by
  rw [takeAll, refused]
  rfl

theorem takeAll_cons_ok {occurrence : Occurrence} (rest : List Occurrence)
    (ready : takeOne reading occurrence.setting occurrence.value = .ok taken) :
    takeAll reading (occurrence :: rest) = takeAll taken rest := by
  rw [takeAll, ready]
  rfl

theorem takeAll_cases (distinct : reading.given.Nodup) (occurrences : List Occurrence) :
    (∃ error, takeAll reading occurrences = .error error ∧ error.isRequest = false) ∨
      (∃ taken, takeAll reading occurrences = .ok taken) ∧
        (reading.given ++ settings occurrences).Nodup := by
  induction occurrences generalizing reading with
  | nil => exact Or.inr ⟨⟨reading, rfl⟩, by simpa [settings] using distinct⟩
  | cons occurrence rest ih =>
      rcases takeOne_cases reading occurrence.setting occurrence.value with
        ⟨error, refused, mistake⟩ | ⟨next, ready, new, given⟩
      · exact Or.inl ⟨error, takeAll_cons_error rest refused, mistake⟩
      · have nextDistinct : next.given.Nodup := by
          rw [given]
          exact distinct.append (List.nodup_singleton _) (by simpa using new)
        have whole := ih nextDistinct
        rw [given, List.append_assoc] at whole
        rw [takeAll_cons_ok rest ready]
        exact whole

end

/-! ### Options -/

section

variable {environment : Environment} {occurrences others : List Occurrence}

theorem read_words (environment : Environment) (occurrences : List Occurrence) :
    Options.read environment (words occurrences) =
      (takeAll {} occurrences).bind fun reading => reading.complete environment := by
  rw [Options.read, readAll_words, afterSettling_of_settled rfl]
  cases takeAll {} occurrences <;> rfl

theorem read_words_of_nodup (environment : Environment)
    (distinct : (settings occurrences).Nodup) :
    Options.read environment (words occurrences) =
      (readRate (chosenRateText environment occurrences)).map fun rate =>
        ⟨chosenAddress environment occurrences, rate⟩ := by
  rw [read_words, takeAll_of_nodup distinct (fun _ _ given => by cases given)]
  cases given : valueOf? .sampleRate occurrences with
  | none =>
      have chosen : chosenRateText environment occurrences =
          environment.sampleRate.getD CommandLineError.defaultRate := by
        rw [chosenRateText, given]
        rfl
      rw [chosen, readRate]
      simp only [Except.bind, Reading.complete]
      cases Binary32.read? (environment.sampleRate.getD CommandLineError.defaultRate) with
      | error cause => rfl
      | ok rate => simp [Except.mapError, Except.map, chosenAddress]
  | some text =>
      have chosen : chosenRateText environment occurrences = text := by
        rw [chosenRateText, given]
        rfl
      rw [chosen]
      dsimp only
      cases readRate text with
      | error error => rfl
      | ok rate => simp [Except.map, Except.bind, Reading.complete, chosenAddress]

theorem read_words_eq_ok_iff (distinct : (settings occurrences).Nodup) (options : Options) :
    Options.read environment (words occurrences) = .ok options ↔
      options.address = chosenAddress environment occurrences ∧
        Binary32.read? (chosenRateText environment occurrences) = .ok options.sampleRate := by
  rw [read_words_of_nodup environment distinct, readRate]
  obtain ⟨address, sampleRate⟩ := options
  cases Binary32.read? (chosenRateText environment occurrences) with
  | error cause => simp [Except.mapError, Except.map]
  | ok rate => simp [Except.mapError, Except.map, eq_comm]

theorem read_words_eq_error_iff (distinct : (settings occurrences).Nodup)
    (error : CommandLineError) :
    Options.read environment (words occurrences) = .error error ↔
      ∃ cause, Binary32.read? (chosenRateText environment occurrences) = .error cause ∧
        error = .invalidRate (chosenRateText environment occurrences) cause := by
  rw [read_words_of_nodup environment distinct, readRate]
  cases Binary32.read? (chosenRateText environment occurrences) with
  | error cause => simp [Except.mapError, Except.map, eq_comm]
  | ok rate => simp [Except.mapError, Except.map]

theorem read_words_of_perm (distinct : (settings occurrences).Nodup)
    (same : (others.map Occurrence.content).Perm (occurrences.map Occurrence.content)) :
    Options.read environment (words others) = Options.read environment (words occurrences) := by
  have otherDistinct := nodup_of_perm distinct same
  simp only [read_words_of_nodup environment distinct,
    read_words_of_nodup environment otherDistinct, chosenRateText, chosenAddress,
    valueOf?_of_perm distinct same]

theorem read_words_of_repeated (environment : Environment)
    (repeats : ¬ (settings occurrences).Nodup) :
    ∃ error, Options.read environment (words occurrences) = .error error ∧
      error.isRequest = false := by
  rw [read_words]
  have empty : ({} : Reading).given.Nodup := List.nodup_nil
  rcases takeAll_cases empty occurrences with
    ⟨error, refused, mistake⟩ | ⟨_, distinct⟩
  · exact ⟨error, by rw [refused]; rfl, mistake⟩
  · exact absurd distinct repeats

end

/-- Settings that are each given once, in any order and spelling: the address is that of
the command line, else that of the environment; the rate is the first text of the command
line, the environment and the default, and it alone has to be a number. A setting that is
given again is never accepted. What is refused ends the run with exit code 2. -/
theorem read_words_chooses (environment : Environment) (occurrences : List Occurrence) :
    ((settings occurrences).Nodup →
      (∀ options, Options.read environment (words occurrences) = .ok options ↔
        options.address = (valueOf? .address occurrences <|> environment.address) ∧
          Binary32.read? (chosenRateText environment occurrences) = .ok options.sampleRate) ∧
      (∀ error, Options.read environment (words occurrences) = .error error ↔
        ∃ cause, Binary32.read? (chosenRateText environment occurrences) = .error cause ∧
          error = .invalidRate (chosenRateText environment occurrences) cause) ∧
      (valueOf? .sampleRate occurrences ≠ none → ∀ rate,
        Options.read { environment with sampleRate := rate } (words occurrences) =
          Options.read environment (words occurrences)) ∧
      ∀ others : List Occurrence,
        (others.map Occurrence.content).Perm (occurrences.map Occurrence.content) →
          Options.read environment (words others) =
            Options.read environment (words occurrences)) ∧
      (¬ (settings occurrences).Nodup →
        ∃ error, Options.read environment (words occurrences) = .error error) ∧
      ∀ error, Options.read environment (words occurrences) = .error error → ∀ stdout,
        Run.outcome environment (words occurrences) stdout =
          .exited 2 [] (error.printed programName environment) := by
  refine ⟨?_, ?_, ?_⟩
  · intro distinct
    refine ⟨read_words_eq_ok_iff distinct, read_words_eq_error_iff distinct, ?_,
      fun others same => read_words_of_perm distinct same⟩
    intro given rate
    obtain ⟨text, given⟩ := Option.ne_none_iff_exists'.mp given
    rw [read_words_of_nodup _ distinct, read_words_of_nodup _ distinct]
    simp only [chosenRateText, chosenAddress, given]
    rfl
  · intro repeats
    obtain ⟨error, read, _⟩ := read_words_of_repeated environment repeats
    exact ⟨error, read⟩
  · intro error read stdout
    apply Run.outcome_of_mistake read
    by_cases distinct : (settings occurrences).Nodup
    · obtain ⟨cause, _, rfl⟩ := (read_words_eq_error_iff distinct error).mp read
      rfl
    · obtain ⟨other, otherRead, mistake⟩ := read_words_of_repeated environment distinct
      rw [read] at otherRead
      cases otherRead
      exact mistake

example :
    Options.read { address := some "a", sampleRate := some "x" }
      ["--traces-sample-rate=0.5", "--sentry-dsn", "b=c"] = .ok ⟨some "b=c", ⟨0x3f000000⟩⟩ := by
  decide +kernel

end CommandLine
end ScoreSheet
