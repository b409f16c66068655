import ScoreSheet.Session

/-!
When reading a filter does not stop at a character that it would cut.  The texts of a
directive are cut from its piece at positions counted without the blanks in front.
So no cut is inside a character if no blank is in front, or if every character is a
single byte.
-/

namespace ScoreSheet

def byteLength : List Char → Nat
  | [] => 0
  | character :: rest => character.utf8Size + byteLength rest

theorem byteLength_append (first second : List Char) :
    byteLength (first ++ second) = byteLength first + byteLength second := by
  induction first with
  | nil => exact (Nat.zero_add _).symm
  | cons character rest ih => rw [List.cons_append, byteLength, byteLength, ih, Nat.add_assoc]

theorem byteLength_singleton (character : Char) : byteLength [character] = character.utf8Size :=
  Nat.add_zero _

def IsCut (text : List Char) (position : Nat) : Prop :=
  ∃ sides, splitAtByte position 0 text = .ok sides

theorem splitAtByte_append (before after : List Char) (first : Nat) :
    splitAtByte (first + byteLength before) first (before ++ after) = .ok (before, after) := by
  induction before generalizing first with
  | nil =>
      cases after with
      | nil => rfl
      | cons character rest => simp [splitAtByte, byteLength]
  | cons character rest ih =>
      have size := character.utf8Size_pos
      rw [List.cons_append, byteLength, splitAtByte, if_neg (by omega), if_neg (by omega),
        ← Nat.add_assoc, ih]
      rfl

theorem isCut_of_append (before after : List Char) :
    IsCut (before ++ after) (byteLength before) := by
  have split := splitAtByte_append before after 0
  rw [Nat.zero_add] at split
  exact ⟨_, split⟩

theorem splitAtByte_of_single {text : List Char}
    (single : ∀ character ∈ text, character.utf8Size = 1) (position first : Nat) :
    ∃ sides, splitAtByte position first text = .ok sides := by
  induction text generalizing first with
  | nil => exact ⟨_, rfl⟩
  | cons character rest ih =>
      have size := single character List.mem_cons_self
      rw [splitAtByte]
      split
      · exact ⟨_, rfl⟩
      · rw [if_neg (by omega)]
        obtain ⟨sides, split⟩ := ih (fun other member =>
          single other (List.mem_cons_of_mem character member)) (first + character.utf8Size)
        rw [split]
        exact ⟨_, rfl⟩

theorem splitText_of_isCut {text : List Char} {position : Nat} (side : CutEnd)
    (isCut : IsCut text position) : ∃ sides, splitText side text position = .ok sides := by
  obtain ⟨sides, split⟩ := isCut
  exact ⟨sides, by rw [splitText, split]; rfl⟩

namespace Directive

theorem textAt_of_isCut {piece : List Char} {start stop : Nat} (startCut : IsCut piece start)
    (stopCut : IsCut piece stop) : ∃ text, textAt piece start stop = .ok text := by
  obtain ⟨sides, split⟩ := splitText_of_isCut .start startCut
  obtain ⟨otherSides, otherSplit⟩ := splitText_of_isCut .stop stopCut
  exact ⟨_, by rw [textAt, cut, split, Except.bind, otherSplit]; rfl⟩

theorem textFrom_of_isCut {piece : List Char} {start : Nat} (startCut : IsCut piece start) :
    ∃ text, textFrom piece start = .ok text := by
  obtain ⟨sides, split⟩ := splitText_of_isCut .start startCut
  exact ⟨_, by rw [textFrom, cutFrom, split]; rfl⟩

def Place.Fits (piece : List Char) : Place → Prop
  | .word position | .span position | .field position | .level position => IsCut piece position
  | _ => True

/-- Reading goes on at a place that fits, or ends because there is no directive. -/
def GoesOn (piece : List Char) : Except DirectiveError (Place × Directive) → Prop
  | .ok (place, _) => place.Fits piece
  | .error .malformed => True
  | .error (.splitCharacter _) => False

theorem step_goesOn {piece : List Char} {place : Place} (found : Directive) {position : Nat}
    {character : Char} (fits : place.Fits piece) (here : IsCut piece position)
    (after : IsCut piece (position + character.utf8Size)) :
    GoesOn piece (step piece place found position character) := by
  unfold step
  split
  · exact after
  · split
    · exact here
    · trivial
  · obtain ⟨target, read⟩ := textAt_of_isCut fits here
    rw [read]
    exact after
  · obtain ⟨target, read⟩ := textAt_of_isCut fits here
    rw [read]
    exact after
  · exact fits
  · obtain ⟨span, read⟩ := textAt_of_isCut fits here
    rw [read]
    trivial
  · obtain ⟨span, read⟩ := textAt_of_isCut fits here
    rw [read]
    exact after
  · exact fits
  · obtain ⟨field, read⟩ := textAt_of_isCut fits here
    rw [read, Except.bind]
    split
    · trivial
    · cases FieldDemand.read? field <;> trivial
  · exact fits
  · trivial
  · trivial
  · exact after
  · trivial
  · exact fits

theorem finish_ne_splitCharacter {piece : List Char} {place : Place} (found : Directive)
    (fits : place.Fits piece) (split : SplitCharacter) :
    finish piece place found ≠ .error (.splitCharacter split) := by
  unfold finish
  split
  · obtain ⟨word, read⟩ := textFrom_of_isCut fits
    rw [read]
    exact fun impossible => by cases impossible
  · obtain ⟨word, read⟩ := textFrom_of_isCut fits
    rw [read, Except.bind]
    split
    · exact fun impossible => by cases impossible
    · cases Threshold.read? word <;> exact fun impossible => by cases impossible
  · exact fun impossible => by cases impossible
  · exact fun impossible => by cases impossible

/-! ### Whole pieces -/

theorem readFrom_ne_splitCharacter {piece : List Char} {place : Place} (found : Directive)
    (fits : place.Fits piece) (before rest : List Char)
    (isCut : ∀ earlier later, before ++ rest = earlier ++ later → IsCut piece (byteLength earlier))
    (split : SplitCharacter) :
    readFrom piece place found (byteLength before) rest ≠ .error (.splitCharacter split) := by
  -- Each position that is reached is the length of what has been read.
  induction rest generalizing before place found with
  | nil => exact finish_ne_splitCharacter found fits split
  | cons character rest ih =>
      have here := isCut before (character :: rest) rfl
      have after := isCut (before ++ [character]) rest (by simp)
      rw [byteLength_append, byteLength_singleton] at after
      have goesOn := step_goesOn found fits here after
      rw [readFrom]
      cases stepped : step piece place found (byteLength before) character with
      | error error =>
          rw [stepped] at goesOn
          cases error with
          | malformed => exact fun impossible => by cases impossible
          | splitCharacter _ => exact absurd goesOn id
      | ok next =>
          rw [stepped] at goesOn
          have later := ih next.2 goesOn (before ++ [character]) (by simpa using isCut)
          rw [byteLength_append, byteLength_singleton] at later
          exact later

/-- A piece that no cut is inside a character of: nothing blank is in front of it, or
each of its characters is a single byte. -/
def IsPlain (piece : List Char) : Prop :=
  piece.head?.any isBlank = false ∨ ∀ character ∈ piece, character.utf8Size = 1

theorem trimBlanks_prefix {text : List Char} (unblanked : text.head?.any isBlank = false) :
    trimBlanks text <+: text := by
  have front : text.dropWhile isBlank = text := by
    cases text with
    | nil => rfl
    | cons first rest =>
        have solid : isBlank first = false := unblanked
        rw [List.dropWhile_cons, solid]
        rfl
  rw [trimBlanks, front]
  have back := List.reverse_prefix.mpr (List.dropWhile_suffix isBlank (l := text.reverse))
  rwa [List.reverse_reverse] at back

theorem read_ne_splitCharacter {piece : List Char} (plain : IsPlain piece)
    (split : SplitCharacter) : read piece ≠ .error (.splitCharacter split) := by
  have fits : Place.start.Fits piece := trivial
  refine readFrom_ne_splitCharacter everything fits [] (trimBlanks piece) ?_ split
  intro earlier later whole
  rcases plain with unblanked | single
  · obtain ⟨trailing, piece⟩ := trimBlanks_prefix unblanked
    rw [List.nil_append] at whole
    rw [whole, List.append_assoc] at piece
    rw [← piece]
    exact isCut_of_append earlier _
  · exact splitAtByte_of_single single _ _

end Directive

theorem Except.mapM_error {α β ε : Type} {items : List α} {f : α → Except ε β} {error : ε}
    (failed : items.mapM f = .error error) : ∃ item ∈ items, f item = .error error := by
  induction items with
  | nil => cases failed
  | cons head rest ih =>
      rw [List.mapM_cons] at failed
      cases first : f head with
      | error cause =>
          rw [first] at failed
          cases failed
          exact ⟨head, List.mem_cons_self, first⟩
      | ok value =>
          rw [first] at failed
          cases others : rest.mapM f with
          | error cause =>
              rw [others] at failed
              cases failed
              obtain ⟨item, member, itemFailed⟩ := ih others
              exact ⟨item, List.mem_cons_of_mem head member, itemFailed⟩
          | ok values =>
              rw [others] at failed
              cases failed

theorem Except.mapM_ok {α β ε : Type} {items : List α} {f : α → Except ε β} {values : List β}
    (done : items.mapM f = .ok values) : ∀ item ∈ items, ∃ value, f item = .ok value := by
  induction items generalizing values with
  | nil => exact List.forall_mem_nil _
  | cons head rest ih =>
      rw [List.mapM_cons] at done
      cases first : f head with
      | error cause =>
          rw [first] at done
          cases done
      | ok value =>
          rw [first] at done
          cases others : rest.mapM f with
          | error cause =>
              rw [others] at done
              cases done
          | ok more =>
              intro item member
              rcases List.mem_cons.mp member with rfl | later
              · exact ⟨value, first⟩
              · exact ih others item later

def IsPlainSetting (setting : Option String) : Prop :=
  ∀ text, setting = some text → ∀ piece ∈ splitOnChar ',' text.toList, Directive.IsPlain piece

theorem Filter.ofVariable_of_plain {setting : Option String} (plain : IsPlainSetting setting)
    (otherwise : Level) : ∃ filter, Filter.ofVariable setting otherwise = .ok filter := by
  unfold ofVariable
  split
  · exact ⟨_, rfl⟩
  · next split read =>
      obtain ⟨text, set, readText⟩ := Option.map_eq_some_iff.mp read
      obtain ⟨piece, member, stopped⟩ := Except.mapM_error readText
      have pieces := (List.mem_filter.mp member).1
      exact absurd stopped (Directive.read_ne_splitCharacter (plain text set piece pieces) split)
  · exact ⟨_, rfl⟩
  · exact ⟨_, rfl⟩

theorem Filter.ofVariable_of_malformed {text : String} {piece : List Char} {otherwise : Level}
    {filter : Filter} (member : piece ∈ splitOnChar ',' text.toList) (nonempty : piece ≠ [])
    (unread : ∀ directive, Directive.read piece ≠ .ok directive)
    (read : ofVariable (some text) otherwise = .ok filter) : filter = ofProgram otherwise := by
  rw [ofVariable, Option.map_some] at read
  cases list : Directive.readList text with
  | ok directives =>
      have kept : piece ∈ (splitOnChar ',' text.toList).filter (· ≠ []) :=
        List.mem_filter.mpr ⟨member, by simpa using nonempty⟩
      obtain ⟨directive, pieceRead⟩ := Except.mapM_ok list piece kept
      exact absurd pieceRead (unread directive)
  | error error =>
      rw [list] at read
      cases error with
      | malformed => exact (Except.ok.inj read).symm
      | splitCharacter split => cases read

theorem Log.ofEnvironment_of_plain {environment : Environment}
    (plainCollector : IsPlainSetting environment.collectorLog)
    (plainLog : IsPlainSetting environment.log) :
    ∃ log, Log.ofEnvironment environment = .ok log := by
  obtain ⟨collector, readCollector⟩ := Filter.ofVariable_of_plain plainCollector .info
  obtain ⟨log, readLog⟩ := Filter.ofVariable_of_plain plainLog .warn
  exact ⟨_, by rw [ofEnvironment, readCollector, Except.bind, readLog]; rfl⟩

end ScoreSheet
