import ScoreSheet.Proofs.Log.Cuts

/-!
Filters written as a list of plain directives, each a target and a level or a level
alone.  Such a list is always readable, and what is read of it is its directives in
their order.
-/

namespace ScoreSheet

def isTargetCharacter (character : Char) : Bool :=
  character.isAlphanum || character == '_' || character == ':'

/-- A character that stands for nothing but itself in a list of directives. -/
structure IsOrdinary (character : Char) : Prop where
  solid : isBlank character = false
  not_comma : character ≠ ','
  not_equals : character ≠ '='
  not_bracket : character ≠ '['

/-- A level for every target that begins with the given one. A level alone has the empty
target, with which every target begins. -/
structure PlainDirective where
  target : String
  level : String
  threshold : Threshold
  target_plain : ∀ character ∈ target.toList, isTargetCharacter character = true
  level_plain : ∀ character ∈ level.toList, character.isAlphanum = true
  level_read : Threshold.read? level.toList = some threshold

namespace PlainDirective

def ofTexts (target level : String)
    (plain : target.toList.all isTargetCharacter = true ∧
      level.toList.all Char.isAlphanum = true ∧ (Threshold.read? level.toList).isSome = true) :
    PlainDirective where
  target := target
  level := level
  threshold := (Threshold.read? level.toList).get plain.2.2
  target_plain := List.all_eq_true.mp plain.1
  level_plain := List.all_eq_true.mp plain.2.1
  level_read := (Option.some_get plain.2.2).symm

def text (directive : PlainDirective) : String :=
  if directive.target = "" then directive.level
  else directive.target ++ "=" ++ directive.level

def meaning (directive : PlainDirective) : Directive :=
  ⟨if directive.target = "" then none else some directive.target, none, none,
    directive.threshold⟩

def listText (directives : List PlainDirective) : String :=
  String.intercalate "," (directives.map text)

end PlainDirective

theorem code_of_isTargetCharacter {character : Char}
    (plain : isTargetCharacter character = true) :
    48 ≤ character.toNat ∧ character.toNat ≤ 58 ∨ 65 ≤ character.toNat ∧ character.toNat ≤ 90 ∨
      95 ≤ character.toNat ∧ character.toNat ≤ 122 := by
  change (((decide ('A'.val ≤ character.val ∧ character.val ≤ 'Z'.val) ||
    decide ('a'.val ≤ character.val) && decide (character.val ≤ 'z'.val)) ||
      decide ('0'.val ≤ character.val) && decide (character.val ≤ '9'.val)) ||
        character == '_' || character == ':') = true at plain
  simp only [Bool.or_eq_true, Bool.and_eq_true, decide_eq_true_eq, beq_iff_eq,
    UInt32.le_iff_toNat_le] at plain
  change ((((65 ≤ character.toNat ∧ character.toNat ≤ 90) ∨
    (97 ≤ character.toNat ∧ character.toNat ≤ 122)) ∨
      (48 ≤ character.toNat ∧ character.toNat ≤ 57)) ∨ character = '_') ∨ character = ':' at plain
  rcases plain with (((upper | lower) | digit) | rfl) | rfl
  · omega
  · omega
  · omega
  · decide
  · decide

theorem isOrdinary_of_isTargetCharacter {character : Char}
    (plain : isTargetCharacter character = true) : IsOrdinary character := by
  have code := code_of_isTargetCharacter plain
  constructor
  · simp only [isBlank, Bool.or_eq_false_iff, Bool.and_eq_false_iff, decide_eq_false_iff_not,
      beq_eq_false_iff_ne]
    omega
  all_goals
    rintro rfl
    revert code
    decide

theorem isTargetCharacter_of_isAlphanum {character : Char} (ascii : character.isAlphanum = true) :
    isTargetCharacter character = true := by
  simp [isTargetCharacter, ascii]

/-! ### Reading one directive -/

namespace Directive

section

variable {piece : List Char} {start position : Nat} {found : Directive}

theorem step_start {character : Char} (plain : isTargetCharacter character = true) :
    step piece .start found position character = .ok (.word position, found) := by
  have ordinary := isOrdinary_of_isTargetCharacter plain
  have begins : character = '-' ∨ character = ':' ∨ character = '_' ∨
      isAlphanumeric character = true := by
    simp only [isTargetCharacter, Bool.or_eq_true, beq_iff_eq] at plain
    rcases plain with (ascii | rfl) | rfl
    · exact Or.inr (Or.inr (Or.inr (isAlphanumeric_of_isAlphanum ascii)))
    · exact Or.inr (Or.inr (Or.inl rfl))
    · exact Or.inr (Or.inl rfl)
  simp [step, ordinary.not_bracket, begins]

theorem readFrom_word {word : List Char} (rest : List Char)
    (ordinary : ∀ character ∈ word, IsOrdinary character) :
    readFrom piece (.word start) found position (word ++ rest) =
      readFrom piece (.word start) found (position + byteLength word) rest := by
  induction word generalizing position with
  | nil => rfl
  | cons character others ih =>
      have first := ordinary character List.mem_cons_self
      have stays : step piece (.word start) found position character =
          .ok (.word start, found) := by
        simp [step, first.not_equals, first.not_bracket]
      rw [List.cons_append, readFrom, stays, byteLength, ← Nat.add_assoc]
      exact ih fun other member => ordinary other (List.mem_cons_of_mem character member)

theorem readFrom_level (rest : List Char) :
    readFrom piece (.level start) found position rest = finish piece (.level start) found := by
  induction rest generalizing position with
  | nil => rfl
  | cons character others ih => exact ih

end

theorem textAt_append (before after : List Char) :
    textAt (before ++ after) 0 (byteLength before) = .ok before := by
  have start := splitAtByte_append [] (before ++ after) 0
  have stop := splitAtByte_append before after 0
  rw [Nat.zero_add] at start stop
  simp only [textAt, cut, splitText, byteLength, List.nil_append] at start stop ⊢
  rw [start, stop]
  rfl

theorem textFrom_append (before after : List Char) :
    textFrom (before ++ after) (byteLength before) = .ok after := by
  have split := splitAtByte_append before after 0
  rw [Nat.zero_add] at split
  rw [textFrom, cutFrom, splitText, split]
  rfl

theorem read_of_word {word rest : List Char} (nonempty : word ≠ [])
    (plain : ∀ character ∈ word, isTargetCharacter character = true)
    (solid : ∀ character ∈ rest, isBlank character = false) :
    read (word ++ rest) =
      readFrom (word ++ rest) (.word 0) everything (byteLength word) rest := by
  have ordinary : ∀ character ∈ word, IsOrdinary character := fun character member =>
    isOrdinary_of_isTargetCharacter (plain character member)
  have trimmed : trimBlanks (word ++ rest) = word ++ rest := by
    apply trimBlanks_eq_self
    intro character member
    rcases List.mem_append.mp member with inWord | inRest
    · exact (ordinary character inWord).solid
    · exact solid character inRest
  cases word with
  | nil => contradiction
  | cons first others =>
      rw [read, trimmed, List.cons_append, readFrom, step_start (plain first List.mem_cons_self)]
      change readFrom _ (.word 0) everything _ (others ++ rest) = _
      rw [readFrom_word rest fun other member => ordinary other (List.mem_cons_of_mem first member),
        byteLength, Nat.zero_add]

theorem ne_nil_of_read? {word : List Char} {threshold : Threshold}
    (level : Threshold.read? word = some threshold) : word ≠ [] := by
  rintro rfl
  cases level

theorem read_level {word : List Char} {threshold : Threshold}
    (plain : ∀ character ∈ word, isTargetCharacter character = true)
    (level : Threshold.read? word = some threshold) :
    read word = .ok ⟨none, none, none, threshold⟩ := by
  have reads := read_of_word (ne_nil_of_read? level) plain (List.forall_mem_nil _)
  have text := textFrom_append [] word
  rw [List.append_nil] at reads
  rw [byteLength, List.nil_append] at text
  rw [reads, readFrom, finish, text]
  simp only [Except.map, level, everything]

theorem read_target {target word : List Char} {threshold : Threshold} (nonempty : target ≠ [])
    (plain : ∀ character ∈ target, isTargetCharacter character = true)
    (solid : ∀ character ∈ word, isBlank character = false)
    (level : Threshold.read? word = some threshold) :
    read (target ++ '=' :: word) = .ok ⟨some (String.ofList target), none, none, threshold⟩ := by
  have solidRest : ∀ character ∈ '=' :: word, isBlank character = false := by
    intro character member
    rcases List.mem_cons.mp member with rfl | inWord
    · decide
    · exact solid character inWord
  have before := textAt_append target ('=' :: word)
  have after := textFrom_append (target ++ ['=']) word
  have equalsSize : byteLength ['='] = 1 := rfl
  rw [byteLength_append, equalsSize, List.append_assoc, List.singleton_append] at after
  rw [read_of_word nonempty plain solidRest, readFrom, step, before]
  change readFrom _ (.level _) _ _ _ = _
  rw [readFrom_level, finish, after]
  simp only [Except.bind, ne_nil_of_read? level, if_false, level]
  rfl

end Directive

/-! ### Reading a list -/

namespace PlainDirective

theorem text_of_bare {directive : PlainDirective} (bare : directive.target = "") :
    directive.text.toList = directive.level.toList := by
  rw [text, if_pos bare]

theorem text_of_target {directive : PlainDirective} (targeted : directive.target ≠ "") :
    directive.text.toList = directive.target.toList ++ '=' :: directive.level.toList := by
  rw [text, if_neg targeted, String.toList_append, String.toList_append, List.append_assoc]
  rfl

theorem level_target (directive : PlainDirective) :
    ∀ character ∈ directive.level.toList, isTargetCharacter character = true :=
  fun character member => isTargetCharacter_of_isAlphanum (directive.level_plain character member)

theorem level_ordinary (directive : PlainDirective) :
    ∀ character ∈ directive.level.toList, IsOrdinary character := fun character member =>
  isOrdinary_of_isTargetCharacter (directive.level_target character member)

theorem read_text (directive : PlainDirective) :
    Directive.read directive.text.toList = .ok directive.meaning := by
  by_cases bare : directive.target = ""
  · rw [text_of_bare bare, Directive.read_level directive.level_target directive.level_read,
      meaning, if_pos bare]
  · have targeted : directive.target.toList ≠ [] := by
      simpa using bare
    have solid : ∀ character ∈ directive.level.toList, isBlank character = false :=
      fun character member => (directive.level_ordinary character member).solid
    rw [text_of_target bare,
      Directive.read_target targeted directive.target_plain solid directive.level_read,
      meaning, if_neg bare, String.ofList_toList]

theorem ne_comma_of_mem_text (directive : PlainDirective) {character : Char}
    (member : character ∈ directive.text.toList) : character ≠ ',' := by
  by_cases bare : directive.target = ""
  · rw [text_of_bare bare] at member
    exact (directive.level_ordinary character member).not_comma
  · rw [text_of_target bare, List.mem_append, List.mem_cons] at member
    rcases member with inTarget | rfl | inLevel
    · exact (isOrdinary_of_isTargetCharacter
        (directive.target_plain character inTarget)).not_comma
    · decide
    · exact (directive.level_ordinary character inLevel).not_comma

theorem text_ne_nil (directive : PlainDirective) : directive.text.toList ≠ [] := by
  by_cases bare : directive.target = ""
  · rw [text_of_bare bare]
    exact Directive.ne_nil_of_read? directive.level_read
  · rw [text_of_target bare]
    simp

theorem pieces_listText (directives : List PlainDirective) :
    (splitOnChar ',' (listText directives).toList).filter (· ≠ []) =
      directives.map fun directive => directive.text.toList := by
  by_cases none : directives = []
  · rw [none]
    rfl
  · have nonempty : (directives.map fun directive => directive.text.toList) ≠ [] := by
      simpa using none
    have solid : ∀ piece ∈ directives.map fun directive => directive.text.toList, ',' ∉ piece := by
      intro piece member comma
      obtain ⟨directive, _, rfl⟩ := List.mem_map.mp member
      exact directive.ne_comma_of_mem_text comma rfl
    have joined : (listText directives).toList =
        List.intercalate [','] (directives.map fun directive => directive.text.toList) := by
      rw [listText, String.toList_intercalate, List.map_map]
      rfl
    rw [joined, splitOnChar_intercalate nonempty solid, List.filter_eq_self]
    intro piece member
    obtain ⟨directive, _, rfl⟩ := List.mem_map.mp member
    exact decide_eq_true directive.text_ne_nil

theorem readList_listText (directives : List PlainDirective) :
    Directive.readList (listText directives) = .ok (directives.map meaning) := by
  rw [Directive.readList, pieces_listText, List.mapM_map]
  have reads : Directive.read ∘ (fun directive : PlainDirective => directive.text.toList) =
      fun directive => pure directive.meaning := funext read_text
  rw [reads, List.mapM_pure]
  rfl

end PlainDirective

def Filter.ofPlain (directives : List PlainDirective) : Filter :=
  ⟨directives.map PlainDirective.meaning⟩

theorem Filter.ofVariable_listText (directives : List PlainDirective) (otherwise : Level) :
    Filter.ofVariable (some (PlainDirective.listText directives)) otherwise =
      .ok (Filter.ofPlain directives) := by
  rw [ofVariable, Option.map_some, PlainDirective.readList_listText]
  rfl

end ScoreSheet
