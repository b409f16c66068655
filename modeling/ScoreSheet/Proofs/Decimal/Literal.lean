import Mathlib.Data.List.Forall2
import Mathlib.Data.List.TakeWhile
import ScoreSheet.Decimal.Literal

/-!
The grammar of number literals, stated apart from the reader: an optional sign, and then a name
in letters of either case, or digits with at most one point and an optional exponent.  Reading
accepts exactly the texts of the grammar and gives what they say, so that a text says one thing
only.
-/

namespace ScoreSheet

def IsDigits (text : List Char) : Prop :=
  ∀ character ∈ text, character.isDigit = true

/-- A name of small letters, each of which may be written as a capital. -/
def InAnyCase (name : String) (text : List Char) : Prop :=
  List.Forall₂ (fun letter character => character = letter ∨ character = letter.toUpper)
    name.toList text

namespace Literal

inductive SignText : Bool → List Char → Prop where
  | none : SignText false []
  | plus : SignText false ['+']
  | minus : SignText true ['-']

/-- Digits with at most one point and how many of them come after it; there is at least one. -/
inductive DigitsText : List Char → Nat → List Char → Prop where
  | whole {digits : List Char} (nonempty : digits ≠ []) (all : IsDigits digits) :
      DigitsText digits 0 digits
  | pointed {whole fraction : List Char} (nonempty : whole ++ fraction ≠ [])
      (all : IsDigits (whole ++ fraction)) :
      DigitsText (whole ++ fraction) fraction.length (whole ++ '.' :: fraction)

inductive ExponentText : Int → List Char → Prop where
  | none : ExponentText 0 []
  | marked {marker : Char} {negative : Bool} {sign digits : List Char}
      (marker_eq : marker = 'e' ∨ marker = 'E') (signed : SignText negative sign)
      (nonempty : digits ≠ []) (all : IsDigits digits) :
      ExponentText
        (if negative then -(Nat.ofDigitChars 10 digits 0 : Int) else Nat.ofDigitChars 10 digits 0)
        (marker :: (sign ++ digits))

inductive NumeralText : Numeral → List Char → Prop where
  | infinity {text : List Char} (named : InAnyCase "inf" text ∨ InAnyCase "infinity" text) :
      NumeralText .infinity text
  | notANumber {text : List Char} (named : InAnyCase "nan" text) : NumeralText .notANumber text
  | decimal {digits number ending : List Char} {places : Nat} {power : Int}
      (written : DigitsText digits places number) (scaled : ExponentText power ending) :
      NumeralText (.decimal ⟨Nat.ofDigitChars 10 digits 0, power - places⟩) (number ++ ending)

def Writes (literal : Literal) (text : List Char) : Prop :=
  ∃ sign numeral, text = sign ++ numeral ∧ SignText literal.negative sign ∧
    NumeralText literal.numeral numeral

section

variable {negative : Bool} {sign digits text rest : List Char}

def Unsigned (text : List Char) : Prop :=
  text.head? ≠ some '-' ∧ text.head? ≠ some '+'

theorem takeSign_text (text : List Char) :
    ∃ sign, SignText (takeSign text).1 sign ∧ text = sign ++ (takeSign text).2 := by
  unfold takeSign
  split
  · exact ⟨['-'], .minus, rfl⟩
  · exact ⟨['+'], .plus, rfl⟩
  · exact ⟨[], .none, rfl⟩

theorem takeSign_append (signed : SignText negative sign) (unsigned : Unsigned rest) :
    takeSign (sign ++ rest) = (negative, rest) := by
  cases signed with
  | none =>
      rw [List.nil_append, takeSign.eq_3]
      · rintro tail rfl
        exact unsigned.1 rfl
      · rintro tail rfl
        exact unsigned.2 rfl
  | plus => rfl
  | minus => rfl

theorem unsigned_of_isDigits (nonempty : digits ≠ []) (all : IsDigits digits) :
    Unsigned digits := by
  obtain ⟨first, tail, rfl⟩ := List.exists_cons_of_ne_nil nonempty
  have digit := all first List.mem_cons_self
  constructor
  · intro same
    obtain rfl := Option.some.inj same
    exact absurd digit (by decide)
  · intro same
    obtain rfl := Option.some.inj same
    exact absurd digit (by decide)

end

theorem digitsValue_eq (digits : List Char) :
    digitsValue digits = Nat.ofDigitChars 10 digits 0 := by
  rw [digitsValue, Nat.ofDigitChars_eq_foldl]
  congr 1
  funext value digit
  rw [Nat.mul_comm]

theorem readExponent?_eq_some_iff {text : List Char} {power : Int} :
    readExponent? text = some power ↔ ExponentText power text := by
  constructor
  · intro read
    cases text with
    | nil =>
        cases read
        exact .none
    | cons marker rest =>
        obtain ⟨sign, signed, parts⟩ := takeSign_text rest
        simp only [readExponent?] at read
        generalize takeSign rest = taken at read signed parts
        obtain ⟨negative, digits⟩ := taken
        split at read
        · next accepted =>
            obtain ⟨marker_eq, nonempty, all⟩ := accepted
            cases read
            rw [digitsValue_eq, parts]
            exact .marked marker_eq signed nonempty (List.all_eq_true.mp all)
        · cases read
  · intro written
    cases written with
    | none => rfl
    | marked marker_eq signed nonempty all =>
        have taken := takeSign_append signed (unsigned_of_isDigits nonempty all)
        simp only [readExponent?, taken, digitsValue_eq]
        rw [if_pos ⟨marker_eq, nonempty, List.all_eq_true.mpr all⟩]

/-! ### Digits with a point -/

section

variable {digits number ending rest text : List Char} {places : Nat} {power : Int}

def EndsNumber (text : List Char) : Prop :=
  ∀ first ∈ text.head?, first.isDigit = false ∧ first ≠ '.'

theorem ExponentText.endsNumber (written : ExponentText power ending) : EndsNumber ending := by
  intro first head
  cases written with
  | none => cases head
  | marked marker_eq =>
      obtain rfl := Option.some.inj head
      rcases marker_eq with rfl | rfl
      · exact ⟨by decide, by decide⟩
      · exact ⟨by decide, by decide⟩

theorem takeWhile_digits (all : IsDigits digits)
    (ends : ∀ first ∈ rest.head?, first.isDigit = false) :
    (digits ++ rest).takeWhile Char.isDigit = digits ∧
      (digits ++ rest).dropWhile Char.isDigit = rest := by
  rw [List.takeWhile_append_of_pos all, List.dropWhile_append_of_pos all]
  cases rest with
  | nil => exact ⟨List.append_nil digits, rfl⟩
  | cons first tail =>
      have stop : ¬ first.isDigit = true := by
        rw [ends first rfl]
        exact Bool.false_ne_true
      rw [List.takeWhile_cons_of_neg stop, List.dropWhile_cons_of_neg stop, List.append_nil]
      exact ⟨rfl, rfl⟩

theorem takeFraction_text (text : List Char) :
    ∃ point, text = point ++ (takeFraction text).2 ∧ IsDigits (takeFraction text).1 ∧
      (point = '.' :: (takeFraction text).1 ∨ point = [] ∧ (takeFraction text).1 = []) := by
  unfold takeFraction
  split
  · next rest =>
      refine ⟨'.' :: rest.takeWhile Char.isDigit, ?_, fun _ => List.mem_takeWhile_imp, Or.inl rfl⟩
      rw [List.cons_append, List.takeWhile_append_dropWhile]
  · exact ⟨[], rfl, fun _ member => absurd member List.not_mem_nil, Or.inr ⟨rfl, rfl⟩⟩

theorem takeFraction_of_endsNumber (ends : EndsNumber rest) : takeFraction rest = ([], rest) := by
  rw [takeFraction.eq_2]
  rintro tail rfl
  exact (ends '.' rfl).2 rfl

theorem DigitsText.exists_first (written : DigitsText digits places number) :
    ∃ first tail, number = first :: tail ∧ (first.isDigit = true ∨ first = '.') := by
  cases written with
  | whole nonempty all =>
      obtain ⟨first, tail, rfl⟩ := List.exists_cons_of_ne_nil nonempty
      exact ⟨first, tail, rfl, Or.inl (all first List.mem_cons_self)⟩
  | @pointed whole fraction nonempty all =>
      cases whole with
      | nil => exact ⟨'.', fraction, rfl, Or.inr rfl⟩
      | cons first tail => exact ⟨first, _, rfl, Or.inl (all first List.mem_cons_self)⟩

theorem DigitsText.digits_ne_nil (written : DigitsText digits places number) : digits ≠ [] := by
  cases written with
  | whole nonempty => exact nonempty
  | pointed nonempty => exact nonempty

theorem takes_of_digitsText (written : DigitsText digits places number)
    (ends : EndsNumber rest) :
    ∃ whole fraction, digits = whole ++ fraction ∧ places = fraction.length ∧
      (number ++ rest).takeWhile Char.isDigit = whole ∧
        takeFraction ((number ++ rest).dropWhile Char.isDigit) = (fraction, rest) := by
  have stops : ∀ first ∈ rest.head?, first.isDigit = false := fun first head => (ends first head).1
  cases written with
  | whole nonempty all =>
      obtain ⟨taken, left⟩ := takeWhile_digits all stops
      refine ⟨digits, [], (List.append_nil digits).symm, rfl, taken, ?_⟩
      rw [left, takeFraction_of_endsNumber ends]
  | @pointed whole fraction nonempty all =>
      have point : ∀ first ∈ ('.' :: (fraction ++ rest)).head?, first.isDigit = false := by
        intro first head
        obtain rfl := Option.some.inj head
        decide
      obtain ⟨taken, left⟩ := takeWhile_digits
        (fun character member => all character (List.mem_append_left fraction member)) point
      obtain ⟨fractionTaken, fractionLeft⟩ := takeWhile_digits
        (fun character member => all character (List.mem_append_right whole member)) stops
      refine ⟨whole, fraction, rfl, rfl, ?_, ?_⟩
      · rw [List.append_assoc, List.cons_append, taken]
      · rw [List.append_assoc, List.cons_append, left, takeFraction, fractionTaken, fractionLeft]

theorem readDecimal?_eq_some_iff {decimal : Decimal} :
    readDecimal? text = some decimal ↔
      ∃ digits places number power ending, text = number ++ ending ∧
        DigitsText digits places number ∧ ExponentText power ending ∧
          decimal = ⟨Nat.ofDigitChars 10 digits 0, power - (places : Nat)⟩ := by
  constructor
  · intro read
    have whole : text = text.takeWhile Char.isDigit ++ text.dropWhile Char.isDigit :=
      List.takeWhile_append_dropWhile.symm
    have wholeDigits : IsDigits (text.takeWhile Char.isDigit) := fun _ => List.mem_takeWhile_imp
    obtain ⟨point, parts, fractionDigits, pointed⟩ :=
      takeFraction_text (text.dropWhile Char.isDigit)
    simp only [readDecimal?] at read
    generalize takeFraction (text.dropWhile Char.isDigit) = taken
      at read parts fractionDigits pointed
    obtain ⟨fraction, ending⟩ := taken
    generalize text.takeWhile Char.isDigit = front at read whole wholeDigits
    split at read
    · cases read
    · next some =>
        obtain ⟨power, readPower, rfl⟩ := Option.map_eq_some_iff.mp read
        have nonempty : front ++ fraction ≠ [] := by
          intro none
          obtain ⟨rfl, rfl⟩ := List.append_eq_nil_iff.mp none
          exact some rfl
        have all : IsDigits (front ++ fraction) := fun character member =>
          (List.mem_append.mp member).elim (wholeDigits character) (fractionDigits character)
        refine ⟨front ++ fraction, fraction.length, front ++ point, power, ending, ?_, ?_,
          readExponent?_eq_some_iff.mp readPower, by rw [digitsValue_eq]⟩
        · rw [List.append_assoc, ← parts]
          exact whole
        · rcases pointed with rfl | ⟨rfl, rfl⟩
          · exact .pointed nonempty all
          · rw [List.append_nil] at nonempty all ⊢
            exact .whole nonempty all
  · rintro ⟨digits, places, number, power, ending, rfl, written, scaled, rfl⟩
    obtain ⟨whole, fraction, rfl, rfl, taken, left⟩ :=
      takes_of_digitsText written scaled.endsNumber
    have nonempty : ¬ (whole.isEmpty && fraction.isEmpty) = true := by
      rw [Bool.and_eq_true, List.isEmpty_iff, List.isEmpty_iff, ← List.append_eq_nil_iff]
      exact written.digits_ne_nil
    simp only [readDecimal?, taken, left]
    rw [if_neg nonempty, readExponent?_eq_some_iff.mpr scaled, digitsValue_eq]
    rfl

end

/-! ### Names -/

theorem toNat_toLower (character : Char) :
    character.toLower.toNat =
      if 65 ≤ character.toNat ∧ character.toNat ≤ 90 then character.toNat + 32
      else character.toNat := by
  have capital : character.val ≥ 'A'.val ∧ character.val ≤ 'Z'.val ↔
      65 ≤ character.toNat ∧ character.toNat ≤ 90 := Iff.rfl
  unfold Char.toLower
  split
  · next isCapital =>
      obtain ⟨_, most⟩ := capital.mp isCapital
      rw [if_pos (capital.mp isCapital)]
      change (character.val + ('a'.val - 'A'.val)).toNat = character.toNat + 32
      rw [UInt32.toNat_add]
      change (character.toNat + 32) % 4294967296 = character.toNat + 32
      omega
  · next isOther => rw [if_neg (fun range => isOther (capital.mpr range))]

theorem toNat_toUpper (character : Char) :
    character.toUpper.toNat =
      if 97 ≤ character.toNat ∧ character.toNat ≤ 122 then character.toNat - 32
      else character.toNat := by
  have small : character.val ≥ 'a'.val ∧ character.val ≤ 'z'.val ↔
      97 ≤ character.toNat ∧ character.toNat ≤ 122 := Iff.rfl
  unfold Char.toUpper
  split
  · next isSmall =>
      obtain ⟨least, most⟩ := small.mp isSmall
      rw [if_pos (small.mp isSmall)]
      change (character.val + ('A'.val - 'a'.val)).toNat = character.toNat - 32
      rw [UInt32.toNat_add]
      change (character.toNat + 4294967264) % 4294967296 = character.toNat - 32
      omega
  · next isOther => rw [if_neg (fun range => isOther (small.mpr range))]

theorem toLower_eq_iff {letter character : Char} (small : letter.isLower = true) :
    character.toLower = letter ↔ character = letter ∨ character = letter.toUpper := by
  have range : 97 ≤ letter.toNat ∧ letter.toNat ≤ 122 := by
    have bounds : (decide (letter.val ≥ 'a'.val) && decide (letter.val ≤ 'z'.val)) = true := small
    rw [Bool.and_eq_true, decide_eq_true_eq, decide_eq_true_eq] at bounds
    exact bounds
  rw [← Char.toNat_inj, ← Char.toNat_inj, ← Char.toNat_inj, toNat_toLower, toNat_toUpper,
    if_pos range]
  split <;> omega

section

variable {text : List Char}

theorem map_toLower_eq_iff {letters : List Char}
    (small : ∀ letter ∈ letters, letter.isLower = true) :
    text.map Char.toLower = letters ↔
      List.Forall₂ (fun letter character => character = letter ∨ character = letter.toUpper)
        letters text := by
  induction letters generalizing text with
  | nil => rw [List.map_eq_nil_iff, List.forall₂_nil_left_iff]
  | cons letter letters hypothesis =>
      obtain ⟨first, others⟩ := List.forall_mem_cons.mp small
      cases text with
      | nil => exact ⟨fun same => (nomatch same), fun pairs => (nomatch pairs)⟩
      | cons character text =>
          rw [List.map_cons, List.cons.injEq, List.forall₂_cons, toLower_eq_iff first,
            hypothesis others]

theorem lowered_eq_iff {name : String} (small : name.toList.all Char.isLower = true) :
    String.ofList (text.map Char.toLower) = name ↔ InAnyCase name text := by
  rw [InAnyCase, ← map_toLower_eq_iff (List.all_eq_true.mp small), ← String.toList_inj,
    String.toList_ofList]

theorem readName?_eq_some_iff {numeral : Numeral} :
    readName? text = some numeral ↔
      numeral = .infinity ∧ (InAnyCase "inf" text ∨ InAnyCase "infinity" text) ∨
        numeral = .notANumber ∧ InAnyCase "nan" text := by
  rw [← lowered_eq_iff (by decide), ← lowered_eq_iff (by decide), ← lowered_eq_iff (by decide)]
  simp only [readName?]
  generalize String.ofList (text.map Char.toLower) = name
  split
  · next infinite =>
      have number : name ≠ "nan" := by
        rcases infinite with rfl | rfl
        · decide
        · decide
      constructor
      · intro read
        exact Or.inl ⟨(Option.some.inj read).symm, infinite⟩
      · rintro (⟨rfl, _⟩ | ⟨_, notANumber⟩)
        · rfl
        · exact absurd notANumber number
  · next finite =>
      split
      · next notANumber =>
          constructor
          · intro read
            exact Or.inr ⟨(Option.some.inj read).symm, notANumber⟩
          · rintro (⟨_, infinite⟩ | ⟨rfl, _⟩)
            · exact absurd infinite finite
            · rfl
      · next number =>
          constructor
          · intro read
            cases read
          · rintro (⟨_, infinite⟩ | ⟨_, notANumber⟩)
            · exact absurd infinite finite
            · exact absurd notANumber number

end

/-! ### Literals -/

section

variable {text : List Char} {numeral : Numeral}

theorem InAnyCase.exists_first (letter : Char) (letters : List Char)
    (named : InAnyCase (String.ofList (letter :: letters)) text) :
    ∃ first rest, text = first :: rest ∧ (first = letter ∨ first = letter.toUpper) := by
  rw [InAnyCase, String.toList_ofList] at named
  cases named with
  | cons first rest => exact ⟨_, _, rfl, first⟩

theorem exists_letter_of_readName? (read : readName? text = some numeral) :
    ∃ letter rest, text = letter :: rest ∧ letter ∈ ['i', 'I', 'n', 'N'] := by
  rcases readName?_eq_some_iff.mp read with ⟨_, named | named⟩ | ⟨_, named⟩
  · obtain ⟨letter, rest, rfl, rfl | rfl⟩ := InAnyCase.exists_first 'i' ['n', 'f'] named
    · exact ⟨_, rest, rfl, by decide⟩
    · exact ⟨_, rest, rfl, by decide⟩
  · obtain ⟨letter, rest, rfl, rfl | rfl⟩ :=
      InAnyCase.exists_first 'i' ['n', 'f', 'i', 'n', 'i', 't', 'y'] named
    · exact ⟨_, rest, rfl, by decide⟩
    · exact ⟨_, rest, rfl, by decide⟩
  · obtain ⟨letter, rest, rfl, rfl | rfl⟩ := InAnyCase.exists_first 'n' ['a', 'n'] named
    · exact ⟨_, rest, rfl, by decide⟩
    · exact ⟨_, rest, rfl, by decide⟩

theorem DigitsText.readName?_eq_none {digits number : List Char} {places : Nat}
    (written : DigitsText digits places number) (ending : List Char) :
    readName? (number ++ ending) = none := by
  obtain ⟨first, rest, rfl, begins⟩ := written.exists_first
  rw [Option.eq_none_iff_forall_ne_some]
  intro numeral read
  obtain ⟨letter, _, same, isLetter⟩ := exists_letter_of_readName? read
  obtain ⟨rfl, _⟩ := List.cons.inj same
  rcases begins with digit | rfl
  · have letters : ['i', 'I', 'n', 'N'].all (fun letter => !letter.isDigit) = true := by decide
    have other := List.all_eq_true.mp letters first isLetter
    rw [digit] at other
    cases other
  · exact absurd isLetter (by decide)

theorem readNumeral?_eq_some_iff :
    (readName? text <|> (readDecimal? text).map .decimal) = some numeral ↔
      NumeralText numeral text := by
  constructor
  · intro read
    cases name : readName? text with
    | some named =>
        rw [name] at read
        cases read
        rcases readName?_eq_some_iff.mp name with ⟨rfl, infinite⟩ | ⟨rfl, notANumber⟩
        · exact .infinity infinite
        · exact .notANumber notANumber
    | none =>
        rw [name] at read
        obtain ⟨decimal, readDecimal, rfl⟩ := Option.map_eq_some_iff.mp read
        obtain ⟨digits, places, number, power, ending, rfl, written, scaled, rfl⟩ :=
          readDecimal?_eq_some_iff.mp readDecimal
        exact .decimal written scaled
  · intro written
    cases written with
    | infinity named => rw [readName?_eq_some_iff.mpr (Or.inl ⟨rfl, named⟩)]; rfl
    | notANumber named => rw [readName?_eq_some_iff.mpr (Or.inr ⟨rfl, named⟩)]; rfl
    | decimal written scaled =>
        rw [written.readName?_eq_none,
          readDecimal?_eq_some_iff.mpr ⟨_, _, _, _, _, rfl, written, scaled, rfl⟩]
        rfl

theorem NumeralText.exists_first (written : NumeralText numeral text) :
    ∃ first rest, text = first :: rest ∧
      (first ∈ ['i', 'I', 'n', 'N'] ∨ first.isDigit = true ∨ first = '.') := by
  cases written with
  | infinity named =>
      obtain ⟨letter, rest, rfl, isLetter⟩ :=
        exists_letter_of_readName? (readName?_eq_some_iff.mpr (Or.inl ⟨rfl, named⟩))
      exact ⟨letter, rest, rfl, Or.inl isLetter⟩
  | notANumber named =>
      obtain ⟨letter, rest, rfl, isLetter⟩ :=
        exists_letter_of_readName? (readName?_eq_some_iff.mpr (Or.inr ⟨rfl, named⟩))
      exact ⟨letter, rest, rfl, Or.inl isLetter⟩
  | decimal written =>
      obtain ⟨first, rest, rfl, begins⟩ := written.exists_first
      exact ⟨first, _, rfl, Or.inr begins⟩

theorem NumeralText.unsigned (written : NumeralText numeral text) : Unsigned text := by
  obtain ⟨first, tail, rfl, begins⟩ := written.exists_first
  constructor
  · intro same
    obtain rfl := Option.some.inj same
    revert begins
    decide
  · intro same
    obtain rfl := Option.some.inj same
    revert begins
    decide

/-- Reading accepts exactly the texts of the grammar, and gives what they say. -/
theorem read?_eq_ok_iff {literal : Literal} {text : String} :
    read? text = .ok literal ↔ literal.Writes text.toList := by
  constructor
  · intro read
    obtain ⟨sign, signed, parts⟩ := takeSign_text text.toList
    simp only [read?] at read
    generalize takeSign text.toList = taken at read signed parts
    obtain ⟨negative, unsigned⟩ := taken
    split at read
    · cases read
    · split at read
      · next numeral accepted =>
          cases read
          exact ⟨sign, unsigned, parts, signed, readNumeral?_eq_some_iff.mp accepted⟩
      · cases read
  · rintro ⟨sign, unsigned, parts, signed, written⟩
    have nonempty : ¬ text.isEmpty = true := by
      obtain ⟨first, tail, rfl, _⟩ := written.exists_first
      rw [String.isEmpty_iff]
      rintro rfl
      exact List.append_ne_nil_of_right_ne_nil sign (List.cons_ne_nil first tail) parts.symm
    have taken := takeSign_append signed written.unsigned
    simp only [read?, parts, taken]
    rw [if_neg nonempty, readNumeral?_eq_some_iff.mpr written]

theorem Writes.unique {literal other : Literal} {text : String}
    (written : literal.Writes text.toList) (otherWritten : other.Writes text.toList) :
    literal = other :=
  Except.ok.inj ((read?_eq_ok_iff.mpr written).symm.trans (read?_eq_ok_iff.mpr otherWritten))

end

end Literal
end ScoreSheet
