/-!
Texts cut at a separator, words between blanks, and texts without their outer
blanks, which are the characters of the Unicode property White_Space.
-/

namespace ScoreSheet

def splitOnChar (separator : Char) : List Char → List (List Char)
  | [] => [[]]
  | first :: rest =>
      if first = separator then [] :: splitOnChar separator rest
      else
        match splitOnChar separator rest with
        | [] => [[first]]
        | part :: parts => (first :: part) :: parts

theorem splitOnChar_ne_nil (separator : Char) (text : List Char) :
    splitOnChar separator text ≠ [] := by
  cases text with
  | nil => simp [splitOnChar]
  | cons first rest =>
      unfold splitOnChar
      split
      · simp
      · split <;> simp

theorem splitOnChar_eq_singleton {separator : Char} {text : List Char}
    (absent : separator ∉ text) : splitOnChar separator text = [text] := by
  induction text with
  | nil => rfl
  | cons first rest ih =>
      simp only [List.mem_cons, not_or] at absent
      rw [splitOnChar, if_neg (Ne.symm absent.1), ih absent.2]

theorem splitOnChar_append {separator : Char} {text : List Char} (rest : List Char)
    (absent : separator ∉ text) :
    splitOnChar separator (text ++ separator :: rest) = text :: splitOnChar separator rest := by
  induction text with
  | nil => simp [splitOnChar]
  | cons first others ih =>
      simp only [List.mem_cons, not_or] at absent
      rw [List.cons_append, splitOnChar, if_neg (Ne.symm absent.1), ih absent.2]

theorem splitOnChar_intercalate {separator : Char} {parts : List (List Char)}
    (nonempty : parts ≠ []) (absent : ∀ part ∈ parts, separator ∉ part) :
    splitOnChar separator (List.intercalate [separator] parts) = parts := by
  induction parts with
  | nil => contradiction
  | cons first rest ih =>
      have hFirst := absent first (by simp)
      cases rest with
      | nil => rw [List.intercalate_singleton, splitOnChar_eq_singleton hFirst]
      | cons second others =>
          rw [List.intercalate_cons_cons, List.append_assoc, List.singleton_append,
            splitOnChar_append _ hFirst,
            ih (by simp) fun part member => absent part (List.mem_cons_of_mem first member)]

def consWord (word : List Char) (words : List (List Char)) : List (List Char) :=
  if word.isEmpty then words else word :: words

/-- The first word of a text and the words after it. A blank in front makes the
first word empty. -/
def gatherWords : List Char → List Char × List (List Char) :=
  List.foldr
    (fun character gathered =>
      if character = ' ' ∨ character = '\n' then ([], consWord gathered.1 gathered.2)
      else (character :: gathered.1, gathered.2))
    ([], [])

def wordsOf (text : List Char) : List (List Char) :=
  consWord (gatherWords text).1 (gatherWords text).2

def isBlank (character : Char) : Bool :=
  let code := character.toNat
  (decide (9 ≤ code) && decide (code ≤ 13)) || code == 0x20 || code == 0x85 || code == 0xa0 ||
    code == 0x1680 || (decide (0x2000 ≤ code) && decide (code ≤ 0x200a)) || code == 0x2028 ||
    code == 0x2029 || code == 0x202f || code == 0x205f || code == 0x3000

def trimBlanks (text : List Char) : List Char :=
  ((text.dropWhile isBlank).reverse.dropWhile isBlank).reverse

theorem trimBlanks_eq_self {text : List Char}
    (solid : ∀ character ∈ text, isBlank character = false) : trimBlanks text = text := by
  have keepAll : ∀ {characters : List Char},
      (∀ character ∈ characters, isBlank character = false) →
        characters.dropWhile isBlank = characters := by
    intro characters hSolid
    cases characters with
    | nil => rfl
    | cons first rest => simp [hSolid first (by simp)]
  rw [trimBlanks, keepAll solid, keepAll (by simpa using solid), List.reverse_reverse]

end ScoreSheet
