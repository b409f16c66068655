import ScoreSheet.Log.Pattern.Modes
import ScoreSheet.Text.CharacterTable

/-!
What a backslash introduces in a pattern.  A pattern stands in braces, so it holds
no closing brace itself, and no escape that needs one is ever complete.
-/

namespace ScoreSheet
namespace Pattern

/-- What an escape stands for: a character, which may be written as a byte; the
characters of a kind or all others; the characters of a Unicode category; or a
place, at the edge of a word or at an end of the text. -/
inductive Escape where
  | character (value : Char) (asByte : Bool)
  | kind (negated : Bool)
  | category
  | wordEdge
  | textEnd
deriving DecidableEq, Repr

namespace Escape

/-- Reads `count` digits of base 16 as a character. -/
def readDigits? (modes : Modes) (asByte : Bool) (count value : Nat) (text : List Char) :
    Option (Escape × List Char) :=
  match count with
  | 0 =>
      if valid : value.isValidChar then
        some (.character (Char.ofNatAux value valid) asByte, text)
      else none
  | count + 1 =>
      match text with
      | [] => none
      | first :: rest =>
          (hexDigit? first).bind fun digit =>
            readDigits? modes asByte count (16 * value + digit) (modes.next rest)

/-- Whether a letter names a general category, in either case: control, letter,
mark, number, punctuation, symbol or separator. -/
def isCategory (letter : Char) : Bool :=
  "clmnpsz".contains letter.toLower

/-- Whether a backslash makes a character stand for itself: all of ASCII but
letters, digits and angle brackets. -/
def isLiteral (character : Char) : Bool :=
  decide (character.toNat < 0x80) && !character.isAlphanum && character != '<' && character != '>'

def control? : Char → Option Char
  | 'a' => some '\x07'
  | 'f' => some '\x0c'
  | 't' => some '\t'
  | 'n' => some '\n'
  | 'r' => some '\r'
  | 'v' => some '\x0b'
  | _ => none

def read? (modes : Modes) : List Char → Option (Escape × List Char)
  | [] => none
  | 'x' :: rest => readDigits? modes true 2 0 (modes.next rest)
  | 'u' :: rest => readDigits? modes false 4 0 (modes.next rest)
  | 'U' :: rest => readDigits? modes false 8 0 (modes.next rest)
  | first :: rest =>
      if first = 'p' ∨ first = 'P' then
        (modes.next? rest).bind fun (letter, after) =>
          if isCategory letter then some (.category, modes.next after) else none
      else if first = 'd' ∨ first = 's' ∨ first = 'w' then some (.kind false, rest)
      else if first = 'D' ∨ first = 'S' ∨ first = 'W' then some (.kind true, rest)
      else if first = 'b' ∨ first = 'B' ∨ first = '<' ∨ first = '>' then some (.wordEdge, rest)
      else if first = 'A' ∨ first = 'z' then some (.textEnd, rest)
      else if isLiteral first then some (.character first false, rest)
      else (control? first).map fun value => (.character value false, rest)

/-- Whether an escape may stand in a pattern outside brackets. Edges of words need
byte mode, where only bytes of ASCII and kinds of them can be matched. -/
def isUsable (modes : Modes) : Escape → Bool
  | .character value asByte => modes.unicode || !asByte || decide (value.toNat < 0x80)
  | .kind negated => modes.unicode || !negated
  | .category => modes.unicode
  | .wordEdge => !modes.unicode
  | .textEnd => true

end Escape
end Pattern
end ScoreSheet
