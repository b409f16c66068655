import ScoreSheet.Text.Split

/-!
Modes of a pattern, which `(?x-u)` changes up to the end of the group that it
stands in and `(?x-u:…)` for a group of its own.
-/

namespace ScoreSheet
namespace Pattern

/-- The modes that decide whether a pattern can be read. In Unicode mode it
matches characters, else bytes; in spaced mode blanks and comments do not count. -/
structure Modes where
  unicode : Bool := true
  spaced : Bool := false
deriving DecidableEq, Repr

/-- A mode by its letter: without case, by lines, dot for line breaks, shortest
first, Unicode, either line break, spaced. -/
inductive ModeLetter where
  | caseless
  | lines
  | dotAll
  | shortest
  | unicode
  | eitherBreak
  | spaced
deriving DecidableEq, Repr

def ModeLetter.ofChar? : Char → Option ModeLetter
  | 'i' => some .caseless
  | 'm' => some .lines
  | 's' => some .dotAll
  | 'U' => some .shortest
  | 'u' => some .unicode
  | 'R' => some .eitherBreak
  | 'x' => some .spaced
  | _ => none

inductive ModeSign where
  | minus
  | letter (letter : ModeLetter)
deriving DecidableEq, Repr

def ModeSign.ofChar? (character : Char) : Option ModeSign :=
  if character = '-' then some .minus else (ModeLetter.ofChar? character).map .letter

/-- Whether a change switches a mode on or off, if it tells. -/
def switched? (letter : ModeLetter) : List ModeSign → Option Bool
  | [] => none
  | .minus :: rest => if rest.contains (.letter letter) then some false else none
  | .letter first :: rest => if first = letter then some true else switched? letter rest

def Modes.changed (modes : Modes) (signs : List ModeSign) : Modes where
  unicode := (switched? .unicode signs).getD modes.unicode
  spaced := (switched? .spaced signs).getD modes.spaced

/-- Reads the signs before a colon or a closing parenthesis; gives them with that
character and what follows. No sign is repeated, and the minus is not the last. -/
def readSigns? (signs : List ModeSign) : List Char → Option (List ModeSign × Char × List Char)
  | [] => none
  | character :: rest =>
      if character = ':' ∨ character = ')' then
        if signs.getLast? = some .minus then none else some (signs, character, rest)
      else
        (ModeSign.ofChar? character).bind fun sign =>
          if signs.contains sign then none else readSigns? (signs ++ [sign]) rest

def afterBlanks (inComment : Bool) : List Char → List Char
  | [] => []
  | character :: rest =>
      if inComment then afterBlanks (character ≠ '\n') rest
      else if isBlank character then afterBlanks false rest
      else if character = '#' then afterBlanks true rest
      else character :: rest

def Modes.next (modes : Modes) (text : List Char) : List Char :=
  if modes.spaced then afterBlanks false text else text

def Modes.next? (modes : Modes) (text : List Char) : Option (Char × List Char) :=
  match modes.next text with
  | [] => none
  | character :: rest => some (character, rest)

/-- The next character that is not blank, past the mark of a comment. Where only
blanks are left it is the first of them. -/
def Modes.peek? (modes : Modes) (text : List Char) : Option Char :=
  if modes.spaced then
    let solid := text.dropWhile isBlank
    let solid := if solid.head? = some '#' then solid.tail.dropWhile isBlank else solid
    solid.head? <|> text.head?
  else text.head?

end Pattern
end ScoreSheet
