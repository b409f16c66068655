/-!
Text for a terminal and what is left of it elsewhere.

Messages are composed with display modes, which are control sequences.  What is
left without a terminal has no control sequence and no control character but
blank ones.  It cannot tell a message's own sequences from those in a text that
the message quotes, so both are removed.
-/

namespace ScoreSheet
namespace Terminal

def styled (modes : List String) (text : String) : String :=
  String.join (modes.map fun mode => "\x1b[" ++ mode ++ "m") ++ text ++ "\x1b[0m"

/-- Where reading stands in a control sequence: outside, after the escape, among
its intermediate characters, in a sequence with parameters, in a command string,
in front of a device string or in any other string. -/
inductive Mode where
  | text
  | escape
  | intermediate
  | parameters
  | commandString
  | device
  | deviceParameters
  | deviceIntermediate
  | string
deriving DecidableEq, Repr

def isControl (character : Char) : Bool :=
  decide (character.toNat < 0x20) || character.toNat == 0x7f

/-- Control characters that are kept as blanks. -/
def isKept (character : Char) : Bool :=
  character == '\t' || character == '\n' || character == '\x0c' || character == '\r'

def isBeyondAscii (character : Char) : Bool :=
  decide (0x7f < character.toNat)

def endsString (character : Char) : Bool :=
  character.toString.toUTF8.data.contains 0x9c

def Mode.afterPrintable (mode : Mode) (character : Char) : Mode :=
  let code := character.toNat
  match mode with
  | .text => .text
  | .escape =>
      if character = '[' then .parameters
      else if character = ']' then .commandString
      else if character = 'P' then .device
      else if character = 'X' ∨ character = '^' ∨ character = '_' then .string
      else if code < 0x30 then .intermediate
      else .text
  | .intermediate => if code < 0x30 then .intermediate else .text
  | .parameters => if code < 0x40 then .parameters else .text
  | .commandString => .commandString
  | .device =>
      if code < 0x30 then .deviceIntermediate
      else if code < 0x40 then .deviceParameters
      else .string
  | .deviceParameters =>
      if code < 0x30 then .deviceIntermediate
      else if code < 0x3c then .deviceParameters
      else .string
  | .deviceIntermediate => if code < 0x30 then .deviceIntermediate else .string
  | .string => .string

/-- The mode after a character that is not shown. Control characters leave the
mode as it is, unless they cancel or begin a sequence; so do characters beyond
ASCII, though a string may end inside of one. -/
def Mode.after (mode : Mode) (character : Char) : Mode :=
  if character = '\x1b' then .escape
  else if character = '\x18' ∨ character = '\x1a' then .text
  else if character = '\x07' ∧ mode = .commandString then .text
  else if isControl character then mode
  else if isBeyondAscii character then
    if mode = .string ∧ endsString character then .text else mode
  else mode.afterPrintable character

/-- Whether a character is shown. Blank controls show inside sequences too, except
in strings. -/
def Mode.shows (mode : Mode) (character : Char) : Bool :=
  match mode with
  | .text => isKept character || !isControl character
  | .escape | .intermediate | .parameters => isKept character
  | _ => false

/-- What a text is left on. A page drops the sequence in which a shown character
stands. A stream shows all that follows such a character and shows outside
sequences, and then goes on with the sequence. -/
inductive Medium where
  | page
  | stream
deriving DecidableEq, Repr

def Medium.resumed (medium : Medium) (mode : Mode) (character : Char) : Mode :=
  match medium with
  | .page => .text
  | .stream => if isBeyondAscii character then .text else mode

/-- What shows of the rest of a text; `showing` says whether the character before
was shown. -/
def shownFrom (medium : Medium) (mode : Mode) (showing : Bool) : List Char → List Char
  | [] => []
  | character :: rest =>
      let current := if showing then .text else mode
      if current.shows character then
        character :: shownFrom medium (medium.resumed mode character) true rest
      else shownFrom medium (mode.after character) false rest

def shown (medium : Medium) (text : String) : String :=
  String.ofList (shownFrom medium .text false text.toList)

theorem shown_ne_empty (medium : Medium) {first : Char} {rest : List Char} {text : String}
    (begins : text.toList = first :: rest) (shows : Mode.text.shows first = true) :
    shown medium text ≠ "" := by
  intro none
  have noCharacters := congrArg String.toList none
  rw [shown, String.toList_ofList, begins, shownFrom] at noCharacters
  change (if Mode.text.shows first = true then _ else _) = [] at noCharacters
  rw [if_pos shows] at noCharacters
  cases noCharacters

theorem shown_error (medium : Medium) (rest : String) :
    shown medium (styled ["1", "31"] "error:" ++ " " ++ rest) =
      "error: " ++ String.ofList (shownFrom medium .text true rest.toList) := by
  have styledWord : (styled ["1", "31"] "error:" ++ " ").toList =
      ['\x1b', '[', '1', 'm', '\x1b', '[', '3', '1', 'm', 'e', 'r', 'r', 'o', 'r', ':', '\x1b',
        '[', '0', 'm', ' '] := by decide
  have whole : (styled ["1", "31"] "error:" ++ " " ++ rest).toList =
      (styled ["1", "31"] "error:" ++ " ").toList ++ rest.toList := String.toList_append
  apply String.toList_inj.mp
  rw [shown, String.toList_ofList, whole, styledWord, String.toList_append, String.toList_ofList,
    String.toList_ofList]
  cases medium with
  | page => rfl
  | stream => rfl

end Terminal
end ScoreSheet
