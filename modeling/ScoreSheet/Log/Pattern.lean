import ScoreSheet.Log.Pattern.Bracket
import ScoreSheet.Text.Alphanumeric

/-!
Readable patterns.  A directive may ask that a field match a pattern; no field of
this program is text, so such a directive matches nothing, but a pattern that
cannot be read makes the directive itself unreadable.

A pattern is a choice between sequences of items, and an item may be repeated.
Reading it counts how deep it is nested: every repetition, group and set is one
level, and so is a sequence of several items or a choice.
-/

namespace ScoreSheet
namespace Pattern

/-- One item of a sequence: how deep it is, and whether it may be repeated. A
change of modes may not. -/
structure Item where
  depth : Nat
  repeatable : Bool
deriving DecidableEq, Repr

/-- A choice that is being read: how deep its finished sequences are, and the
items of the last one, in reverse. -/
structure Choice where
  sequences : List Nat := []
  items : List Item := []
deriving DecidableEq, Repr

namespace Choice

def add (choice : Choice) (depth : Nat) : Choice :=
  { choice with items := ⟨depth, true⟩ :: choice.items }

def addChange (choice : Choice) : Choice :=
  { choice with items := ⟨0, false⟩ :: choice.items }

def sequenceDepth (choice : Choice) : Nat :=
  match choice.items with
  | [] => 0
  | [only] => only.depth
  | items => (items.map (·.depth)).foldl max 0 + 1

def depth (choice : Choice) : Nat :=
  match choice.sequences with
  | [] => choice.sequenceDepth
  | sequences => sequences.foldl max choice.sequenceDepth + 1

def another (choice : Choice) : Choice :=
  { sequences := choice.sequenceDepth :: choice.sequences }

def repeatLast? (choice : Choice) : Option Choice :=
  match choice.items with
  | ⟨depth, true⟩ :: rest => some { choice with items := ⟨depth + 1, true⟩ :: rest }
  | _ => none

end Choice

def isNameCharacter (isFirst : Bool) (character : Char) : Bool :=
  character == '_' ||
    if isFirst then isAlphabetic character
    else isAlphanumeric character || character == '.' || character == '[' || character == ']'

def readName? (text : List Char) : Option (List Char × List Char) :=
  match text.takeWhile (· ≠ '>'), text.dropWhile (· ≠ '>') with
  | first :: others, _ :: rest =>
      if isNameCharacter true first && others.all (isNameCharacter false) then
        some (first :: others, rest)
      else none
  | _, _ => none

/-- What an opening parenthesis introduces: a change of modes, or a group with its
modes and its name, if it has one. -/
inductive Opening where
  | change (modes : Modes)
  | group (modes : Modes) (name : Option (List Char))
deriving DecidableEq, Repr

/-- Reads what follows the question mark of an opening: a name or a change of
modes. A change alone has to tell something. -/
def readSpecial? (modes : Modes) (text : List Char) : Option (Opening × List Char) :=
  let named? (text : List Char) : Option (Opening × List Char) :=
    (readName? text).map fun (name, rest) => (.group modes (some name), rest)
  match text with
  | 'P' :: '<' :: rest => named? rest
  | '<' :: rest => named? rest
  | _ =>
      (readSigns? [] text).bind fun (signs, closing, rest) =>
        let changed := modes.changed signs
        if closing = ':' then some (.group changed none, rest)
        else if signs.isEmpty then none
        else some (.change changed, rest)

def readOpening? (modes : Modes) (text : List Char) : Option (Opening × List Char) :=
  match modes.next text with
  | '?' :: rest => readSpecial? modes rest
  | rest => some (.group modes none, rest)

/-- Reads the rest of nested groups, the innermost first and each but this with
its modes; gives how deep the pattern is. No two groups have one of `names`. The
fuel exceeds the number of characters left. -/
def readFrom? (fuel : Nat) (modes : Modes) (names : List (List Char)) (choice : Choice)
    (outer : List (Modes × Choice)) (text : List Char) : Option Nat :=
  match fuel, modes.next text with
  | 0, _ => none
  | _ + 1, [] => if outer.isEmpty then some choice.depth else none
  | fuel + 1, first :: rest =>
      match first with
      | '(' =>
          match readOpening? modes rest with
          | none => none
          | some (.change changed, after) =>
              readFrom? fuel changed names choice.addChange outer after
          | some (.group changed name, after) =>
              if name.any names.contains then none
              else
                readFrom? fuel changed (name.toList ++ names) {} ((modes, choice) :: outer) after
      | ')' =>
          match outer with
          | [] => none
          | (enclosing, before) :: outer =>
              readFrom? fuel enclosing names (before.add (choice.depth + 1)) outer rest
      | '|' => readFrom? fuel modes names choice.another outer rest
      | '[' =>
          (Bracket.read? modes rest).bind fun (depth, after) =>
            readFrom? fuel modes names (choice.add depth) outer after
      | '\\' =>
          (Escape.read? modes rest).bind fun (escape, after) =>
            if escape.isUsable modes then readFrom? fuel modes names (choice.add 0) outer after
            else none
      | '.' => if modes.unicode then readFrom? fuel modes names (choice.add 0) outer rest else none
      | '\x7b' => none
      | _ =>
          if first = '*' ∨ first = '+' ∨ first = '?' then
            choice.repeatLast?.bind fun repeated =>
              readFrom? fuel modes names repeated outer
                (if rest.head? = some '?' then rest.tail else rest)
          else readFrom? fuel modes names (choice.add 0) outer rest

def depthLimit : Nat := 250

def isReadable (text : List Char) : Bool :=
  (readFrom? (text.length + 1) {} [] {} [] text).any fun depth => decide (depth ≤ depthLimit)

end Pattern
end ScoreSheet
