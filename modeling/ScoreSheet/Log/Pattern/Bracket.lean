import ScoreSheet.Log.Pattern.Escape

/-!
Bracketed sets of characters in a pattern.

A set holds characters, ranges, kinds of characters and further sets, and
`&&`, `--` and `~~` combine what stands before with what stands after.  The reader
counts how deep a set is nested, where a union of several items and every
operation is one level.
-/

namespace ScoreSheet
namespace Pattern
namespace Bracket

/-- The set that is being read: how many items its last operand has so far and
how deep they are, and how deep the operands before it are. -/
structure Level where
  items : Nat := 0
  itemDepth : Nat := 0
  operands : Option Nat := none
deriving DecidableEq, Repr

namespace Level

def add (level : Level) (depth : Nat) : Level :=
  { level with items := level.items + 1, itemDepth := max level.itemDepth depth }

def operandDepth (level : Level) : Nat :=
  if level.items ≤ 1 then level.itemDepth else level.itemDepth + 1

def depth (level : Level) : Nat :=
  match level.operands with
  | none => level.operandDepth
  | some before => max before level.operandDepth + 1

def combined (level : Level) : Level :=
  { operands := some level.depth }

end Level

def isUsable (modes : Modes) (value : Char) : Bool :=
  modes.unicode || decide (value.toNat < 0x80)

inductive Item where
  | one (value : Char)
  | many
deriving DecidableEq, Repr

def itemOf? (modes : Modes) (escape : Escape) : Option Item :=
  match escape with
  | .character value _ => if isUsable modes value then some (.one value) else none
  | .kind _ | .category => if escape.isUsable modes then some .many else none
  | .wordEdge | .textEnd => none

def readItem? (modes : Modes) : List Char → Option (Item × List Char)
  | [] => none
  | '\\' :: rest =>
      (Escape.read? modes rest).bind fun (escape, after) =>
        (itemOf? modes escape).map fun item => (item, after)
  | value :: rest => if isUsable modes value then some (.one value, rest) else none

/-- Reads an item or a range. A hyphen in front of a closing bracket or of another
hyphen makes no range. -/
def readRange? (modes : Modes) (text : List Char) : Option (List Char) :=
  (readItem? modes text).bind fun (first, after) =>
    match modes.next after with
    | [] => none
    | '-' :: rest =>
        if modes.peek? rest = some ']' ∨ modes.peek? rest = some '-' then some ('-' :: rest)
        else
          (readItem? modes (modes.next rest)).bind fun (last, after) =>
            match first, last with
            | .one low, .one high => if low ≤ high then some after else none
            | _, _ => none
    | rest => some rest

def kindNames : List String :=
  ["alnum", "alpha", "ascii", "blank", "cntrl", "digit", "graph", "lower", "print", "punct",
    "space", "upper", "word", "xdigit"]

def readKind? : List Char → Option (Bool × List Char)
  | '[' :: ':' :: rest =>
      let negated := rest.head? == some '^'
      let body := if negated then rest.tail else rest
      match body.dropWhile (· ≠ ':') with
      | ':' :: ']' :: after =>
          if kindNames.contains (String.ofList (body.takeWhile (· ≠ ':'))) then
            some (negated, after)
          else none
      | _ => none
  | _ => none

/-- Takes hyphens in front of a set, which stand for themselves, and whatever does
not count between them. -/
def takeHyphens (modes : Modes) (inComment : Bool) (level : Level) : List Char → Level × List Char
  | [] => (level, [])
  | first :: rest =>
      if inComment then takeHyphens modes (first ≠ '\n') level rest
      else if modes.spaced && isBlank first then takeHyphens modes false level rest
      else if modes.spaced && first == '#' then takeHyphens modes true level rest
      else if first = '-' then takeHyphens modes false (level.add 0) rest
      else (level, first :: rest)

/-- Reads what opens a set, after its bracket: a mark that negates it, hyphens,
and a closing bracket that stands for itself. In byte mode no set is negated. -/
def readOpening? (modes : Modes) (text : List Char) : Option (Level × List Char) :=
  (modes.next? text).bind fun (first, rest) =>
    let negated := first == '^'
    if negated && !modes.unicode then none
    else
      let (level, after) := takeHyphens modes false {} (if negated then rest else first :: rest)
      match after with
      | [] => none
      | ']' :: rest => if level.items = 0 then some (level.add 0, rest) else some (level, after)
      | _ => some (level, after)

/-- Reads the rest of nested sets, the innermost first, up to the bracket that
closes the outermost one; gives how deep that is and what follows. The fuel is at
least the number of characters left. -/
def readFrom? (fuel : Nat) (modes : Modes) (level : Level) (outer : List Level)
    (text : List Char) : Option (Nat × List Char) :=
  match fuel, modes.next text with
  | 0, _ => none
  | _ + 1, [] => none
  | fuel + 1, first :: rest =>
      if first = ']' then
        match outer with
        | [] => some (level.depth + 1, rest)
        | enclosing :: outer => readFrom? fuel modes (enclosing.add (level.depth + 1)) outer rest
      else if first = '[' then
        match readKind? (first :: rest) with
        | some (negated, after) =>
            if negated && !modes.unicode then none
            else readFrom? fuel modes (level.add 0) outer after
        | none =>
            (readOpening? modes rest).bind fun (opened, after) =>
              readFrom? fuel modes opened (level :: outer) after
      else if (first = '&' ∨ first = '-' ∨ first = '~') ∧ rest.head? = some first then
        readFrom? fuel modes level.combined outer rest.tail
      else
        (readRange? modes (first :: rest)).bind fun after =>
          readFrom? fuel modes (level.add 0) outer after

def read? (modes : Modes) (text : List Char) : Option (Nat × List Char) :=
  (readOpening? modes text).bind fun (level, after) =>
    readFrom? after.length modes level [] after

end Bracket
end Pattern
end ScoreSheet
