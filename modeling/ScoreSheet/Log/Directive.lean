import ScoreSheet.Decimal.Literal
import ScoreSheet.Log.Event
import ScoreSheet.Log.Pattern
import ScoreSheet.Text.Alphanumeric
import ScoreSheet.Text.Cut
import ScoreSheet.Text.Split

/-!
Directives of a log filter, written `target[span{field=value}]=level` with each
piece optional.  A filter is a comma-separated list of them; the first that cannot
be read makes the whole list unreadable.
-/

namespace ScoreSheet

/-- What a directive asks of a field's value. Only a count is ever compared; any
other demand is met by none. -/
inductive FieldValue where
  | count (value : Nat)
  | unmet
deriving DecidableEq, Repr

/-- A field that a directive asks for, and its value if one is asked for. -/
structure FieldDemand where
  name : String
  value : Option FieldValue
deriving DecidableEq, Repr

structure Directive where
  target : Option String
  span : Option String
  field : Option FieldDemand
  threshold : Threshold
deriving DecidableEq, Repr

def readWord? (text : List Char) : Option Nat :=
  let digits := match text with
    | '+' :: rest => rest
    | _ => text
  if digits ≠ [] ∧ digits.all Char.isDigit ∧ digitsValue digits < UInt64.size then
    some (digitsValue digits)
  else none

/-- Reads a threshold by its number, from 0 for none to 5 for the least severe
level, or by its name in either case. -/
def Threshold.read? (text : List Char) : Option Threshold :=
  match readWord? text with
  | some 0 => some .off
  | some 1 => some (.upTo .error)
  | some 2 => some (.upTo .warn)
  | some 3 => some (.upTo .info)
  | some 4 => some (.upTo .debug)
  | some 5 => some (.upTo .trace)
  | _ =>
      match String.ofList (text.map Char.toLower) with
      | "off" => some .off
      | "error" => some (.upTo .error)
      | "warn" => some (.upTo .warn)
      | "info" => some (.upTo .info)
      | "debug" => some (.upTo .debug)
      | "trace" => some (.upTo .trace)
      | _ => none

/-- Reads what is asked of a value: a count, another number or a pattern. -/
def FieldValue.read? (text : List Char) : Option FieldValue :=
  match readWord? text with
  | some value => some (.count value)
  | none =>
      match Literal.read? (String.ofList text) with
      | .ok _ => some .unmet
      | .error _ => if Pattern.isReadable text then some .unmet else none

/-- Reads `name` or `name=value`; what follows a second equals sign is ignored. -/
def FieldDemand.read? (text : List Char) : Option FieldDemand :=
  match splitOnChar '=' text with
  | name :: value :: _ =>
      (FieldValue.read? value).map fun value => ⟨String.ofList name, some value⟩
  | _ => some ⟨String.ofList text, none⟩

/-- Why a directive cannot be read: it is not one, or one of its texts would begin
or end inside a character. -/
inductive DirectiveError where
  | malformed
  | splitCharacter (split : SplitCharacter)
deriving DecidableEq, Repr

namespace Directive

inductive Place where
  | start
  | word (start : Nat)
  | span (start : Nat)
  | field (start : Nat)
  | fieldEnd
  | spanEnd
  | level (start : Nat)
deriving DecidableEq, Repr

def everything : Directive :=
  ⟨none, none, none, .upTo .trace⟩

def textAt (piece : List Char) (start stop : Nat) : Except DirectiveError (List Char) :=
  (cut piece start stop).mapError .splitCharacter

def textFrom (piece : List Char) (start : Nat) : Except DirectiveError (List Char) :=
  (cutFrom piece start).mapError .splitCharacter

def orMalformed {α : Type} (found : Option α) : Except DirectiveError α :=
  match found with
  | some value => .ok value
  | none => .error .malformed

/-- The place and the directive after one more character, which stands at
`position`. -/
def step (piece : List Char) (place : Place) (found : Directive) (position : Nat)
    (character : Char) : Except DirectiveError (Place × Directive) :=
  match place, character with
  | .start, '[' => .ok (.span (position + 1), found)
  | .start, _ =>
      if character = '-' ∨ character = ':' ∨ character = '_' ∨ isAlphanumeric character then
        .ok (.word position, found)
      else .error .malformed
  | .word start, '=' =>
      (textAt piece start position).map fun target =>
        (.level (position + 1), { found with target := some (String.ofList target) })
  | .word start, '[' =>
      (textAt piece start position).map fun target =>
        (.span (position + 1), { found with target := some (String.ofList target) })
  | .word start, _ => .ok (.word start, found)
  | .span start, ']' =>
      (textAt piece start position).map fun span =>
        (.spanEnd, { found with span := some (String.ofList span) })
  | .span start, '\x7b' =>
      (textAt piece start position).map fun span =>
        (.field (position + 1),
          { found with span := if span = [] then none else some (String.ofList span) })
  | .span start, _ => .ok (.span start, found)
  | .field start, '\x7d' =>
      (textAt piece start position).bind fun field =>
        if field = [] then .error .malformed
        else (orMalformed (FieldDemand.read? field)).map fun field =>
          (.fieldEnd, { found with field := some field })
  | .field start, _ => .ok (.field start, found)
  | .fieldEnd, ']' => .ok (.spanEnd, found)
  | .fieldEnd, _ => .error .malformed
  | .spanEnd, '=' => .ok (.level (position + 1), found)
  | .spanEnd, _ => .error .malformed
  | .level start, _ => .ok (.level start, found)

/-- The directive when the characters are used up. A word alone is a threshold
if it names one and else a target; an absent threshold lets everything pass. -/
def finish (piece : List Char) (place : Place) (found : Directive) :
    Except DirectiveError Directive :=
  match place with
  | .word start =>
      (textFrom piece start).map fun word =>
        match Threshold.read? word with
        | some threshold => { found with threshold }
        | none => { found with target := some (String.ofList word) }
  | .level start =>
      (textFrom piece start).bind fun word =>
        if word = [] then .ok found
        else (orMalformed (Threshold.read? word)).map fun threshold => { found with threshold }
  | .spanEnd => .ok found
  | _ => .error .malformed

def readFrom (piece : List Char) (place : Place) (found : Directive) (position : Nat) :
    List Char → Except DirectiveError Directive
  | [] => finish piece place found
  | character :: rest =>
      (step piece place found position character).bind fun (place, found) =>
        readFrom piece place found (position + character.utf8Size) rest

/-- Reads one directive. Positions are counted from the first character that is
not blank, while texts are cut from the whole piece, so blanks in front of a
directive shift each of its texts. -/
def read (piece : List Char) : Except DirectiveError Directive :=
  readFrom piece .start everything 0 (trimBlanks piece)

def readList (text : String) : Except DirectiveError (List Directive) :=
  ((splitOnChar ',' text.toList).filter (· ≠ [])).mapM read

end Directive
end ScoreSheet
