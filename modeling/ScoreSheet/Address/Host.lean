import ScoreSheet.Address.Domain

/-!
Valid hosts of an address: a bracketed address of eight groups, a dotted number
or a domain name for the schemes of the web, and any text without separators for
the other schemes.
-/

namespace ScoreSheet
namespace Host

/-- Reads one part of a dotted number: after `0x` in base 16, after another
leading zero in base 8. -/
def readPart? : List Char → Option Nat
  | [] => none
  | '0' :: 'x' :: digits => readBase? 16 digits
  | '0' :: 'X' :: digits => readBase? 16 digits
  | '0' :: digits => readBase? 8 digits
  | digits => readBase? 10 digits

def dottedParts (host : List Char) : List (List Char) :=
  let parts := splitOnChar '.' host
  match parts.getLast? with
  | some [] => if parts.length = 1 then parts else parts.dropLast
  | _ => parts

/-- Whether a host has to be a dotted number because its last part is a number. -/
def endsInNumber (host : List Char) : Bool :=
  match (dottedParts host).getLast? with
  | none | some [] => false
  | some part => part.all Char.isDigit || (readPart? part).isSome

/-- Whether a host is a dotted number of at most four parts. All but the last
are one byte, and the last fills the bytes that are left. -/
def isDottedNumber (host : List Char) : Bool :=
  let parts := dottedParts host
  match parts.mapM readPart? with
  | none => false
  | some numbers =>
      decide (parts.length ≤ 4) && numbers.dropLast.all (· ≤ 255) &&
        numbers.getLast?.all fun last => decide (last < 1 <<< (8 * (5 - numbers.length)))

def isGroup (group : List Char) : Bool :=
  !group.isEmpty && decide (group.length ≤ 4) && (readBase? 16 group).isSome

/-- Whether a text is four bytes in base 10 without leading zeros. -/
def isDottedTail (tail : List Char) : Bool :=
  let parts := splitOnChar '.' tail
  parts.length == 4 && parts.all fun part =>
    !part.isEmpty && (part == ['0'] || part.head? != some '0') &&
      ((readBase? 10 part).any (· ≤ 255))

/-- How many groups a colon-separated text holds, if each is one. A dotted tail,
where allowed, counts as two. -/
def groupCount? (tailAllowed : Bool) (text : List Char) : Option Nat :=
  if text.isEmpty then some 0
  else
    let groups := splitOnChar ':' text
    if groups.all isGroup then some groups.length
    else if tailAllowed && groups.dropLast.all isGroup && groups.getLast?.any isDottedTail then
      some (groups.length + 1)
    else none

def splitDoubleColon? : List Char → Option (List Char × List Char)
  | [] => none
  | ':' :: ':' :: rest => some ([], rest)
  | first :: rest => (splitDoubleColon? rest).map fun (before, after) => (first :: before, after)

/-- Whether a text is eight groups, or at most seven around one double colon. -/
def isBracketed (text : List Char) : Bool :=
  match splitDoubleColon? text with
  | none => groupCount? true text == some 8
  | some (before, after) =>
      match groupCount? false before, groupCount? true after with
      | some left, some right => decide (left + right ≤ 7)
      | _, _ => false

def isSeparator (character : Char) : Bool :=
  "\x00\t\n\r #/:<>?@[\\]^|".contains character

def isForbidden (character : Char) : Bool :=
  isSeparator character || decide (character.toNat < 0x20) || character == '%' ||
    character.toNat == 0x7f

/-- The bytes of a text with each `%` before two digits of base 16 and those
digits replaced by the byte that they write. -/
def percentDecoded : List Char → List UInt8
  | [] => []
  | '%' :: high :: low :: rest =>
      match hexDigit? high, hexDigit? low with
      | some high, some low => UInt8.ofNat (16 * high + low) :: percentDecoded rest
      | _, _ => '%'.toString.toUTF8.data.toList ++ percentDecoded (high :: low :: rest)
  | first :: rest => first.toString.toUTF8.data.toList ++ percentDecoded rest

def bracketed? (host : List Char) : Option (List Char) :=
  match host with
  | '[' :: rest => some rest
  | _ => none

def isValidBracketed (rest : List Char) : Bool :=
  rest.getLast? == some ']' && isBracketed rest.dropLast

def name? (host : List Char) : Option (List Char) :=
  (String.fromUTF8? (ByteArray.mk (percentDecoded host).toArray)).bind fun decoded =>
    Domain.read? decoded.toList

def isValidForWeb (host : List Char) : Bool :=
  match bracketed? host with
  | some rest => isValidBracketed rest
  | none =>
      match name? host with
      | none => false
      | some name =>
          !name.isEmpty && !name.any isForbidden && (!endsInNumber name || isDottedNumber name)

def isThisMachine (host : List Char) : Bool :=
  name? host == some "localhost".toList

def isValidOpaque (host : List Char) : Bool :=
  match bracketed? host with
  | some rest => isValidBracketed rest
  | none => !host.any isSeparator

end Host
end ScoreSheet
