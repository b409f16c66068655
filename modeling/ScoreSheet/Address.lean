import ScoreSheet.Address.Host
import ScoreSheet.Address.Path

/-!
Addresses of a collector of error reports, `scheme://key@host:number/project`.

Reading takes an address apart as a browser does: outer blanks and line breaks
are dropped, the schemes of the web need a host, every other scheme may do
without.  `Address.check` then says whether a collector can be reached there.
-/

namespace ScoreSheet

structure Address where
  scheme : String
  username : List Char
  path : List Char
deriving DecidableEq, Repr

inductive AddressError where
  | invalidUrl
  | noProject
  | emptyProject
  | noUsername
  | invalidScheme
deriving DecidableEq, Repr

def AddressError.name : AddressError → String
  | .invalidUrl => "InvalidUrl"
  | .noProject => "NoProjectId"
  | .emptyProject => "InvalidProjectId(EmptyValue)"
  | .noUsername => "NoUsername"
  | .invalidScheme => "InvalidScheme"

def AddressError.message (error : AddressError) : String :=
  "invalid value for DSN: " ++ error.name

namespace Address

def isControlOrSpace (character : Char) : Bool :=
  decide (character.toNat ≤ 0x20)

def trimmed (text : List Char) : List Char :=
  let front := text.dropWhile isControlOrSpace
  (front.reverse.dropWhile isControlOrSpace).reverse

def isSchemeCharacter (character : Char) : Bool :=
  character.isAlphanum || character == '+' || character == '-' || character == '.'

def takeScheme? (text : List Char) : Option (String × List Char) :=
  let scheme := withoutBreaks (text.takeWhile (· ≠ ':'))
  match scheme, text.dropWhile (· ≠ ':') with
  | first :: _, _ :: rest =>
      if first.isAlpha && scheme.all isSchemeCharacter then
        some (String.ofList (scheme.map Char.toLower), rest)
      else none
  | _, _ => none

def isWebScheme (scheme : String) : Bool :=
  ["http", "https", "ws", "wss", "ftp"].contains scheme

def endsAuthority (web : Bool) (character : Char) : Bool :=
  isPathSeparator web character || character == '?' || character == '#'

def pathText (text : List Char) : List Char :=
  text.takeWhile fun character => character != '?' && character != '#'

def splitLastAt? : List Char → Option (List Char × List Char)
  | [] => none
  | first :: rest =>
      match splitLastAt? rest with
      | some (before, after) => some (first :: before, after)
      | none => if first = '@' then some ([], rest) else none

def splitPortNumber (bracketed : Bool) : List Char → List Char × List Char
  | [] => ([], [])
  | first :: rest =>
      if first = ':' ∧ bracketed = false then ([], first :: rest)
      else
        let inside := if first = '[' then true else if first = ']' then false else bracketed
        let (host, number) := splitPortNumber inside rest
        (first :: host, number)

/-- Whether a text is nothing, or a colon and a port number below `2 ^ 16`, whose
digits may be missing. -/
def isPortNumber (text : List Char) : Bool :=
  match text with
  | [] => true
  | _ :: digits => digits.all Char.isDigit && (readBase? 10 digits).any (· < UInt16.size)

/-- The username and the host with its port number, unless an `@` introduces nothing. -/
def splitUser? (authority : List Char) (ended : Bool) : Option (List Char × List Char) :=
  match splitLastAt? authority with
  | none => some ([], authority)
  | some ([], []) => if ended then none else some ([], [])
  | some (user, host) => some (user, host)

/-- The path after a host and its port number. Only addresses outside the web may
have none, or one without a slash in front. -/
def readPath (web : Bool) (text : List Char) : List Char :=
  match text with
  | [] => if web then ['/'] else []
  | first :: rest => Path.read web (if isPathSeparator web first then rest else text)

/-- Reads what follows the slashes of an address: who, where and which path. The
backslash that ends a port number begins the path, and a colon without a name or
a password is nobody. -/
def readAuthority? (scheme : String) (text : List Char) : Option Address :=
  let web := isWebScheme scheme
  let authority := text.takeWhile fun character => !endsAuthority web character
  let rest := text.dropWhile fun character => !endsAuthority web character
  (splitUser? authority !rest.isEmpty).bind fun (user, place) =>
    let (host, tail) := splitPortNumber false place
    let number := tail.takeWhile (· ≠ '\\')
    let path := pathText (tail.dropWhile (· ≠ '\\') ++ rest)
    let validHost := if web then Host.isValidForWeb host else Host.isValidOpaque host
    let anybody := !user.isEmpty && user != [':']
    let needless := host.isEmpty && (web || anybody || !number.isEmpty)
    if validHost && isPortNumber number && !needless then
      some ⟨scheme, user.takeWhile (· ≠ ':'), readPath web path⟩
    else none

/-- The text of the path in what follows `file://`. A drive in place of the host
belongs to the path, and so does the slash after a host that is this machine. -/
def filePath? (text : List Char) : Option (List Char) :=
  let host := withoutBreaks (text.takeWhile fun character => !endsAuthority true character)
  let after := text.dropWhile fun character => !endsAuthority true character
  if Path.isDrive host then some text
  else if host.isEmpty || Host.isThisMachine host then some after
  else if Host.isValidForWeb host then some (after.drop 1)
  else none

def readFile? (text : List Char) : Option Address :=
  let isSlash := isPathSeparator true
  let path := match text.dropWhile isBreak with
    | first :: rest =>
        if isSlash first then
          match rest.dropWhile isBreak with
          | second :: others => if isSlash second then filePath? others else some rest
          | [] => some []
        else some text
    | [] => some []
  path.map fun segments => ⟨"file", [], Path.readFile segments⟩

def readAfterScheme? (scheme : String) (text : List Char) : Option Address :=
  let solid := withoutBreaks text
  if scheme = "file" then readFile? (pathText text)
  else if isWebScheme scheme then
    readAuthority? scheme (solid.dropWhile (isPathSeparator true))
  else
    match solid with
    | '/' :: '/' :: rest => readAuthority? scheme rest
    | '/' :: rest => some ⟨scheme, [], Path.read false (pathText rest)⟩
    | _ => some ⟨scheme, [], pathText solid⟩

def read? (text : String) : Option Address :=
  (takeScheme? (trimmed text.toList)).bind fun (scheme, rest) => readAfterScheme? scheme rest

/-- Whether an address is one of a collector: it names a project, a user and the
web, found missing in this order. -/
def check (text : String) : Except AddressError Address :=
  match read? text with
  | none => .error .invalidUrl
  | some address =>
      if address.path = ['/'] then .error .noProject
      else if address.path.all (· = '/') then .error .emptyProject
      else if address.username.isEmpty then .error .noUsername
      else if address.scheme = "http" ∨ address.scheme = "https" then .ok address
      else .error .invalidScheme

end Address
end ScoreSheet
