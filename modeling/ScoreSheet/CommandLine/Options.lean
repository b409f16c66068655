import ScoreSheet.CommandLine.Error
import ScoreSheet.CommandLine.Similarity

/-!
The options of the program, read from its command line and environment.

A setting is taken up only when the reading goes on after it, at the next
argument or at the end; a mistake in its value is then found before one in what
follows.  Only an argument that is not known at all is reported first.
-/

namespace ScoreSheet

structure Options where
  address : Option String
  sampleRate : Binary32
deriving DecidableEq, Repr

/-- What has been read so far: the settings in the order in which they were
taken up, their values, and one setting that may still wait for its value. -/
structure Reading where
  given : List Setting := []
  address : Option String := none
  sampleRate : Option Binary32 := none
  pending : Option (Setting × Option String) := none
deriving DecidableEq, Repr

namespace Reading

/-- Takes up a setting with its value. A setting that is given again is no
longer given. -/
def take (reading : Reading) (setting : Setting) (value : String) :
    Reading × Option CommandLineError :=
  if reading.given.contains setting then
    ({ reading with given := reading.given.erase setting }, some (.repeated setting))
  else
    let taken := { reading with given := reading.given ++ [setting] }
    match setting with
    | .address => ({ taken with address := some value }, none)
    | .sampleRate =>
        match Binary32.read? value with
        | .ok rate => ({ taken with sampleRate := some rate }, none)
        | .error cause => (taken, some (.invalidRate value cause))

def settle (reading : Reading) : Reading × Option CommandLineError :=
  let settled := { reading with pending := none }
  match reading.pending with
  | none => (settled, none)
  | some (setting, none) => (settled, some (.missingValue setting))
  | some (setting, some value) => settled.take setting value

def afterSettling {α : Type} (reading : Reading)
    (next : Reading → Except CommandLineError α) : Except CommandLineError α :=
  match reading.settle with
  | (_, some error) => .error error
  | (settled, none) => next settled

/-- A name that belongs to no argument. What is waiting is still taken up, and
only its mistakes are overlooked. -/
def unknownName (reading : Reading) (name : String) : CommandLineError :=
  .unknownName name (Similarity.suggestion? name) reading.settle.1.given

def requested : Flag → CommandLineError
  | .help => .help
  | .version => .version

def flagOfLetter? (letter : Char) : Option Flag :=
  [Flag.help, Flag.version].find? (·.letter == letter)

def step (reading : Reading) (token : Token) : Except CommandLineError Reading :=
  match token with
  | .endOfOptions => .ok reading
  | .named name value =>
      match Argument.ofName? name, value with
      | none, _ => .error (reading.unknownName name)
      | some (.setting setting), none =>
          reading.afterSettling fun settled => .ok { settled with pending := some (setting, none) }
      | some (.setting setting), some value =>
          reading.afterSettling fun settled =>
            match settled.take setting value with
            | (_, some error) => .error error
            | (taken, none) => .ok taken
      | some (.flag flag), none => reading.afterSettling fun _ => .error (requested flag)
      | some (.flag flag), some value => .error (.unexpectedValue value flag reading.given)
  | .letters first =>
      match flagOfLetter? first with
      | some flag => reading.afterSettling fun _ => .error (requested flag)
      | none => .error (.unexpectedArgument ("-" ++ first.toString))
  | .operand text =>
      match reading.pending with
      | some (setting, none) => .ok { reading with pending := some (setting, some text) }
      | _ => .error (.unexpectedArgument text)

/-- Reads the words of a command line. After the end of options every word is
an operand, and no argument takes one. -/
def readAll (reading : Reading) : List String → Except CommandLineError Reading
  | [] => reading.afterSettling .ok
  | word :: rest =>
      match Token.ofText word with
      | .endOfOptions =>
          match rest with
          | [] => reading.afterSettling .ok
          | operand :: _ => .error (.unexpectedArgument operand)
      | token =>
          match reading.step token with
          | .error error => .error error
          | .ok next => next.readAll rest

/-- Fills in what the command line does not give, from the environment and then
from the default. Only the value that is used has to be valid. -/
def complete (reading : Reading) (environment : Environment) :
    Except CommandLineError Options :=
  let address := reading.address <|> environment.address
  match reading.sampleRate with
  | some rate => .ok ⟨address, rate⟩
  | none =>
      let text := environment.sampleRate.getD CommandLineError.defaultRate
      match Binary32.read? text with
      | .ok rate => .ok ⟨address, rate⟩
      | .error cause => .error (.invalidRate text cause)

end Reading

def Options.read (environment : Environment) (words : List String) :
    Except CommandLineError Options :=
  match ({} : Reading).readAll words with
  | .error error => .error error
  | .ok reading => reading.complete environment

end ScoreSheet
