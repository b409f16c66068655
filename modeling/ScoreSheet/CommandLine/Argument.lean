import ScoreSheet.Text.Split

/-!
What the program calls itself, the arguments of its command line, the variables
that stand in for them, and the tokens that a command line consists of.
-/

namespace ScoreSheet

def programName : String := "score-report"

def version : String := "0.0.0"

structure Environment where
  address : Option String := none
  sampleRate : Option String := none
  collectorLog : Option String := none
  log : Option String := none
  otherAddress : Option String := none
  noColour : Option String := none
  forcedColour : Option String := none
deriving DecidableEq, Repr

namespace Environment

def addressName : String := "SCORE_REPORT_SENTRY_DSN"

def sampleRateName : String := "SCORE_REPORT_TRACES_SAMPLE_RATE"

def collectorLogName : String := "SCORE_REPORT_SENTRY_LOG"

def logName : String := "SCORE_REPORT_LOG"

def otherAddressName : String := "SENTRY_DSN"

def noColourName : String := "NO_COLOR"

def forcedColourName : String := "CLICOLOR_FORCE"

def ofLookup (lookup : String → Option String) : Environment where
  address := lookup addressName
  sampleRate := lookup sampleRateName
  collectorLog := lookup collectorLogName
  log := lookup logName
  otherAddress := lookup otherAddressName
  noColour := lookup noColourName
  forcedColour := lookup forcedColourName

def isFilled (value : Option String) : Bool :=
  value.any (· ≠ "")

/-- Whether display modes are asked for where there is no terminal. -/
def forcesColour (environment : Environment) : Bool :=
  isFilled environment.forcedColour && !isFilled environment.noColour

end Environment

inductive Setting where
  | address
  | sampleRate
deriving DecidableEq, Repr

inductive Flag where
  | help
  | version
deriving DecidableEq, Repr

namespace Setting

def name : Setting → String
  | .address => "sentry-dsn"
  | .sampleRate => "traces-sample-rate"

def valueName : Setting → String
  | .address => "SENTRY_DSN"
  | .sampleRate => "TRACES_SAMPLE_RATE"

def usage (setting : Setting) : String :=
  "--" ++ setting.name ++ " <" ++ setting.valueName ++ ">"

def variableName : Setting → String
  | .address => Environment.addressName
  | .sampleRate => Environment.sampleRateName

def variableIn (environment : Environment) : Setting → Option String
  | .address => environment.address
  | .sampleRate => environment.sampleRate

end Setting

def Flag.name : Flag → String
  | .help => "help"
  | .version => "version"

def Flag.letter : Flag → Char
  | .help => 'h'
  | .version => 'V'

inductive Argument where
  | setting (setting : Setting)
  | flag (flag : Flag)
deriving DecidableEq, Repr

namespace Argument

def all : List Argument :=
  [.setting .address, .setting .sampleRate, .flag .help, .flag .version]

def name : Argument → String
  | .setting valued => valued.name
  | .flag request => request.name

def ofName? (name : String) : Option Argument :=
  all.find? (·.name == name)

end Argument

inductive Token where
  | endOfOptions
  | named (name : String) (value : Option String)
  | letters (first : Char)
  | operand (text : String)
deriving DecidableEq, Repr

/-- Two dashes begin a name, with a value after the first equals sign; one dash
begins letters, of which the first decides. A lone dash is an operand. -/
def Token.ofText (text : String) : Token :=
  match text.toList with
  | ['-', '-'] => .endOfOptions
  | '-' :: '-' :: rest =>
      let name := String.ofList (rest.takeWhile (· ≠ '='))
      match rest.dropWhile (· ≠ '=') with
      | [] => .named name none
      | _ :: value => .named name (some (String.ofList value))
  | '-' :: first :: _ => .letters first
  | _ => .operand text

/-- The name that usage lines show: the last word of the path that the program
was called by, or its own name if there is none. -/
def shownName (path : String) : String :=
  let words := (splitOnChar '/' path.toList).filter fun word => word ≠ [] && word ≠ ['.']
  match words.getLast? with
  | none => programName
  | some word => if word = ['.', '.'] then programName else String.ofList word

end ScoreSheet
