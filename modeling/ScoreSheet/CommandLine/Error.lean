import ScoreSheet.CommandLine.Argument
import ScoreSheet.Decimal.Literal
import ScoreSheet.Terminal

/-!
Why reading a command line ends without options, and the text that is printed
then.  Asking for help or for the version ends it as well, though not as a
mistake.
-/

namespace ScoreSheet

inductive CommandLineError where
  | help
  | version
  | unexpectedArgument (text : String)
  | unknownName (name : String) (similar : Option Argument) (given : List Setting)
  | missingValue (setting : Setting)
  | repeated (setting : Setting)
  | invalidRate (text : String) (cause : LiteralError)
  | unexpectedValue (value : String) (flag : Flag) (given : List Setting)
deriving DecidableEq, Repr

namespace CommandLineError

/-- Whether the text was asked for and goes to the standard output. -/
def isRequest : CommandLineError → Bool
  | .help | .version => true
  | _ => false

def exitCode (error : CommandLineError) : Nat :=
  if error.isRequest then 0 else 2

def bold : String → String := Terminal.styled ["1"]

def heading : String → String := Terminal.styled ["1", "4"]

def mistaken : String → String := Terminal.styled ["33"]

def suggested : String → String := Terminal.styled ["32"]

def usageLine (program arguments : String) : String :=
  heading "Usage:" ++ " " ++ bold program ++ " " ++ arguments

def anyArguments : String := "[OPTIONS]"

/-- A variable and its value as the help text shows them. Lines after the first
are indented like the text around them. -/
def variableText (environment : Environment) (setting : Setting) : String :=
  let value := ((setting.variableIn environment).getD "").toList.flatMap fun character =>
    if character = '\n' then "\n          ".toList else [character]
  "[env: " ++ setting.variableName ++ "=" ++ String.ofList value ++ "]"

def defaultRate : String := "0.1"

def settingHelp (setting : Setting) (description : String) : String :=
  "      " ++ bold ("--" ++ setting.name) ++ " <" ++ setting.valueName ++ ">\n          " ++
    description ++ "\n"

def flagHelp (flag : Flag) (description : String) : String :=
  "  " ++ bold ("-" ++ flag.letter.toString) ++ ", " ++ bold ("--" ++ flag.name) ++
    "\n          " ++ description ++ "\n"

def summary : String := "Prints a small fixed score sheet along with its average"

def helpText (program : String) (environment : Environment) : String :=
  summary ++ "\n\n" ++ usageLine program anyArguments ++ "\n\n" ++ heading "Options:" ++ "\n" ++
    settingHelp .address ("Sentry DSN " ++ variableText environment .address) ++
    settingHelp .sampleRate
      ("Performance monitoring sample rate for Sentry " ++
        variableText environment .sampleRate ++ " [default: " ++ defaultRate ++ "]") ++
    flagHelp .help "Print help" ++ flagHelp .version "Print version"

def listed : Argument → String
  | .setting setting => bold ("--" ++ setting.name) ++ " <" ++ setting.valueName ++ ">"
  | .flag flag => bold ("--" ++ flag.name)

/-- What a usage line lists for an unknown name: the settings given so far and
the suggested argument, or any argument if there are none. -/
def unknownUsage (given : List Setting) (similar : Option Argument) : String :=
  let arguments := given.map Argument.setting
  let arguments := arguments ++ (similar.filter fun argument => !arguments.contains argument).toList
  if arguments.isEmpty then anyArguments else String.intercalate " " (arguments.map listed)

/-- What a usage line lists for a flag that was given a value. Once a setting was
given, the settings are listed as alternatives. -/
def flagUsage (given : List Setting) (flag : Flag) : String :=
  let settings :=
    if given.isEmpty then ""
    else " <" ++ Setting.address.usage ++ "|" ++ Setting.sampleRate.usage ++ ">"
  listed (.flag flag) ++ settings

/-- What went wrong, and the usage line unless the mistake is in a value. -/
def description (program : String) : CommandLineError → String
  | .help | .version => ""
  | .unexpectedArgument text =>
      "unexpected argument '" ++ mistaken text ++ "' found\n\n" ++ usageLine program anyArguments
  | .unknownName name similar given =>
      let tip := match similar with
        | none => ""
        | some argument =>
            "  " ++ suggested "tip:" ++ " a similar argument exists: '" ++
              suggested ("--" ++ argument.name) ++ "'\n\n"
      "unexpected argument '" ++ mistaken ("--" ++ name) ++ "' found\n\n" ++ tip ++
        usageLine program (unknownUsage given similar)
  | .missingValue setting =>
      "a value is required for '" ++ mistaken setting.usage ++ "' but none was supplied"
  | .repeated setting =>
      "the argument '" ++ mistaken setting.usage ++ "' cannot be used multiple times\n\n" ++
        usageLine program anyArguments
  | .invalidRate text cause =>
      "invalid value '" ++ mistaken text ++ "' for '" ++ bold Setting.sampleRate.usage ++ "': " ++
        cause.message
  | .unexpectedValue value flag given =>
      "unexpected value '" ++ mistaken value ++ "' for '" ++ bold ("--" ++ flag.name) ++
        "' found; no more were expected\n\n" ++ usageLine program (flagUsage given flag)

def styledMessage (program : String) (environment : Environment) (error : CommandLineError) :
    String :=
  match error with
  | .help => helpText program environment
  | .version => programName ++ " " ++ ScoreSheet.version ++ "\n"
  | _ =>
      Terminal.styled ["1", "31"] "error:" ++ " " ++ error.description program ++
        "\n\nFor more information, try '" ++ bold "--help" ++ "'.\n"

def message (program : String) (environment : Environment) (error : CommandLineError) : String :=
  Terminal.shown .page (error.styledMessage program environment)

/-- The text as the program prints it where there is no terminal. -/
def printed (program : String) (environment : Environment) (error : CommandLineError) : String :=
  let styled := error.styledMessage program environment
  if environment.forcesColour then styled else Terminal.shown .stream styled

section

variable {error : CommandLineError}

/-- A mistake is announced as one, whatever is kept of the display modes. -/
theorem printed_of_mistake (mistake : error.isRequest = false) (program : String)
    (environment : Environment) :
    ∃ rest, error.printed program environment =
      (if environment.forcesColour then "\x1b[1m\x1b[31merror:\x1b[0m " else "error: ") ++
        rest := by
  obtain ⟨rest, styled⟩ : ∃ rest, error.styledMessage program environment =
      Terminal.styled ["1", "31"] "error:" ++ " " ++ rest := by
    cases error with
    | help => cases mistake
    | version => cases mistake
    | _ => exact ⟨_, by simp only [styledMessage, String.append_assoc]; rfl⟩
  rw [printed, styled]
  split
  · exact ⟨rest, rfl⟩
  · exact ⟨_, Terminal.shown_error .stream rest⟩

theorem printed_ne_empty (error : CommandLineError) (program : String)
    (environment : Environment) : error.printed program environment ≠ "" := by
  cases request : error.isRequest with
  | false =>
      obtain ⟨rest, begins⟩ := printed_of_mistake request program environment
      rw [begins]
      split <;> simp
  | true =>
      obtain ⟨first, rest, begins, shows⟩ : ∃ first rest,
          (error.styledMessage program environment).toList = first :: rest ∧
            Terminal.Mode.text.shows first = true := by
        cases error with
        | help =>
            simp only [styledMessage, helpText, summary, String.toList_append]
            exact ⟨'P', _, rfl, rfl⟩
        | version =>
            simp only [styledMessage, programName, String.toList_append]
            exact ⟨'s', _, rfl, rfl⟩
        | _ => cases request
      rw [printed]
      split
      · intro none
        rw [none] at begins
        cases begins
      · exact Terminal.shown_ne_empty .stream begins shows

end

end CommandLineError
end ScoreSheet
