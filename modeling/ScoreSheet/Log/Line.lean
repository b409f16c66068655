import ScoreSheet.CommandLine.Argument
import ScoreSheet.Decimal.Text
import ScoreSheet.Log.Filter

/-!
The lines of the log.  A line holds the level, the open span if the filter shows
it, the target and the event's text; with colours, each of these parts is
wrapped in its own display mode.
-/

namespace ScoreSheet

inductive Colouring where
  | plain
  | coloured
deriving DecidableEq, Repr

namespace Colouring

def paint (colouring : Colouring) (mode text : String) : String :=
  match colouring with
  | .plain => text
  | .coloured => "\x1b[" ++ mode ++ "m" ++ text ++ "\x1b[0m"

def bold (colouring : Colouring) : String → String := colouring.paint "1"

def faint (colouring : Colouring) : String → String := colouring.paint "2"

def italic (colouring : Colouring) : String → String := colouring.paint "3"

def field (colouring : Colouring) (name value : String) : String :=
  colouring.italic name ++ colouring.faint "=" ++ value

end Colouring

def Level.label (colouring : Colouring) : Level → String
  | .error => colouring.paint "31" "ERROR"
  | .warn => colouring.paint "33" " WARN"
  | .info => colouring.paint "32" " INFO"
  | .debug => colouring.paint "34" "DEBUG"
  | .trace => colouring.paint "35" "TRACE"

def Event.text (colouring : Colouring) : Event → String
  | .starting => "starting… " ++ colouring.field "version" ("\"" ++ version ++ "\"")
  | .averaging count => "averaging… " ++ colouring.field "count" (toString count)
  | .averaged average => colouring.field "average" average.toShortestText
  | .printFailed cause => "failed to print the report: " ++ cause

def RenderSpan.label (colouring : Colouring) (span : RenderSpan) : String :=
  colouring.bold RenderSpan.name ++ colouring.bold "\x7b" ++
    colouring.field "count" (toString span.count) ++ colouring.bold "\x7d" ++
    colouring.faint ":" ++ " "

def Event.line (colouring : Colouring) (shownSpan : Option RenderSpan) (event : Event) : String :=
  let callsite := event.callsite
  let span := match shownSpan with
    | some span => span.label colouring
    | none => ""
  callsite.level.label colouring ++ " " ++ span ++ colouring.faint callsite.target ++
    colouring.faint ":" ++ " " ++ event.text colouring ++ "\n"

structure Log where
  filters : Filters
  colouring : Colouring
deriving DecidableEq, Repr

/-- What a log writes for events that happen while `opened` is open. -/
def Log.lines (log : Log) (opened : Option RenderSpan) (events : List Event) : String :=
  let shown := events.filter (log.filters.showsEvent opened)
  String.join (shown.map (Event.line log.colouring (log.filters.shownSpan? opened)))

end ScoreSheet
