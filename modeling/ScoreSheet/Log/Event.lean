import ScoreSheet.Binary32

/-!
What the program announces while it works, how severe it is, and the thresholds
that let it pass.  An event or a span comes from a callsite, whose target names the
part of the program; the callsite and the open span decide whether it is logged.
-/

namespace ScoreSheet

inductive Level where
  | error
  | warn
  | info
  | debug
  | trace
deriving DecidableEq, Repr

def Level.rank : Level → Nat
  | .error => 1
  | .warn => 2
  | .info => 3
  | .debug => 4
  | .trace => 5

inductive Threshold where
  | off
  | upTo (level : Level)
deriving DecidableEq, Repr

namespace Threshold

def rank : Threshold → Nat
  | .off => 0
  | .upTo level => level.rank

def allows (threshold : Threshold) (level : Level) : Bool :=
  decide (level.rank ≤ threshold.rank)

def max (left right : Threshold) : Threshold :=
  if left.rank ≤ right.rank then right else left

/-- The loosest of several thresholds; without any, nothing passes. -/
def loosest (thresholds : List Threshold) : Threshold :=
  thresholds.foldl max .off

theorem allows_max (left right : Threshold) (level : Level) :
    (left.max right).allows level = (left.allows level || right.allows level) := by
  unfold max
  split <;> simp [allows] <;> grind

end Threshold

inductive Event where
  | starting
  | averaging (count : Nat)
  | averaged (average : Binary32)
  | printFailed (cause : String)
deriving DecidableEq, Repr

structure RenderSpan where
  count : Nat
deriving DecidableEq, Repr

/-- What a filter sees of an event or a span. Only a span has a name. -/
structure Callsite where
  target : String
  level : Level
  spanName : Option String
  fieldNames : List String
deriving DecidableEq, Repr

/-- The target of the whole program, with which every other target begins. -/
def programTarget : String := "score_report"

def averageTarget : String := "score_report::average"

def reportTarget : String := "score_report::report"

def Event.callsite : Event → Callsite
  | .starting => ⟨programTarget, .info, none, ["message", "version"]⟩
  | .averaging _ => ⟨averageTarget, .trace, none, ["message", "count"]⟩
  | .averaged _ => ⟨reportTarget, .debug, none, ["average"]⟩
  | .printFailed _ => ⟨programTarget, .error, none, ["message"]⟩

namespace RenderSpan

def name : String := "render"

def callsite : Callsite := ⟨reportTarget, .debug, some name, ["count"]⟩

end RenderSpan

end ScoreSheet
