import ScoreSheet.Log.Directive
import ScoreSheet.Log.Event

/-!
What log filters let pass.

A directive without a span name and without a field value is *static*: among the
static directives that concern a callsite the most specific one decides alone.
A directive with a span name or a field is *dynamic*: once a span that it
concerns is open, its threshold applies to everything inside, whatever the
static directives say.

Two filters look at every callsite, one for the collector of reports and one for
the log.  A callsite that both accept outright is not put to either again.
-/

namespace ScoreSheet

namespace Directive

def isDynamic (directive : Directive) : Bool :=
  directive.span.isSome || directive.field.isSome

def hasValue (directive : Directive) : Bool :=
  match directive.field with
  | some demand => demand.value.isSome
  | none => false

def isStatic (directive : Directive) : Bool :=
  directive.span.isNone && !directive.hasValue

def coversTarget (directive : Directive) (callsite : Callsite) : Bool :=
  match directive.target with
  | some target => target.toList.isPrefixOf callsite.target.toList
  | none => true

def coversField (directive : Directive) (callsite : Callsite) : Bool :=
  match directive.field with
  | some demand => callsite.fieldNames.contains demand.name
  | none => true

/-- Whether a static directive concerns a callsite. The field that it asks for
is looked up in events only. -/
def concerns (directive : Directive) (callsite : Callsite) : Bool :=
  directive.coversTarget callsite &&
    (callsite.spanName.isSome || directive.coversField callsite)

/-- Longer targets are more specific, and of two equally long ones the directive
that asks for a field. -/
def specificity (directive : Directive) : Nat :=
  let target := match directive.target with
    | some target => target.utf8ByteSize + 1
    | none => 0
  2 * target + if directive.field.isSome then 1 else 0

def fieldName (directive : Directive) : String :=
  match directive.field with
  | some demand => demand.name
  | none => ""

/-- Whether a directive is preferred to an earlier one that concerns the same
callsite: it is more specific or equally specific. -/
def supersedes (later earlier : Directive) : Bool :=
  if later.specificity = earlier.specificity then
    !decide (later.fieldName < earlier.fieldName)
  else decide (earlier.specificity < later.specificity)

/-- The directive that decides about a callsite, when `chosen` decides so far. -/
def selectFrom (callsite : Callsite) (chosen : Option Directive) :
    List Directive → Option Directive
  | [] => chosen
  | directive :: rest =>
      let preferred := match chosen with
        | none => true
        | some earlier => directive.supersedes earlier
      selectFrom callsite
        (if directive.concerns callsite && preferred then some directive else chosen) rest

/-! ### Dynamic directives -/

def concernsSpan (directive : Directive) (callsite : Callsite) : Bool :=
  directive.coversTarget callsite && directive.coversField callsite &&
    (directive.span.isNone || directive.span == callsite.spanName)

def matchesCount (directive : Directive) (count : Nat) : Bool :=
  match directive.field with
  | some ⟨_, some value⟩ => value == .count count
  | _ => true

def sameSelection (left right : Directive) : Bool :=
  left.target == right.target && left.span == right.span && left.field == right.field

/-- The directives without those that a later one with the same selection
replaces. -/
def withoutReplaced : List Directive → List Directive
  | [] => []
  | directive :: rest =>
      if rest.any directive.sameSelection then withoutReplaced rest
      else directive :: withoutReplaced rest

end Directive

structure Filter where
  directives : List Directive
deriving DecidableEq, Repr

inductive Interest where
  | always
  | sometimes
  | never
deriving DecidableEq, Repr

namespace Filter

def ofProgram (level : Level) : Filter :=
  ⟨[⟨some programTarget, none, none, .upTo level⟩]⟩

/-- The filter that a variable asks for. If it is not set or malformed, the
program's own events up to `otherwise` pass. -/
def ofVariable (setting : Option String) (otherwise : Level) : Except SplitCharacter Filter :=
  match setting.map Directive.readList with
  | some (.ok directives) => .ok ⟨directives⟩
  | some (.error (.splitCharacter split)) => .error split
  | some (.error .malformed) | none => .ok (ofProgram otherwise)

def statics (filter : Filter) : List Directive :=
  filter.directives.filter Directive.isStatic

def dynamics (filter : Filter) : List Directive :=
  filter.directives.filter Directive.isDynamic

def select? (filter : Filter) (callsite : Callsite) : Option Directive :=
  Directive.selectFrom callsite none filter.statics

def passesStatics (filter : Filter) (callsite : Callsite) : Bool :=
  match filter.select? callsite with
  | some directive => directive.threshold.allows callsite.level
  | none => false

def spanDirectives (filter : Filter) (callsite : Callsite) : List Directive :=
  (Directive.withoutReplaced filter.dynamics).filter (·.concernsSpan callsite)

def dynamicLimit (filter : Filter) : Threshold :=
  Threshold.loosest (filter.dynamics.map (·.threshold))

/-- The least severe level that can pass. Whether a field has a value is known
only when the span is open, so a directive that asks for one rules out nothing. -/
def limit (filter : Filter) : Threshold :=
  if filter.dynamics.any Directive.hasValue then .upTo .trace
  else Threshold.loosest (filter.directives.map (·.threshold))

/-- Whether a callsite is a span that dynamic directives concern. -/
def watches (filter : Filter) (callsite : Callsite) : Bool :=
  callsite.spanName.isSome && !(filter.spanDirectives callsite).isEmpty

def interest (filter : Filter) (callsite : Callsite) : Interest :=
  if filter.watches callsite || filter.passesStatics callsite then .always
  else if filter.dynamics.isEmpty then .never
  else .sometimes

def scope? (filter : Filter) (span : RenderSpan) : Option Threshold :=
  if filter.watches RenderSpan.callsite then
    some (Threshold.loosest
      (((filter.spanDirectives RenderSpan.callsite).filter (·.matchesCount span.count)).map
        (·.threshold)))
  else none

def passes (filter : Filter) (scope : Option Threshold) (callsite : Callsite) : Bool :=
  let inScope := match scope with
    | some threshold => threshold.allows callsite.level
    | none => false
  filter.dynamicLimit.allows callsite.level && (filter.watches callsite || inScope) ||
    filter.passesStatics callsite

end Filter

/-! ### Both filters -/

structure Filters where
  collector : Filter
  log : Filter
deriving DecidableEq, Repr

namespace Filters

def shows (filters : Filters) (scope : Option Threshold) (callsite : Callsite) : Bool :=
  (filters.collector.limit.max filters.log.limit).allows callsite.level &&
    match filters.collector.interest callsite, filters.log.interest callsite with
    | .always, .always => true
    | .never, .never => false
    | _, _ => filters.log.passes scope callsite

/-- The span that log lines name, out of the one that is open. -/
def shownSpan? (filters : Filters) (opened : Option RenderSpan) : Option RenderSpan :=
  opened.filter fun _ => filters.shows none RenderSpan.callsite

def showsEvent (filters : Filters) (opened : Option RenderSpan) (event : Event) : Bool :=
  filters.shows ((filters.shownSpan? opened).bind filters.log.scope?) event.callsite

end Filters
end ScoreSheet
