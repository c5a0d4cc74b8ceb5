import WorkflowLaunch.Log.Directive
import WorkflowLaunch.Log.Event
import WorkflowLaunch.Pattern.Matching
import WorkflowLaunch.Text.Pieces

set_option autoImplicit false

/-!
Log filters: rules on events alone and rules on spans, each in the order in which they are tried.
Without any rule a filter lets through everything up to `info`.
-/

namespace WorkflowLaunch.Log

/-- The environment variable that holds the directives of the filter. -/
def filterVariable : String := "WORKFLOW_LITE_LOG"

structure Filter where
  eventRules : List Rule
  spanRules : List Rule
  eventLimit : Limit
  spanLimit : Limit
  deriving DecidableEq, Repr

/-- A refused filter: its directives and what is wrong with the first bad one. -/
structure FilterFault where
  directives : String
  reason : DirectiveFault
  deriving DecidableEq, Repr

def FilterFault.message (fault : FilterFault) : String :=
  s!"invalid log filter \"{fault.directives}\" in {filterVariable}: {fault.reason.message}"

namespace Filter

/-- Scoped rules that need no span count for events alone too, behind the others. A limit covers
every rule that was given, also one that a later rule replaces. -/
def ofRules (rules : List Rule) : Filter :=
  let onSpans := rules.filter Rule.isScoped
  let onEvents := rules.filter (!·.isScoped) ++ onSpans.filterMap Rule.unscoped?
  ⟨Rule.ordered onEvents, Rule.ordered onSpans, Limit.greatest (onEvents.map Rule.limit),
    Limit.greatest (onSpans.map Rule.limit)⟩

def standard : Filter := ofRules [⟨none, none, none, .upTo .info⟩]

def readRules : List (List Char) → Except DirectiveFault (List Rule)
  | [] => .ok []
  | piece :: rest => do
    let rule ← Rule.ofText (String.ofList piece)
    return rule :: (← readRules rest)

/-- Reads directives separated by commas; empty ones are dropped. -/
def ofDirectives (directives : String) : Except FilterFault Filter :=
  match readRules ((Text.pieces ',' directives.toList).filter (· ≠ [])) with
  | .ok [] => .ok standard
  | .ok rules => .ok (ofRules rules)
  | .error reason => .error ⟨directives, reason⟩

/-- The filter that an environment asks for; a blank value asks for nothing. -/
def ofEnvironment (value : Option String) : Except FilterFault Filter :=
  match value with
  | none => .ok standard
  | some directives => if Text.blank directives then .ok standard else ofDirectives directives

def text (filter : Filter) : String :=
  ",".intercalate ((filter.eventRules ++ filter.spanRules).map Rule.text)

/-- The most that the filter can let through. A rule on a value may apply to anything. -/
def limit (filter : Filter) : Limit :=
  if filter.spanRules.any Rule.hasValue then .upTo .trace
  else filter.eventLimit.max filter.spanLimit

/-- Whether a rule is about something with a target and fields. -/
def concerns (rule : Rule) (target : String) (fields : List String) : Bool :=
  (rule.target.all fun name => name.toList.isPrefixOf target.toList) &&
    rule.field.all fun test => fields.contains test.name

/-- Whether the first rule about an event, if any, lets its level through. -/
def enables (filter : Filter) (level : Level) (target : String) (fields : List String) : Bool :=
  match filter.eventRules.find? (concerns · target fields) with
  | some rule => rule.limit.allows level
  | none => false

/-- Whether a field is as a rule asks for. A field that is a text can match a pattern only. -/
def hasField (fields : List (String × String)) (test : FieldTest) : Bool :=
  match test.value with
  | none => true
  | some (.pattern _ pattern) =>
    fields.any fun (name, value) => name == test.name && pattern.accepts value
  | some _ => false

/-- The rules about a span. -/
def rulesOn (filter : Filter) (target : String) (span : Span) : List Rule :=
  filter.spanRules.filter fun rule =>
    concerns rule target (span.fields.map Prod.fst) && rule.span.all (· == span.name)

/-- Whether a span is recorded: a rule is about it, or its level is let through. -/
def enablesSpan (filter : Filter) (level : Level) (target : String) (span : Span) : Bool :=
  !(filter.rulesOn target span).isEmpty ||
    match filter.eventRules.find? fun rule => concerns { rule with field := none } target [] with
    | some rule => rule.limit.allows level
    | none => false

/-- Whether the rules about a span let through what happens inside it. -/
def enablesInside (filter : Filter) (level : Level) (target : String) (span : Span) : Bool :=
  (filter.rulesOn target span).any fun rule =>
    rule.field.all (hasField span.fields) && rule.limit.allows level

end Filter

end WorkflowLaunch.Log
