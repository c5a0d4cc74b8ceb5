import WorkflowLaunch.Log.Rule
import WorkflowLaunch.Pattern.Reader
import WorkflowLaunch.Text.Alphanumeric
import WorkflowLaunch.Text.Blank
import WorkflowLaunch.Text.Integer
import WorkflowLaunch.Text.Octets

set_option autoImplicit false

/-!
The written form of a rule: `level`, `target`, `target=level` or
`target[span{field=value}]=level` with any of the inner parts left out. A directive is scanned
without the blanks around it, but its pieces are cut from the text with them, at the same offsets.
-/

namespace WorkflowLaunch.Log

inductive DirectiveFault where
  | malformed
  | badLevel
  | badPattern (fault : PatternFault)
  deriving DecidableEq, Repr

def DirectiveFault.message : DirectiveFault → String
  | malformed => "invalid filter directive"
  | badLevel =>
    "error parsing level filter: expected one of \"off\", \"error\", \"warn\", \"info\", " ++
      "\"debug\", \"trace\", or a number 0-5"
  | badPattern fault => "invalid field filter: " ++ fault.message

/-- A limit by its name in any case, or by its number. -/
def Limit.ofText? (text : String) : Option Limit :=
  match Text.unsigned64 text.toList with
  | .ok number => Limit.all.find? (·.rank = number)
  | .error _ => Limit.all.find? (·.name == text.toLower)

/-- A value that is no truth value and no number is a pattern. -/
def FieldValue.ofText (text : String) : Except PatternFault FieldValue :=
  if text = "true" then .ok (.flag true)
  else if text = "false" then .ok (.flag false)
  else match Text.unsigned64 text.toList with
    | .ok number => .ok (.natural number)
    | .error _ => match Text.signed64 text.toList with
      | .ok number => .ok (.integer number)
      | .error _ => match Decimal.Real.ofText? text.toList with
        | some number => .ok (.real number)
        | none => (Pattern.ofText text).map (.pattern text)

/-- A field by its name, with the value behind the first equals sign, up to a second one. -/
def FieldTest.ofText (text : String) : Except PatternFault FieldTest :=
  let name := text.toList.takeWhile (· ≠ '=')
  match text.toList.drop name.length with
  | [] => .ok ⟨text, none⟩
  | _ :: value => do
    let value ← FieldValue.ofText (String.ofList (value.takeWhile (· ≠ '=')))
    return ⟨String.ofList name, some value⟩

namespace Directive

/-- What the scan is reading, with the offset where it began. -/
inductive Part where
  | start
  | word (first : Nat)
  | span (first : Nat)
  | field (first : Nat)
  | behindField
  | behindSpan
  | level (first : Nat)
  deriving DecidableEq, Repr

/-- The text between two offsets. -/
def cut (text : Octets) (first last : Nat) : String :=
  Octets.lossy ((text.take last).drop first)

def beginsWord (c : Char) : Bool := c == '-' || c == ':' || c == '_' || Text.isAlphanumeric c

/-- One character of a directive, at an offset. -/
def scanChar (text : Octets) (part : Part) (rule : Rule) (offset : Nat) (c : Char) :
    Except DirectiveFault (Part × Rule) :=
  match part with
  | .start =>
    if c = '[' then .ok (.span (offset + 1), rule)
    else if beginsWord c then .ok (.word offset, rule)
    else .error .malformed
  | .word first =>
    if c = '=' then
      .ok (.level (offset + 1), { rule with target := some (cut text first offset) })
    else if c = '[' then
      .ok (.span (offset + 1), { rule with target := some (cut text first offset) })
    else .ok (part, rule)
  | .span first =>
    if c = ']' then .ok (.behindSpan, { rule with span := some (cut text first offset) })
    else if c = '{' then
      let name := cut text first offset
      .ok (.field (offset + 1), { rule with span := if name = "" then none else some name })
    else .ok (part, rule)
  | .field first =>
    if c = '}' then
      let test := cut text first offset
      if test = "" then .error .malformed
      else match FieldTest.ofText test with
        | .ok test => .ok (.behindField, { rule with field := some test })
        | .error fault => .error (.badPattern fault)
    else .ok (part, rule)
  | .behindField => if c = ']' then .ok (.behindSpan, rule) else .error .malformed
  | .behindSpan => if c = '=' then .ok (.level (offset + 1), rule) else .error .malformed
  | .level _ => .ok (part, rule)

def scan (text : Octets) (part : Part) (rule : Rule) (offset : Nat) :
    List Char → Except DirectiveFault (Part × Rule)
  | [] => .ok (part, rule)
  | c :: rest => do
    let (part, rule) ← scanChar text part rule offset c
    scan text part rule (offset + c.utf8Size) rest

/-- What the end of the directive makes of the part that is being read. -/
def finish (text : Octets) (part : Part) (rule : Rule) : Except DirectiveFault Rule :=
  match part with
  | .word first =>
    let word := cut text first text.length
    if word = "" then .ok rule
    else match Limit.ofText? word with
      | some limit => .ok { rule with limit := limit }
      | none => .ok { rule with target := some word }
  | .level first =>
    let word := cut text first text.length
    if word = "" then .ok rule
    else match Limit.ofText? word with
      | some limit => .ok { rule with limit := limit }
      | none => .error .badLevel
  | .behindSpan => .ok rule
  | _ => .error .malformed

end Directive

def Rule.ofText (text : String) : Except DirectiveFault Rule := do
  let octets := Octets.ofString text
  let (part, rule) ←
    Directive.scan octets .start ⟨none, none, none, .upTo .trace⟩ 0 (Text.trim text.toList)
  Directive.finish octets part rule

end WorkflowLaunch.Log
