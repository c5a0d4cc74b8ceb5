import WorkflowLaunch.Request.Plan
import WorkflowLaunch.Server.Settings

set_option autoImplicit false

/-!
The directives of a plan. The one that disables persistence stands behind the path that it
overrides. Only the coloured logger can fail, on the filter of the environment.
-/

namespace WorkflowLaunch.Plan

def loggerDirectives (plan : Plan) (directives : Option String) :
    Except Log.FilterFault (List Directive) :=
  match plan.logFormat with
  | .json => .ok []
  | .pretty => (Log.Logger.ofEnvironment .pretty directives).map fun logger => [.logger logger]

/-- `directives` is the value of the filter variable. -/
def compose (plan : Plan) (hook : Hook) (directives : Option String) :
    Except Log.FilterFault DirectiveSet := do
  let logger ← plan.loggerDirectives directives
  return .ofList <|
    [.port plan.port, .ip plan.ip, .databaseFile plan.persistence.path,
      .namespaces plan.namespaces, .interrupt hook] ++
    (if plan.persistence.isEphemeral then [.persistenceDisabled] else []) ++
    plan.attributes.toList.map .attributes ++ logger

end WorkflowLaunch.Plan
