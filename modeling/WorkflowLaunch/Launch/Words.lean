import WorkflowLaunch.CommandLine.Reader
import WorkflowLaunch.Launch.Sequence

set_option autoImplicit false

/-!
Launching from the words of a command line. Texts that the user asked for complete the launch; a
mistake fails it before its first stage is left.
-/

namespace WorkflowLaunch.Launch

def trimEnd (text : String) : String := String.ofList (Text.trimEnd text.toList)

def refuse {σ : Type} (refusal : CommandLine.Refusal) (world : σ) : Launched σ :=
  let message := trimEnd refusal.message
  ⟨if refusal.isDisplay then .ok ⟨message⟩ else .error ⟨message, 1, .validating⟩, [], world⟩

/-- `words` are a whole command line, `directives` is the value of the filter variable. -/
def launchWords {σ S : Type} (factory : Factory σ S) (interrupt : σ → Hook × σ)
    (directives : Option String) (standard : Standard) (words : List Octets) (world : σ) :
    Launched σ :=
  match CommandLine.read words standard with
  | .ok request => launch factory interrupt directives request world
  | .error refusal => refuse refusal world

end WorkflowLaunch.Launch
