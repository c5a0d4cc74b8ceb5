set_option autoImplicit false

/-!
Interrupt hooks. A hook that was triggered stays triggered, and whoever holds a hook sees it
triggered, also one who starts to wait later.
-/

namespace WorkflowLaunch

structure Hook where
  number : Nat
  deriving DecidableEq, Repr

/-- The hooks that exist, and those that were triggered. -/
structure Interrupts where
  made : Nat
  triggered : List Hook
  deriving DecidableEq, Repr

namespace Interrupts

def none : Interrupts := ⟨0, []⟩

/-- A hook that nobody else holds, not triggered. -/
def fresh (interrupts : Interrupts) : Hook × Interrupts :=
  (⟨interrupts.made⟩, { interrupts with made := interrupts.made + 1 })

def trigger (interrupts : Interrupts) (hook : Hook) : Interrupts :=
  { interrupts with triggered := hook :: interrupts.triggered }

def isTriggered (interrupts : Interrupts) (hook : Hook) : Bool := hook ∈ interrupts.triggered

@[simp] theorem isTriggered_trigger (interrupts : Interrupts) (hook other : Hook) :
    (interrupts.trigger hook).isTriggered other =
      (other = hook || interrupts.isTriggered other) := by
  simp [trigger, isTriggered]

@[simp] theorem isTriggered_fresh (interrupts : Interrupts) (hook : Hook) :
    interrupts.fresh.2.isTriggered hook = interrupts.isTriggered hook := rfl

end Interrupts

/-- One who waits for a hook, until it was seen triggered once. -/
structure Waiter where
  hook : Hook
  finished : Bool
  deriving DecidableEq, Repr

inductive Poll where
  | pending
  | ready
  | finished
  deriving DecidableEq, Repr

def Waiter.ofHook (hook : Hook) : Waiter := ⟨hook, false⟩

def Waiter.poll (waiter : Waiter) (interrupts : Interrupts) : Poll × Waiter :=
  if waiter.finished then (.finished, waiter)
  else if interrupts.isTriggered waiter.hook then (.ready, { waiter with finished := true })
  else (.pending, waiter)

end WorkflowLaunch
