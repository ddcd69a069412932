import Mathlib.Data.Option.Basic

set_option autoImplicit false

/- Partial step functions: runs of events, runs whose steps all meet a
condition, and the invariant rule for them. -/
namespace Transition

variable {State Event : Type}

/-- The state after the events, if each of them can happen. -/
def run (step : State → Event → Option State) : State → List Event → Option State
  | state, [] => some state
  | state, event :: events => (step state event).bind fun next => run step next events

/-- Every step of the run meets the condition. -/
def Keeps (step : State → Event → Option State) (safe : State → Event → Prop) :
    State → List Event → Prop
  | _, [] => True
  | state, event :: events =>
    safe state event ∧ ∀ next ∈ step state event, Keeps step safe next events

def Keeps.decide (step : State → Event → Option State) (safe : State → Event → Prop)
    [∀ state event, Decidable (safe state event)] :
    (state : State) → (events : List Event) → Decidable (Keeps step safe state events)
  | _, [] => .isTrue trivial
  | state, event :: events =>
    let _rest (next : State) := Keeps.decide step safe next events
    inferInstanceAs (Decidable (safe state event ∧
      ∀ next ∈ step state event, Keeps step safe next events))

instance (step : State → Event → Option State) (safe : State → Event → Prop)
    [∀ state event, Decidable (safe state event)] (state : State) (events : List Event) :
    Decidable (Keeps step safe state events) :=
  Keeps.decide step safe state events

variable {step : State → Event → Option State} {safe : State → Event → Prop}

@[simp] theorem run_cons (state : State) (event : Event) (events : List Event) :
    run step state (event :: events) =
      (step state event).bind fun next => run step next events := rfl

/-- Events that meet the condition in every state. -/
theorem keeps_of_forall (events : List Event) (always : ∀ event ∈ events, ∀ state, safe state event)
    (state : State) : Keeps step safe state events := by
  induction events generalizing state with
  | nil => exact trivial
  | cons event events ih =>
    refine ⟨always event List.mem_cons_self state, ?_⟩
    intro next _
    exact ih (fun later member => always later (List.mem_cons_of_mem event member)) next

/-- What every admitted step preserves holds wherever an admitted run arrives. -/
theorem invariant_run {invariant : State → Prop}
    (preserved : ∀ state event next, invariant state → safe state event →
      step state event = some next → invariant next)
    {start : State} {events : List Event} {reached : State} (initial : invariant start)
    (keeps : Keeps step safe start events) (arrives : run step start events = some reached) :
    invariant reached := by
  induction events generalizing start with
  | nil =>
    obtain rfl := Option.some.inj arrives
    exact initial
  | cons event events ih =>
    obtain ⟨next, stepped, rest⟩ := Option.bind_eq_some_iff.mp arrives
    have admitted := keeps.1
    apply ih _ (keeps.2 next stepped) rest
    exact preserved start event next initial admitted stepped

end Transition
