import Mathlib.Logic.Function.Iterate
import Mathlib.Logic.Relation

/-!
# Runs under a guard

A system takes one event after another; `none` means that the event cannot
happen or that the system stops.  A guard restricts the steps of a run.
-/

namespace Transition

variable {State Event : Type*} (step : State → Event → Option State)

/-- Every step of the run meets the guard in the state it starts from. -/
def Reachable (guard : State → Event → Prop) : State → State → Prop :=
  Relation.ReflTransGen fun source target =>
    ∃ event, guard source event ∧ step source event = some target

/-- Take a list of events in order. -/
def runEvents (start : State) (events : List Event) : Option State :=
  events.foldlM step start

/-- Take an event only when it meets the guard. -/
def guarded (guard : State → Event → Prop)
    [∀ state event, Decidable (guard state event)] (state : State)
    (event : Event) : Option State :=
  if guard state event then step state event else none

variable {step} {guard : State → Event → Prop} {start : State}

theorem runEvents_cons {event : Event} {events : List Event}
    {state : State} :
    runEvents step start (event :: events) = some state ↔
      ∃ next, step start event = some next ∧
        runEvents step next events = some state := by
  rw [runEvents, List.foldlM_cons]
  exact Option.bind_eq_some_iff

theorem runEvents_append {first second : List Event} {state : State} :
    runEvents step start (first ++ second) = some state ↔
      ∃ next, runEvents step start first = some next ∧
        runEvents step next second = some state := by
  rw [runEvents, List.foldlM_append]
  exact Option.bind_eq_some_iff

/-- When an event alone decides whether it can be taken, a run stops only at
an event that cannot. -/
theorem runEvents_isSome_iff {allowed : Event → Prop}
    (steps : ∀ state event, (step state event).isSome ↔ allowed event)
    {events : List Event} :
    (runEvents step start events).isSome ↔
      ∀ event ∈ events, allowed event := by
  induction events generalizing start with
  | nil => simp [runEvents]
  | cons event events ih =>
      rw [List.forall_mem_cons, ← steps start event]
      cases taken : step start event with
      | none => simp [runEvents, taken]
      | some next =>
          rw [runEvents, List.foldlM_cons, taken]
          exact ih.trans (by simp)

theorem runEvents_iterate {Field : Type*} {field : State → Field}
    {change : Field → Field} {holds : State → Prop} {events : List Event}
    (steps : ∀ state, holds state → ∀ event ∈ events, ∃ next,
      step state event = some next ∧ holds next ∧
        field next = change (field state))
    (initially : holds start) :
    ∃ last, runEvents step start events = some last ∧ holds last ∧
      field last = change^[events.length] (field start) := by
  induction events generalizing start with
  | nil => exact ⟨start, rfl, initially, rfl⟩
  | cons event events ih =>
      obtain ⟨next, taken, kept, changed⟩ :=
        steps start initially event List.mem_cons_self
      obtain ⟨last, run, keptLast, rest⟩ := ih
        (fun state held later member =>
          steps state held later (List.mem_cons_of_mem _ member)) kept
      refine ⟨last, runEvents_cons.mpr ⟨next, taken, run⟩, keptLast, ?_⟩
      rw [rest, changed, List.length_cons, Function.iterate_succ_apply]

theorem runEvents_of_guarded [∀ state event, Decidable (guard state event)]
    {events : List Event} {state : State}
    (run : runEvents (guarded step guard) start events = some state) :
    runEvents step start events = some state := by
  induction events generalizing start with
  | nil => exact run
  | cons event events ih =>
      obtain ⟨next, taken, rest⟩ := runEvents_cons.mp run
      rw [guarded] at taken
      split at taken
      case isTrue => exact runEvents_cons.mpr ⟨next, taken, ih rest⟩
      case isFalse => cases taken

/-- What holds at the start and is kept by every guarded step holds in every
state that a guarded run reaches. -/
theorem Reachable.invariant {holds : State → Prop} (initially : holds start)
    (keeps : ∀ source event target, holds source → guard source event →
      step source event = some target → holds target)
    {state : State} (run : Reachable step guard start state) :
    holds state := by
  induction run with
  | refl => exact initially
  | tail _ last ih =>
      obtain ⟨event, allowed, taken⟩ := last
      exact keeps _ event _ ih allowed taken

theorem Reachable.of_runEvents {events : List Event} {state : State}
    (allowed : ∀ event ∈ events, ∀ source, guard source event)
    (run : runEvents step start events = some state) :
    Reachable step guard start state := by
  induction events generalizing start with
  | nil =>
      cases run
      exact .refl
  | cons event events ih =>
      obtain ⟨next, taken, rest⟩ := runEvents_cons.mp run
      refine .head ⟨event, allowed event List.mem_cons_self start, taken⟩ ?_
      exact ih (fun later member =>
        allowed later (List.mem_cons_of_mem _ member)) rest

theorem Reachable.of_guarded [∀ state event, Decidable (guard state event)]
    {events : List Event} {state : State}
    (run : runEvents (guarded step guard) start events = some state) :
    Reachable step guard start state := by
  induction events generalizing start with
  | nil =>
      cases run
      exact .refl
  | cons event events ih =>
      obtain ⟨next, taken, rest⟩ := runEvents_cons.mp run
      rw [guarded] at taken
      split at taken
      case isTrue allowed => exact .head ⟨event, allowed, taken⟩ (ih rest)
      case isFalse => cases taken

end Transition
