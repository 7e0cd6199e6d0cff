import Rsvpd.Lib.Transition
import Mathlib.Data.List.Chain
import Mathlib.Order.Defs.PartialOrder

/-!
# Leases

Something in the state of a system lives on a lease: some events refresh it,
and other events may drop it once the last refresh is too long ago.
-/

namespace Lease

variable {State Event Time : Type*} {step : State → Event → Option State}
  (time : Event → Time) (refreshes : Event → Prop) [DecidablePred refreshes]

/-- The times at which the lease is refreshed. -/
def refreshTimes (events : List Event) : List Time :=
  (events.filter refreshes).map time

theorem refreshTimes_append (first second : List Event) :
    refreshTimes time refreshes (first ++ second) =
      refreshTimes time refreshes first ++
        refreshTimes time refreshes second := by
  simp [refreshTimes]

section Times

variable {refreshes} {event : Event} (events : List Event)

theorem refreshTimes_cons_pos (refresh : refreshes event) :
    refreshTimes time refreshes (event :: events) =
      time event :: refreshTimes time refreshes events := by
  simp [refreshTimes, refresh]

theorem refreshTimes_cons_neg (other : ¬refreshes event) :
    refreshTimes time refreshes (event :: events) =
      refreshTimes time refreshes events := by
  simp [refreshTimes, other]

end Times

variable [Preorder Time]

theorem alive_of_gaps {alive : Time → Time → Prop}
    (antitone : ∀ last now later, alive last later → now ≤ later →
      alive last now)
    {event : Event} {events : List Event} {last now : Time}
    (clock : ((event :: events).map time ++ [now]).Pairwise (· ≤ ·))
    (gaps : (last :: (refreshTimes time refreshes (event :: events) ++
      [now])).IsChain alive) : alive last (time event) := by
  by_cases refresh : refreshes event
  · rw [refreshTimes_cons_pos time events refresh] at gaps
    exact gaps.rel
  · rw [refreshTimes_cons_neg time events refresh] at gaps
    have later : ∀ next ∈ refreshTimes time refreshes events ++ [now],
        time event ≤ next := by
      intro next member
      apply List.rel_of_pairwise_cons clock
      refine List.mem_append.mpr ((List.mem_append.mp member).imp_left ?_)
      exact fun refreshed =>
        (List.filter_sublist.map time).subset refreshed
    cases shape : refreshTimes time refreshes events ++ [now] with
    | nil => simp at shape
    | cons next rest =>
        rw [shape] at gaps later
        exact antitone _ _ _ gaps.rel (later next List.mem_cons_self)

/-- What every event keeps while the lease is alive is kept by a run whose
refreshes come in time. -/
theorem survives {alive : Time → Time → Prop} {holds : Time → State → Prop}
    (antitone : ∀ last now later, alive last later → now ≤ later →
      alive last now)
    (keeps : ∀ last state event state', holds last state →
      alive last (time event) → step state event = some state' →
      holds (if refreshes event then time event else last) state')
    {events : List Event} {last now : Time} {state state' : State}
    (held : holds last state)
    (run : Transition.runEvents step state events = some state')
    (clock : (events.map time ++ [now]).Pairwise (· ≤ ·))
    (gaps : (last :: (refreshTimes time refreshes events ++
      [now])).IsChain alive) : ∃ last', holds last' state' := by
  induction events generalizing last state with
  | nil =>
      cases run
      exact ⟨last, held⟩
  | cons event events ih =>
      obtain ⟨next, taken, rest⟩ := Transition.runEvents_cons.mp run
      have kept := keeps last state event next held
        (alive_of_gaps time refreshes antitone clock gaps) taken
      refine ih kept rest clock.of_cons ?_
      split
      case isTrue refresh =>
        rw [refreshTimes_cons_pos time events refresh] at gaps
        exact gaps.of_cons
      case isFalse other =>
        rwa [refreshTimes_cons_neg time events other] at gaps

end Lease
