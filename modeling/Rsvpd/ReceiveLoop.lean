import Rsvpd.Runs

/-!
# Going on to the next datagram

The loop of `main` answers a PATH whose destination has no route with a bare
`return`.  Every other datagram, and a RESV without a route to its sender,
leaves the daemon running.
-/

namespace Rsvpd

open Daemon Transition

/-- A PATH for whose destination the lookup of `dst_reached` fails. -/
def NoRoutePath : Event → Prop
  | .datagram env buffer =>
      (recvHeader buffer).msgType = pathMsgType ∧
        (env.reachRoute (recvSessionObj buffer).dstIp).ret = 0
  | _ => False

theorem dstReached_eq_neg_one {answer : NexthopAnswer} :
    dstReached answer = -1 ↔ answer.ret = 0 := by
  constructor
  · intro unreached
    by_contra routed
    exact dstReached_ne routed unreached
  · intro unrouted
    simp [dstReached, unrouted]

theorem mainReceive_isSome_iff (env : Env) (buffer : Buffer) (d : Daemon) :
    (mainReceive env buffer d).isSome ↔
      ¬NoRoutePath (.datagram env buffer) := by
  rw [mainReceive, NoRoutePath]
  by_cases isPath : (recvHeader buffer).msgType = pathMsgType
  · rw [if_pos isPath, mainPath]
    by_cases unreached :
        dstReached (env.reachRoute (recvSessionObj buffer).dstIp) = -1
    · rw [if_pos unreached]
      simp [isPath, dstReached_eq_neg_one.mp unreached]
    · rw [if_neg unreached]
      simp [mt dstReached_eq_neg_one.mpr unreached]
  · rw [if_neg isPath]
    split <;> simp [isPath]

theorem step_isSome_iff (d : Daemon) (event : Event) :
    (step d event).isSome ↔ ¬NoRoutePath event := by
  cases event with
  | datagram env buffer => exact mainReceive_isSome_iff env buffer d
  | pathTimer env => simp [step, NoRoutePath]
  | resvTimer env => simp [step, NoRoutePath]

/-- The daemon takes a whole sequence of events, from any state, if and only
if none of them is a PATH without a route to its destination. -/
theorem runEvents_iff_routed (d : Daemon) (events : List Event) :
    (runEvents step d events).isSome ↔
      ∀ event ∈ events, ¬NoRoutePath event :=
  runEvents_isSome_iff step_isSome_iff

/-- One PATH without a route, sent by anyone, ends the loop. -/
theorem path_without_route_stops :
    step .init (.datagram (.isolated 0)
      (samplePath 1 ⟨1⟩ ⟨9⟩ ⟨2⟩).received) = none := by
  have isPath : (recvHeader (samplePath 1 ⟨1⟩ ⟨9⟩ ⟨2⟩).received).msgType =
      pathMsgType := recvHeader_received _
  rw [step, mainReceive, if_pos isPath]
  rfl

end Rsvpd
