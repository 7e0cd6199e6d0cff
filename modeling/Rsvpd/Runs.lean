import Rsvpd.Lib.Transition
import Rsvpd.Sweeps

/-!
# Runs of one daemon

A run takes datagrams and timer sweeps one at a time, in any order and each
with its own environment, from the state in which `main` enters its loop.
-/

namespace Rsvpd

open Daemon

inductive Event where
  | datagram (env : Env) (buffer : Buffer)
  | pathTimer (env : Env)
  | resvTimer (env : Env)

/-- One event; `none` when `main` returns. -/
def step (d : Daemon) : Event → Option Daemon
  | .datagram env buffer => mainReceive env buffer d
  | .pathTimer env => some (pathTimerHandler env d)
  | .resvTimer env => some (resvTimerHandler env d)

/-- The states of the runs whose steps all meet a guard. -/
def Reaches (guard : Daemon → Event → Prop) (env : Env)
    (config : TunnelConfig) : Daemon → Prop :=
  Transition.Reachable step guard (startup env config)

@[simp] theorem startup_frame (env : Env) (config : TunnelConfig) :
    (startup env config).resvTree = .null ∧
      (startup env config).pathHead = [] ∧
      (startup env config).labelBitmap = .empty ∧
      (startup env config).commands = [] := by
  unfold startup
  split
  · simp
  · simp

section Guarded

variable {guard : Daemon → Event → Prop} {holds : Daemon → Prop} {env : Env}
  {config : TunnelConfig} {d : Daemon}

/-- The invariant rule with one case for each kind of step. -/
theorem Reaches.invariant (run : Reaches guard env config d)
    (initially : holds (startup env config))
    (path : ∀ env buffer d, holds d → guard d (.datagram env buffer) →
      (recvHeader buffer).msgType = pathMsgType →
      dstReached (env.reachRoute (recvSessionObj buffer).dstIp) ≠ -1 →
      holds (receivePathMessage env buffer (mainPathSession env buffer
        (dstReached (env.reachRoute (recvSessionObj buffer).dstIp)) d)))
    (resv : ∀ env buffer d, holds d → guard d (.datagram env buffer) →
      (recvHeader buffer).msgType = resvMsgType →
      holds (receiveResvMessage env buffer d))
    (pathTimer : ∀ env d, holds d → guard d (.pathTimer env) →
      holds (pathTimerHandler env d))
    (resvTimer : ∀ env d, holds d → guard d (.resvTimer env) →
      holds (resvTimerHandler env d)) : holds d := by
  refine Transition.Reachable.invariant initially ?_ run
  intro source event target held allowed taken
  cases event with
  | datagram env buffer =>
      cases mainReceive_cases env buffer source taken with
      | path isPath routed result =>
          rw [result]
          exact path env buffer source held allowed isPath routed
      | resv isResv result =>
          rw [result]
          exact resv env buffer source held allowed isResv
      | other notPath notResv result => rwa [result]
  | pathTimer env =>
      cases taken
      exact pathTimer env source held allowed
  | resvTimer env =>
      cases taken
      exact resvTimer env source held allowed

theorem mainPath_distinct {buffer : Buffer} {reached : Int}
    (distinct : DistinctIds d.pathHead) :
    DistinctIds (receivePathMessage env buffer
      (mainPathSession env buffer reached d)).pathHead := by
  simp only [receivePathMessage_frame, mainPathSession_pathHead]
  exact distinct.noteSession _ _ _ _ _

theorem resvTimerHandler_distinct (distinct : DistinctIds d.pathHead) :
    DistinctIds (resvTimerHandler env d).pathHead := by
  rw [resvTimerHandler_pathHead]
  exact distinct.remaining

theorem step_distinct {event : Event} {d' : Daemon}
    (distinct : DistinctIds d.pathHead)
    (taken : step d event = some d') : DistinctIds d'.pathHead := by
  cases event with
  | datagram env buffer =>
      cases mainReceive_cases env buffer d taken with
      | path isPath routed result =>
          rw [result]
          exact mainPath_distinct distinct
      | resv isResv result => simpa [result] using distinct
      | other notPath notResv result => rwa [result]
  | pathTimer env =>
      cases taken
      simpa using distinct
  | resvTimer env =>
      cases taken
      exact resvTimerHandler_distinct distinct

theorem Reaches.distinct (run : Reaches guard env config d) :
    DistinctIds d.pathHead := by
  apply Transition.Reachable.invariant ?_ ?_ run
  · rw [(startup_frame env config).2.1]
    exact List.nodup_nil
  · intro source event target distinct _ taken
    exact step_distinct distinct taken

end Guarded

/-- Every lookup answers with the same next hop. -/
def Env.toward (nhip : Option InAddr) (now : Int) : Env :=
  { Env.isolated now with
    reachRoute := fun _ => { ret := 1, nhip, prefixLen := 24, dev := "eth0",
                             ifh := 2 }
    insertRoute := fun _ => { ret := 1, nhip, prefixLen := 24, dev := "eth0",
                              ifh := 2 } }

def samplePath (tunnelId : U16) (srcIp destIp hop : InAddr) : Packet :=
  .path (fillPathPacket default
    { (default : PathMsg) with tunnelId, srcIp, destIp, eSrcip := hop })

def sampleResv (tunnelId : U16) (srcIp destIp hop : InAddr) (label : U32) :
    Packet :=
  .resv (fillResvPacket default
    { (default : ResvMsg) with tunnelId, srcIp, destIp, eSrcip := hop,
                               inLabel := label })

/-- A transit node learns of tunnel 1 and creates its reservation. -/
def transitEvents : List Event :=
  [.datagram (.toward (some ⟨3⟩) 0) (samplePath 1 ⟨1⟩ ⟨9⟩ ⟨2⟩).received,
   .datagram (.toward (some ⟨2⟩) 0) (sampleResv 1 ⟨1⟩ ⟨9⟩ ⟨3⟩ 3).received]

end Rsvpd
