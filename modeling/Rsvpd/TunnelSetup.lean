import Rsvpd.Lib.Wave
import Rsvpd.ReceiveLoop
import Rsvpd.Refreshes

/-!
# Setting up a tunnel

PATHs travel down a chain and RESVs back up it like a wave, with path records
for the nodes that were asked and reservation records for those that have
answered.  While no session expires, a run of a chain is a run of the wave.
-/

namespace Rsvpd

open Daemon Network

def isPath : InAddr × Packet → Bool
  | (_, .path _) => true
  | (_, .resv _) => false

@[simp] theorem isPath_pathSend (env : Env) (p : PathMsg) :
    isPath (pathSend env p) = true := rfl

@[simp] theorem isPath_resvSend (env : Env) (r : ResvMsg) :
    isPath (resvSend env r) = false := rfl

def ChainEvent.kind : ChainEvent → Wave.Kind
  | .deliver _ _ _ => .deliver
  | .lose _ _ => .lose
  | _ => .repeats

section Live

variable {env : Env} {d : Daemon} {tunnelId : U16}

theorem not_pathTornDown_of_live
    (live : ∀ temp ∈ d.resvHead, ¬Expired env.now temp) :
    ¬PathTornDown env d tunnelId := by
  rintro ⟨temp, visited, expired, _⟩
  exact live temp visited.mem expired

theorem not_resvTornDown_of_live
    (live : ∀ temp ∈ d.pathHead, ¬Expired env.now temp) :
    ¬ResvTornDown env d tunnelId := by
  rintro ⟨temp, reads, _⟩
  obtain ⟨cell, list, member⟩ := Sweep.mem_sweep_iff_reads.mpr reads
  have visited := Sweep.mem_sweep_iff_visits.mp ⟨_, member, rfl⟩
  exact live cell visited.mem (Sweep.doomed_of_delete member)

theorem resvTimerHandler_findPathKept
    (live : ∀ temp ∈ d.pathHead, ¬Expired env.now temp) :
    (resvTimerHandler env d).pathTree.find tunnelId =
      d.pathTree.find tunnelId := by
  rw [resvTimerHandler_findPath, if_neg]
  rw [mem_pathRemoves]
  rintro ⟨temp, deleted, _⟩
  obtain ⟨visited, expired⟩ := Sweep.mem_deletions_iff.mp deleted
  exact live temp visited.mem expired

end Live

namespace Chain

variable (chain : Chain)

/-- The path record of the tunnel at a router. -/
def path (s : ChainState) (router : Nat) : Option PathMsg :=
  (s.net.state router).pathTree.find chain.tunnel.tunnelId

/-- What a chain looks like from the tunnel. -/
def wave (s : ChainState) : Wave.State where
  asked router := (chain.path s router).isSome
  answered router := (chain.resv s router).isSome
  requests router := (s.net.flight router).countP isPath
  replies router := (s.net.flight router).countP (!isPath ·)

/-- Memory does not run out, and no sweep finds an expired session. -/
def Lasting (s : ChainState) : ChainEvent → Prop
  | .deliver _ _ env => env.pathMalloc = true ∧ env.resvMalloc = true
  | .pathTimer router _ =>
      ∀ temp ∈ (s.net.state router).resvHead, ¬Expired s.time temp
  | .resvTimer router _ =>
      ∀ temp ∈ (s.net.state router).pathHead, ¬Expired s.time temp
  | _ => True

/-- Moreover, no datagram is lost. -/
def Undisturbed (s : ChainState) (event : ChainEvent) : Prop :=
  Lasting s event ∧ event.kind ≠ .lose

section Wave

variable {chain} {s : ChainState} {i index : Nat} {d : Daemon}

theorem wave_handled :
    chain.wave (chain.handled i d s) =
      { asked := Function.update (chain.wave s).asked i
          (d.pathTree.find chain.tunnel.tunnelId).isSome
        answered := Function.update (chain.wave s).answered i
          (d.resvTree.find chain.tunnel.tunnelId).isSome
        requests := Function.update (chain.wave s).requests i
          ((chain.wave s).requests i +
            (newlySent (s.net.state i) d).countP isPath)
        replies := Function.update (chain.wave s).replies i
          ((chain.wave s).replies i +
            (newlySent (s.net.state i) d).countP (!isPath ·)) } := by
  ext router
  all_goals
    simp only [wave, path, resv, handled, Config.become,
      Function.update_apply]
    split <;> simp_all

theorem countP_eraseIdx {α : Type*} (holds : α → Bool) {list : List α}
    {taken : α} (inside : list[index]? = some taken) :
    list.countP holds =
      (list.eraseIdx index).countP holds + if holds taken then 1 else 0 := by
  obtain ⟨inRange, rfl⟩ := List.getElem?_eq_some_iff.mp inside
  rw [← (List.getElem_cons_eraseIdx_perm inRange).countP_eq,
    List.countP_cons]

theorem wave_removePath {datagram : InAddr × Packet}
    (inFlight : (s.net.flight i)[index]? = some datagram)
    (request : isPath datagram = true) :
    chain.wave { s with net := s.net.remove i index } =
      (chain.wave s).dropRequest i := by
  have paths := countP_eraseIdx isPath inFlight
  have resvs := countP_eraseIdx (!isPath ·) inFlight
  simp only [request, if_true, Bool.not_true, Bool.false_eq_true, if_false,
    Nat.add_zero] at paths resvs
  ext router
  · rfl
  · rfl
  all_goals
    simp only [wave, Config.remove, Wave.State.dropRequest,
      Function.update_apply]
    split <;> simp_all

theorem wave_removeResv {datagram : InAddr × Packet}
    (inFlight : (s.net.flight i)[index]? = some datagram)
    (reply : isPath datagram = false) :
    chain.wave { s with net := s.net.remove i index } =
      (chain.wave s).dropReply i := by
  have paths := countP_eraseIdx isPath inFlight
  have resvs := countP_eraseIdx (!isPath ·) inFlight
  simp only [reply, Bool.not_false, if_true, Bool.false_eq_true, if_false,
    Nat.add_zero] at paths resvs
  ext router
  · rfl
  · rfl
  all_goals
    simp only [wave, Config.remove, Wave.State.dropReply, Function.update_apply]
    split <;> simp_all

end Wave

variable {chain} in
theorem recvTunnelId_received {packet : Packet}
    (session : chain.OfTunnel packet.sessionObj) :
    recvTunnelId packet.received = chain.tunnel.tunnelId := by
  rw [recvTunnelId, recvSessionObj_received]
  exact session.tunnelId

variable {chain} in
theorem routed_dstip {i : Nat} (reachable : i ≤ chain.transits + 1) :
    (chain.nexthop i chain.tunnel.dstip).ret ≠ 0 := by
  by_cases last : i = chain.transits + 1
  · rw [last]
    exact chain.atDst.1
  · exact (chain.towardDst i (by omega)).1

section TakesPath

variable {chain} {i : Nat} {now : Int} {env : Env} {packet : PathPacket}
  {reached : Int} {d d' : Daemon}
  (result : receivePathMessage (chain.env (i + 1) now env)
    (Packet.path packet).received
    (mainPathSession (chain.env (i + 1) now env)
      (Packet.path packet).received reached d) = d')
  (within : i ≤ chain.transits) (session : chain.OfTunnel packet.sessionObj)
  (hop : packet.hopObj.nextHop = chain.upAddr i)
  (ok : chain.RouterOk (i + 1) d)

include result within session hop ok

theorem takesPath_held (memory : env.pathMalloc = true) :
    ∃ p, d'.pathTree.find chain.tunnel.tunnelId = some p ∧
      chain.PathOk (i + 1) p := by
  have routed : ((chain.env (i + 1) now env).insertRoute
      (recvSessionObj (Packet.path packet).received).dstIp).ret ≠ 0 := by
    have same : (Packet.path packet).sessionObj.dstIp = chain.tunnel.dstip :=
      session.dstIp
    rw [recvSessionObj_received, same]
    exact routed_dstip (by omega)
  obtain ⟨p, held⟩ := receivePathMessage_pathHeld
    (chain.env (i + 1) now env) (Packet.path packet).received
    (mainPathSession (chain.env (i + 1) now env)
      (Packet.path packet).received reached d) routed memory
  rw [recvTunnelId_received session, result] at held
  have kept := receivePath_keeps now env reached within session hop ok
  rw [result] at kept
  exact ⟨p, held, kept.ok.path _ p held⟩

omit within hop ok in
theorem takesPath_sent :
    newlySent d d' =
      match d'.pathTree.find chain.tunnel.tunnelId with
      | none => []
      | some p =>
          if p.nexthopIp = .any then
            ((d'.resvTree.find chain.tunnel.tunnelId).map
              (resvSend (chain.env (i + 1) now env))).toList
          else [pathSend (chain.env (i + 1) now env) p] := by
  have sent := receivePathMessage_sent (chain.env (i + 1) now env)
    (Packet.path packet).received (mainPathSession
      (chain.env (i + 1) now env) (Packet.path packet).received reached d)
  rw [result, recvTunnelId_received session,
    (mainPathSession_frame _ _ _ _).2.2.2.2.1] at sent
  exact newlySent_append sent

theorem takesPath_passes (memory : env.pathMalloc = true)
    (inner : i + 1 ≤ chain.transits) :
    d'.resvTree = d.resvTree ∧ ∃ p,
      newlySent d d' = [pathSend (chain.env (i + 1) now env) p] := by
  obtain ⟨p, held, pathOk⟩ :=
    takesPath_held result within session hop ok memory
  have passes : p.nexthopIp ≠ .any := by
    rw [pathOk.nexthopIp, nextAddr_of_le inner]
    exact chain.downAddr_ne (i + 1) inner
  have sent := takesPath_sent result session
  simp only [held, if_neg passes] at sent
  refine ⟨?_, p, sent⟩
  have frame := (mainPathSession_frame (chain.env (i + 1) now env)
    (Packet.path packet).received reached d).2.1
  have changed := receivePathMessage_resvTree (chain.env (i + 1) now env)
    (Packet.path packet).received (mainPathSession
      (chain.env (i + 1) now env) (Packet.path packet).received reached d)
  rw [result] at changed
  cases changed with
  | kept resvTree => rw [resvTree, frame]
  | created p' path egress missing memory resvTree =>
      rw [recvTunnelId_received session, held] at path
      cases path
      exact absurd egress passes

theorem takesPath_turns (pathMemory : env.pathMalloc = true)
    (resvMemory : env.resvMalloc = true) (last : i = chain.transits) :
    ∃ r, d'.resvTree.find chain.tunnel.tunnelId = some r ∧
      newlySent d d' = [resvSend (chain.env (i + 1) now env) r] := by
  obtain ⟨p, held, pathOk⟩ :=
    takesPath_held result within session hop ok pathMemory
  have egress : p.nexthopIp = .any := by
    rw [pathOk.nexthopIp]
    exact (nextAddr_eq_any (by omega)).mpr (by omega)
  have sameId : recvTunnelId (Packet.path packet).received =
      chain.tunnel.tunnelId := recvTunnelId_received session
  have heldThere := held
  rw [← result, ← sameId] at heldThere
  obtain ⟨r, answer⟩ :=
    receivePathMessage_resvHeld _ _ _ heldThere egress resvMemory
  rw [result, sameId] at answer
  have sent := takesPath_sent result session
  simp only [held, if_pos egress, answer, Option.map_some,
    Option.toList_some] at sent
  exact ⟨r, answer, sent⟩

theorem wave_takesPath {s : ChainState}
    (before : s.net.state (i + 1) = d) (pathMemory : env.pathMalloc = true)
    (resvMemory : env.resvMalloc = true) :
    chain.wave (chain.handled (i + 1) d' s) =
      (chain.wave s).ask (chain.transits + 1) (i + 1) := by
  obtain ⟨p, held, _⟩ :=
    takesPath_held result within session hop ok pathMemory
  rw [wave_handled, Wave.State.ask, before, held]
  by_cases last : i = chain.transits
  · obtain ⟨r, answer, sent⟩ := takesPath_turns result within session hop ok
      pathMemory resvMemory last
    simp [sent, answer, last, Wave.State.sendReplies]
  · obtain ⟨kept, p', sent⟩ := takesPath_passes result within session hop ok
      pathMemory (by omega)
    have same : (d.resvTree.find chain.tunnel.tunnelId).isSome =
        (chain.wave s).answered (i + 1) := by rw [← before]; rfl
    simp [sent, kept, last, same, Wave.State.sendRequests]

end TakesPath

/-- The first RESV that reaches a router is answered with one to the router
before it. -/
theorem wave_takesResv {s : ChainState} {i : Nat} {now : Int} {env : Env}
    {packet : ResvPacket} {d d' : Daemon}
    (result : receiveResvMessage (chain.env i now env)
      (Packet.resv packet).received d = d')
    (within : i ≤ chain.transits) (session : chain.OfTunnel packet.sessionObj)
    (ok : chain.RouterOk i d) (before : s.net.state i = d)
    (memory : env.resvMalloc = true) :
    chain.wave (chain.handled i d' s) = (chain.wave s).answer i := by
  have sameId : recvTunnelId (Packet.resv packet).received =
      chain.tunnel.tunnelId := recvTunnelId_received session
  have pathSame : d'.pathTree = d.pathTree := by
    rw [← result, (receiveResvMessage_frame _ _ _).1]
  have asked : (d.pathTree.find chain.tunnel.tunnelId).isSome =
      (chain.wave s).asked i := by rw [← before]; rfl
  have answered : (d.resvTree.find chain.tunnel.tunnelId).isSome =
      (chain.wave s).answered i := by rw [← before]; rfl
  have changed := receiveResvMessage_cases (chain.env i now env)
    (Packet.resv packet).received d
  rw [result] at changed
  rw [wave_handled, before, pathSame, asked, Wave.State.answer]
  cases changed with
  | kept known resvTree labelBitmap commands sent =>
      rw [sameId] at known
      rw [resvTree, answered, newlySent_nil sent, if_neg]
      · simp
      · rw [← asked, ← answered]
        rcases known with none | ⟨r, some⟩
        · simp [none]
        · simp [some]
  | noMemory pa path missing noMemory resvTree labelBitmap commands sent =>
      cases memory.symm.trans noMemory
  | created pa path missing memory resvTree labelBitmap commands sent =>
      have madeId := resvMade_tunnelId (chain.env i now env)
        (Packet.resv packet).received d pa
      have hop := resvMade_nexthopIp (chain.env i now env)
        (Packet.resv packet).received d pa
      have inserted := RecordTree.find_insert_self _ madeId missing
      rw [← resvTree, sameId] at inserted
      rw [sameId] at path missing
      rw [hop, (ok.path _ pa path).pSrcip] at sent
      have first : (chain.wave s).asked i = true ∧
          (chain.wave s).answered i = false := by
        rw [← asked, ← answered, path, missing]
        exact ⟨rfl, rfl⟩
      rw [newlySent_append sent, inserted, if_pos first]
      cases i with
      | zero => simp [prevAddr, Wave.State.sendReplies]
      | succ i =>
          have passes : chain.prevAddr (i + 1) ≠ .any :=
            chain.upAddr_ne i (by omega)
          simp [passes, Wave.State.sendReplies]

section Sweeps

variable {chain} {s : ChainState} {i : Nat} {env : Env}

private theorem countP_of_forall {datagrams : List (InAddr × Packet)}
    {kind : Bool}
    (all : ∀ datagram ∈ datagrams, isPath datagram = kind) :
    datagrams.countP isPath = (if kind then datagrams.length else 0) ∧
      datagrams.countP (!isPath ·) =
        if kind then 0 else datagrams.length := by
  induction datagrams with
  | nil => simp
  | cons datagram datagrams ih =>
      rw [List.forall_mem_cons] at all
      obtain ⟨paths, resvs⟩ := ih all.2
      cases kind <;> simp [all.1, paths, resvs]

theorem wave_pathTimer (ok : chain.RouterOk i (s.net.state i))
    (reachable : i ≤ chain.transits + 1)
    (live : ∀ temp ∈ (s.net.state i).resvHead, ¬Expired env.now temp) :
    Wave.Step (chain.transits + 1) (chain.wave s) .repeats
      (chain.wave (chain.handled i
        (pathTimerHandler env (s.net.state i)) s)) := by
  obtain ⟨new, shape, allowed⟩ := pathTimerHandler_sent env (s.net.state i)
  have paths : ∀ datagram ∈ new, isPath datagram = true := by
    intro datagram member
    obtain ⟨_, _, _, rfl⟩ := allowed datagram member
    rfl
  obtain ⟨requests, replies⟩ := countP_of_forall paths
  have same : chain.wave (chain.handled i
      (pathTimerHandler env (s.net.state i)) s) =
        (chain.wave s).sendRequests i new.length := by
    have asked : ((s.net.state i).pathTree.find
      chain.tunnel.tunnelId).isSome = (chain.wave s).asked i := rfl
    have answered : ((s.net.state i).resvTree.find
      chain.tunnel.tunnelId).isSome = (chain.wave s).answered i := rfl
    rw [wave_handled, newlySent_append shape, requests, replies,
      (pathTimerHandler_frame _ _).1,
      pathTimerHandler_findKept (not_pathTornDown_of_live live), asked,
      answered]
    simp [Wave.State.sendRequests]
  rw [same]
  cases new with
  | nil => simpa [Wave.State.sendRequests] using Wave.Step.idle
  | cons datagram new =>
      obtain ⟨tunnelId, p, held, _⟩ := allowed datagram List.mem_cons_self
      have ids : tunnelId = chain.tunnel.tunnelId :=
        (RecordTree.find_tunnelId held).symm.trans
          (ok.path tunnelId p held).tunnelId
      refine .requests i _ ?_ ?_
      · by_contra last
        rw [pathTimerHandler_nil (ok.resvHead (by omega))] at shape
        simp at shape
      · rw [ids] at held
        exact Option.isSome_iff_exists.mpr ⟨p, held⟩

theorem wave_resvTimer (ok : chain.RouterOk i (s.net.state i))
    (live : ∀ temp ∈ (s.net.state i).pathHead, ¬Expired env.now temp) :
    Wave.Step (chain.transits + 1) (chain.wave s) .repeats
      (chain.wave (chain.handled i
        (resvTimerHandler env (s.net.state i)) s)) := by
  obtain ⟨new, shape, allowed⟩ := resvTimerHandler_sent env (s.net.state i)
  have resvs : ∀ datagram ∈ new, isPath datagram = false := by
    intro datagram member
    obtain ⟨_, _, _, rfl⟩ := allowed datagram member
    rfl
  obtain ⟨requests, replies⟩ := countP_of_forall resvs
  have same : chain.wave (chain.handled i
      (resvTimerHandler env (s.net.state i)) s) =
        (chain.wave s).sendReplies i new.length := by
    have asked : ((s.net.state i).pathTree.find
      chain.tunnel.tunnelId).isSome = (chain.wave s).asked i := rfl
    have answered : ((s.net.state i).resvTree.find
      chain.tunnel.tunnelId).isSome = (chain.wave s).answered i := rfl
    rw [wave_handled, newlySent_append shape, requests, replies,
      resvTimerHandler_findPathKept live,
      resvTimerHandler_findKept (not_resvTornDown_of_live live), asked,
      answered]
    simp [Wave.State.sendReplies]
  rw [same]
  cases new with
  | nil => simpa [Wave.State.sendReplies] using Wave.Step.idle
  | cons datagram new =>
      obtain ⟨tunnelId, r, held, _⟩ := allowed datagram List.mem_cons_self
      have ids : tunnelId = chain.tunnel.tunnelId :=
        (RecordTree.find_tunnelId held).symm.trans
          (ok.resv tunnelId r held).tunnelId
      refine .replies i _ ?_ ?_
      · by_contra first
        rw [resvTimerHandler_nil (ok.pathHead (by omega))] at shape
        simp at shape
      · rw [ids] at held
        exact Option.isSome_iff_exists.mpr ⟨r, held⟩

end Sweeps

section Steps

variable {chain} {s s' : ChainState} {event : ChainEvent}

theorem wave_step (all : chain.AllOk s) (lasting : Lasting s event)
    (taken : chain.step s event = some s') :
    Wave.Step (chain.transits + 1) (chain.wave s) event.kind
      (chain.wave s') := by
  cases step_cases all taken with
  | wait seconds => exact .idle
  | path i index env packet reached within inFlight session hop =>
      have ok := all.node (i + 1)
      rw [wave_takesPath (s := { s with net := s.net.remove i index }) rfl
        within session hop ok rfl lasting.1 lasting.2,
        wave_removePath inFlight rfl]
      apply Wave.Step.request i (by omega)
      exact List.countP_pos_iff.mpr ⟨_, List.mem_of_getElem? inFlight, rfl⟩
  | resv i index env packet within inFlight session =>
      have ok := all.node i
      rw [wave_takesResv chain
        (s := { s with net := s.net.remove (i + 1) index }) rfl within
        session ok rfl lasting.2, wave_removeResv inFlight rfl]
      apply Wave.Step.reply i (by omega)
      exact List.countP_pos_iff.mpr ⟨_, List.mem_of_getElem? inFlight, rfl⟩
  | lose sender index datagram inFlight =>
      cases path : isPath datagram with
      | true =>
          have same := @wave_removePath chain _ _ _ _ inFlight path
          refine Eq.subst same.symm (Wave.Step.loseRequest sender ?_)
          exact List.countP_pos_iff.mpr
            ⟨_, List.mem_of_getElem? inFlight, path⟩
      | false =>
          have same := @wave_removeResv chain _ _ _ _ inFlight path
          refine Eq.subst same.symm (Wave.Step.loseReply sender ?_)
          exact List.countP_pos_iff.mpr
            ⟨_, List.mem_of_getElem? inFlight, by rw [path]; rfl⟩
  | pathTimer i env reachable =>
      exact wave_pathTimer (all.node i) reachable lasting
  | resvTimer i env reachable => exact wave_resvTimer (all.node i) lasting

end Steps

section Runs

variable {chain} {time : Int} {phases : Phases} {env : Env}
  {s s' : ChainState}

theorem wave_start (memory : env.pathMalloc = true) :
    chain.wave (chain.start time phases env) = Wave.start := by
  obtain ⟨p, built, ok⟩ := exists_configuredPathMsg chain time env
  have held : (RecordTree.null.insert (chain.env 0 time env).pathMalloc
      p).find chain.tunnel.tunnelId = some p := by
    change (RecordTree.null.insert env.pathMalloc p).find _ = _
    rw [memory]
    exact RecordTree.find_insert_self p ok.tunnelId (RecordTree.find_null _)
  have stored : (startup (chain.env 0 time env) chain.tunnel).pathTree.find
      chain.tunnel.tunnelId = some p := by
    rwa [(startup_of_configured built).1]
  have sent : (startup (chain.env 0 time env) chain.tunnel).sent =
      [pathSend (chain.env 0 time env) p] := by
    simp [startup, built, ok.tunnelId, held]
  ext router
  all_goals
    by_cases ingress : router = 0
    · subst ingress
      simp [wave, path, resv, start, Wave.start, stored, sent]
    · simp [wave, path, resv, start, Wave.start, ingress]

/-- What a run without expiry keeps: all records and datagrams have their
cause. -/
def Causal (chain : Chain) (s : ChainState) : Prop :=
  chain.AllOk s ∧ Wave.Grounded (chain.transits + 1) (chain.wave s)

theorem Causal.step {event : ChainEvent} (causal : chain.Causal s)
    (lasting : Lasting s event) (taken : chain.step s event = some s') :
    chain.Causal s' :=
  ⟨causal.1.step taken, causal.2.step (wave_step causal.1 lasting taken)⟩

theorem start_causal (memory : env.pathMalloc = true) :
    chain.Causal (chain.start time phases env) := by
  refine ⟨start_allOk, ?_⟩
  rw [wave_start memory]
  exact Wave.start_grounded _

/-- What an undisturbed run keeps. -/
def InProgress (chain : Chain) (s : ChainState) : Prop :=
  chain.Causal s ∧ Wave.Advancing (chain.transits + 1) (chain.wave s)

theorem inProgress_of_undisturbed (memory : env.pathMalloc = true)
    (run : Transition.Reachable chain.step Undisturbed
      (chain.start time phases env) s) : chain.InProgress s := by
  have started : chain.InProgress (chain.start time phases env) := by
    refine ⟨start_causal memory, ?_⟩
    rw [wave_start memory]
    exact Wave.start_advancing (Nat.succ_pos _)
  refine Transition.Reachable.invariant started ?_ run
  intro source event target held undisturbed taken
  obtain ⟨causal, advancing⟩ := held
  exact ⟨causal.step undisturbed.1 taken, advancing.step causal.2
    (wave_step causal.1 undisturbed.1 taken) undisturbed.2⟩

/-- Once nothing is in flight, the tunnel is set up. -/
theorem InProgress.up (inProgress : chain.InProgress s)
    (quiet : chain.Quiet s) :
    ∀ i ≤ chain.transits + 1,
      (chain.path s i).isSome ∧ (chain.resv s i).isSome := by
  apply inProgress.2.complete
  · intro i within
    simp [wave, quiet i within]
  · intro i within
    simp [wave, quiet i within]

/-- A datagram is delivered to a router that does not run out of memory. -/
def Delivery : ChainEvent → Prop
  | .deliver _ _ env => env.pathMalloc = true ∧ env.resvMalloc = true
  | _ => False

theorem Delivery.undisturbed {event : ChainEvent} (delivery : Delivery event)
    (s : ChainState) : Undisturbed s event := by
  cases event with
  | deliver sender index env => exact ⟨delivery, by simp [ChainEvent.kind]⟩
  | _ => exact delivery.elim

theorem Delivery.kind_eq {event : ChainEvent} (delivery : Delivery event) :
    event.kind = .deliver := by
  cases event with
  | deliver sender index env => rfl
  | _ => exact delivery.elim

theorem exists_delivered {i index : Nat} {datagram : InAddr × Packet}
    (all : chain.AllOk s)
    (inFlight : (s.net.flight i)[index]? = some datagram) (env : Env) :
    ∃ s', chain.step s (.deliver i index env) = some s' := by
  have carries := all.message i datagram (List.mem_of_getElem? inFlight)
  cases carries with
  | @path i packet within msgType session hop =>
      have running : (mainReceive (chain.env (i + 1) s.time env)
          (Packet.path packet).received (s.net.state (i + 1))).isSome := by
        rw [mainReceive_isSome_iff]
        rintro ⟨_, unrouted⟩
        rw [recvSessionObj_received] at unrouted
        change (chain.nexthop (i + 1) packet.sessionObj.dstIp).ret = 0
          at unrouted
        rw [session.dstIp] at unrouted
        exact routed_dstip (by omega) unrouted
      obtain ⟨d, received⟩ := Option.isSome_iff_exists.mp running
      simp only [step, Option.bind_eq_bind, inFlight, Option.bind_some,
        receiver_downAddr within, received]
      exact ⟨_, rfl⟩
  | @resv i packet within msgType session =>
      have running : (mainReceive (chain.env i s.time env)
          (Packet.resv packet).received (s.net.state i)).isSome := by
        rw [mainReceive_isSome_iff]
        rintro ⟨isPath, _⟩
        have header : (recvHeader (Packet.resv packet).received).msgType =
            resvMsgType := (recvHeader_received _).trans msgType
        exact absurd (header.symm.trans isPath) (by decide)
      obtain ⟨d, received⟩ := Option.isSome_iff_exists.mp running
      simp only [step, Option.bind_eq_bind, inFlight, Option.bind_some,
        receiver_upAddr within, received]
      exact ⟨_, rfl⟩

theorem work_lt_of_delivery {event : ChainEvent} (all : chain.AllOk s)
    (delivery : Delivery event) (taken : chain.step s event = some s') :
    Wave.work (chain.transits + 1) (chain.wave s') <
      Wave.work (chain.transits + 1) (chain.wave s) := by
  have stepped := wave_step all (delivery.undisturbed s).1 taken
  rw [delivery.kind_eq] at stepped
  exact stepped.work_lt

theorem length_le_work {events : List ChainEvent} (all : chain.AllOk s)
    (deliveries : ∀ event ∈ events, Delivery event)
    (run : Transition.runEvents chain.step s events = some s') :
    events.length ≤ Wave.work (chain.transits + 1) (chain.wave s) := by
  induction events generalizing s with
  | nil => exact Nat.zero_le _
  | cons event events ih =>
      rw [List.forall_mem_cons] at deliveries
      obtain ⟨next, taken, rest⟩ := Transition.runEvents_cons.mp run
      have later := ih (all.step taken) deliveries.2 rest
      have less := work_lt_of_delivery all deliveries.1 taken
      rw [List.length_cons]
      omega

/-- Delivering what is in flight, oldest first, empties the links. -/
theorem exists_drained (env : Env) (pathMemory : env.pathMalloc = true)
    (resvMemory : env.resvMalloc = true) (all : chain.AllOk s) :
    ∃ events s', (∀ event ∈ events, Delivery event) ∧
      Transition.runEvents chain.step s events = some s' ∧
      chain.Quiet s' := by
  generalize bound : Wave.work (chain.transits + 1) (chain.wave s) = work
  induction work using Nat.strongRecOn generalizing s with
  | ind work ih =>
      by_cases quiet : chain.Quiet s
      · exact ⟨[], s, List.forall_mem_nil _, rfl, quiet⟩
      · simp only [Quiet, not_forall] at quiet
        obtain ⟨i, _, busy⟩ := quiet
        obtain ⟨datagram, later, flight⟩ := List.exists_cons_of_ne_nil busy
        have inFlight : (s.net.flight i)[0]? = some datagram := by
          rw [flight]
          rfl
        obtain ⟨next, taken⟩ := exists_delivered all inFlight env
        have delivery : Delivery (.deliver i 0 env) :=
          ⟨pathMemory, resvMemory⟩
        have less := work_lt_of_delivery all delivery taken
        obtain ⟨events, s', deliveries, run, drained⟩ :=
          ih _ (bound ▸ less) (all.step taken) rfl
        exact ⟨.deliver i 0 env :: events, s',
          List.forall_mem_cons.mpr ⟨delivery, deliveries⟩,
          Transition.runEvents_cons.mpr ⟨next, taken, run⟩, drained⟩

/-- In every undisturbed run, in whatever order the datagrams arrive and the
timers fire, the tunnel is set up as soon as no datagram is in flight. -/
theorem undisturbed_up (memory : env.pathMalloc = true)
    (run : Transition.Reachable chain.step Undisturbed
      (chain.start time phases env) s) (quiet : chain.Quiet s) :
    ∀ i ≤ chain.transits + 1,
      (chain.path s i).isSome ∧ (chain.resv s i).isSome :=
  (inProgress_of_undisturbed memory run).up quiet

/-- From every state of an undisturbed run only so many deliveries can follow
one another, and all deliveries that empty the network, which some do, set the
tunnel up. -/
theorem undisturbed_completes (memory : env.pathMalloc = true)
    (run : Transition.Reachable chain.step Undisturbed
      (chain.start time phases env) s) :
    (∀ events s', (∀ event ∈ events, Delivery event) →
      Transition.runEvents chain.step s events = some s' →
        events.length ≤ Wave.work (chain.transits + 1) (chain.wave s) ∧
        (chain.Quiet s' → ∀ i ≤ chain.transits + 1,
          (chain.path s' i).isSome ∧ (chain.resv s' i).isSome)) ∧
    (∃ events s', (∀ event ∈ events, Delivery event) ∧
      Transition.runEvents chain.step s events = some s' ∧
      chain.Quiet s') ∧
    Wave.work (chain.transits + 1)
      (chain.wave (chain.start time phases env)) =
        2 * (chain.transits + 1) := by
  have inProgress := inProgress_of_undisturbed memory run
  refine ⟨fun events s' deliveries drains => ⟨?_, fun quiet => ?_⟩, ?_, ?_⟩
  · exact length_le_work inProgress.1.1 deliveries drains
  · have goesOn := run.trans (Transition.Reachable.of_runEvents
      (fun event member source =>
        (deliveries event member).undisturbed source) drains)
    exact (inProgress_of_undisturbed memory goesOn).up quiet
  · exact exists_drained (.isolated 0) rfl rfl inProgress.1.1
  · rw [wave_start memory, Wave.start_work (Nat.succ_pos _)]

end Runs

end Chain

/-- Four deliveries set a tunnel up through one transit router. -/
theorem setupEvents_up :
    ∃ s, Transition.runEvents sampleTransit.step
        (sampleTransit.start 0 samplePhases (.isolated 0)) setupEvents =
          some s ∧
      ∀ i ≤ 2, (sampleTransit.path s i).isSome ∧
        (sampleTransit.resv s i).isSome := by
  have empties : ((Transition.runEvents sampleTransit.step
      (sampleTransit.start 0 samplePhases (.isolated 0)) setupEvents).map
        fun s => (s.net.flight 0, s.net.flight 1, s.net.flight 2)) =
      some ([], [], []) := by
    decide +kernel
  obtain ⟨s, run, flights⟩ := Option.map_eq_some_iff.mp empties
  simp only [Prod.mk.injEq] at flights
  obtain ⟨empty0, empty1, empty2⟩ := flights
  have quiet : sampleTransit.Quiet s
    | 0, _ => empty0
    | 1, _ => empty1
    | 2, _ => empty2
  refine ⟨s, run, Chain.undisturbed_up rfl (.of_runEvents ?_ run) quiet⟩
  intro event member source
  apply Chain.Delivery.undisturbed
  simp only [setupEvents, List.mem_cons, List.not_mem_nil, or_false]
    at member
  rcases member with rfl | rfl | rfl | rfl <;> exact ⟨rfl, rfl⟩

/-- From the start of that chain, too, deliveries set the tunnel up. -/
theorem sampleTransit_completes :
    ∃ events s, Transition.runEvents sampleTransit.step
        (sampleTransit.start 0 samplePhases (.isolated 0)) events = some s ∧
      events.length ≤ 4 ∧
      ∀ i ≤ 2, (sampleTransit.path s i).isSome ∧
        (sampleTransit.resv s i).isSome := by
  obtain ⟨bounded, ⟨events, s, deliveries, run, quiet⟩, work⟩ :=
    @Chain.undisturbed_completes sampleTransit 0 samplePhases (.isolated 0)
      _ rfl .refl
  obtain ⟨short, up⟩ := bounded events s deliveries run
  rw [work] at short
  exact ⟨events, s, run, short, up quiet⟩

end Rsvpd
