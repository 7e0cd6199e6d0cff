import Rsvpd.TunnelSetup

/-!
# What a chain keeps when its ingress falls silent

Only the ingress sends PATHs by itself.  When it has stopped and the PATHs in
flight are used up, the path sessions of the other routers run out, and with
them what keeps their reservations.
-/

namespace Rsvpd

open Daemon Network Sweep

/-- The list has no session but one of this tunnel. -/
structure Sole (tunnelId : U16) (sess : List Session) : Prop where
  few : sess.length ≤ 1
  own : ∀ temp ∈ sess, temp.tunnelId = tunnelId

section Sole

variable {tunnelId : U16} {sess : List Session}

theorem sole_nil : Sole tunnelId [] :=
  ⟨Nat.zero_le _, nofun⟩

theorem Sole.eq_nil_or (sole : Sole tunnelId sess) :
    sess = [] ∨ ∃ temp, sess = [temp] ∧ temp.tunnelId = tunnelId := by
  match sess, sole with
  | [], _ => exact .inl rfl
  | [temp], sole =>
      exact .inr ⟨temp, rfl, sole.own temp List.mem_cons_self⟩
  | _ :: _ :: _, sole => exact absurd sole.few (by simp)

theorem Sole.noteSession (sole : Sole tunnelId sess) (now : Int)
    (sender receiver : InAddr) (dest : U8) :
    ∃ temp, noteSession now tunnelId sender receiver dest sess = [temp] ∧
      temp.tunnelId = tunnelId ∧ temp.lastPathTime = now ∧
      (temp.dest = dest ∨ ∃ old ∈ sess, temp.dest = old.dest) := by
  rcases sole.eq_nil_or with rfl | ⟨old, rfl, own⟩
  · rw [noteSession_missing rfl]
    exact ⟨_, rfl, rfl, rfl, .inl rfl⟩
  · have found : findSession tunnelId [old] = some old := by
      rw [findSession_cons, if_pos own]
    rw [noteSession_found found, searchSession, if_pos own]
    exact ⟨_, rfl, own, rfl, .inr ⟨old, List.mem_cons_self, rfl⟩⟩

end Sole

/-- What the reservation sweep does to a path list of at most one session. -/
inductive SoleResvSweep (tunnelId : U16) (env : Env) (d d' : Daemon) : Prop
  | live (young : ∀ temp ∈ d.pathHead, ¬Expired env.now temp)
      (pathHead : d'.pathHead = d.pathHead)
      (resvHead : d'.resvHead = d.resvHead)
      (path : d'.pathTree.find tunnelId = d.pathTree.find tunnelId)
      (resv : d'.resvTree.find tunnelId = d.resvTree.find tunnelId)
  | gone (pathHead : d'.pathHead = [])
      (resvHead : d'.resvHead.Sublist d.resvHead)
      (path : d'.pathTree.find tunnelId = none)
      (temp : Session) (session : temp ∈ d.pathHead)
      (resv : (temp.dest = 0 ∧ d'.resvHead = d.resvHead ∧
          d'.resvTree.find tunnelId = d.resvTree.find tunnelId) ∨
        temp.dest ≠ 0 ∧ d'.resvTree.find tunnelId = none)

/-- What the path sweep does to a reservation list of at most one session that
does not end here. -/
inductive SolePathSweep (tunnelId : U16) (env : Env) (d d' : Daemon) : Prop
  | live (young : ∀ temp ∈ d.resvHead, ¬Expired env.now temp)
      (resvHead : d'.resvHead = d.resvHead)
      (resv : d'.resvTree.find tunnelId = d.resvTree.find tunnelId)
  | gone (resvHead : d'.resvHead = [])
      (resv : d'.resvTree.find tunnelId = none)

section Sweeps

variable {tunnelId : U16} (env : Env) {d : Daemon}

theorem resvTimerHandler_sole (sole : Sole tunnelId d.pathHead) :
    SoleResvSweep tunnelId env d (resvTimerHandler env d) := by
  rcases sole.eq_nil_or with empty | ⟨temp, single, own⟩
  · rw [resvTimerHandler_nil empty]
    exact .live (by simp [empty]) rfl rfl rfl rfl
  by_cases expired : Expired env.now temp
  · have visit : resvTimerHandler env d =
        resvVisit env d (.delete temp temp []) := by
      rw [resvTimerHandler_visits, resvVisits, single,
        sweep_first [] expired, sweep_nil]
      rfl
    rw [visit]
    refine .gone (by simp [Visit.listAfter]) ?_ ?_ temp (by simp [single]) ?_
    · rw [resvVisit_resvHead]
      split
      · exact List.Sublist.refl _
      · exact List.eraseP_sublist
    · simp [pathRemoves, own]
    · by_cases transit : temp.dest = 0
      · left
        simp [transit, resvVisit_resvHead, resvTears]
      · refine .inr ⟨transit, ?_⟩
        rw [resvVisit_findResv,
          if_pos (resvTears_delete.mpr ⟨transit, own.symm⟩)]
  · have visit : resvTimerHandler env d = resvVisit env d (.keep temp) := by
      rw [resvTimerHandler_visits, resvVisits, single,
        sweep_keep [] [] expired, sweep_nil]
      rfl
    rw [visit]
    refine .live ?_ ?_ ?_ ?_ ?_
    · simpa [single] using expired
    · simp [Visit.listAfter]
    · simp [resvVisit_resvHead, resvTears]
    · simp [pathRemoves]
    · simp [resvTears]

theorem pathTimerHandler_sole (sole : Sole tunnelId d.resvHead)
    (passes : ∀ temp ∈ d.resvHead, temp.dest = 0) :
    SolePathSweep tunnelId env d (pathTimerHandler env d) ∧
      (pathTimerHandler env d).sent = d.sent := by
  rcases sole.eq_nil_or with empty | ⟨temp, single, own⟩
  · rw [pathTimerHandler_nil empty]
    exact ⟨.live (by simp [empty]) rfl rfl, rfl⟩
  have transit : temp.dest = 0 := passes temp (by simp [single])
  by_cases expired : Expired env.now temp
  · have visit : pathTimerHandler env d =
        pathVisit env d (.delete temp temp []) := by
      have removable : Removable env.now temp := ⟨expired, .inl transit⟩
      rw [pathTimerHandler_visits, pathVisits, single,
        sweep_first [] removable, sweep_nil]
      rfl
    rw [visit]
    refine ⟨.gone (by simp [Visit.listAfter]) ?_, ?_⟩
    · simp [pathTears, Visit.cell, expired, own]
    · simp [pathVisit_sent, Visit.cell, transit]
  · have visit : pathTimerHandler env d = pathVisit env d (.keep temp) := by
      have kept : ¬Removable env.now temp := fun removable =>
        expired removable.1
      rw [pathTimerHandler_visits, pathVisits, single, sweep_keep [] [] kept,
        sweep_nil]
      rfl
    rw [visit]
    refine ⟨.live ?_ ?_ ?_, ?_⟩
    · simpa [single] using expired
    · simp [Visit.listAfter]
    · simp [pathTears, Visit.cell, expired]
    · simp [pathVisit_sent, Visit.cell, transit]

end Sweeps

namespace Chain

variable (chain : Chain)

/-- Only the ingress takes the source of the tunnel for its own: the others
reach it through a next hop. -/
def SourceAway : Prop :=
  ∀ i, 0 < i → i ≤ chain.transits →
    (chain.nexthop i chain.tunnel.srcip).nhip ≠ none

/-- The lists of a router behind the ingress: at most the session of the
tunnel, which stays as long as the records that hang on it. -/
structure Tidy (i : Nat) (now : Int) (d : Daemon) : Prop where
  path : Sole chain.tunnel.tunnelId d.pathHead
  resv : Sole chain.tunnel.tunnelId d.resvHead
  pathTime : ∀ temp ∈ d.pathHead, temp.lastPathTime ≤ now
  resvTime : ∀ temp ∈ d.resvHead, temp.lastPathTime ≤ now
  egress : i = chain.transits + 1 → ∀ temp ∈ d.pathHead, temp.dest ≠ 0
  passes : ∀ temp ∈ d.resvHead, temp.dest = 0
  pathRecord : d.pathTree.find chain.tunnel.tunnelId ≠ none →
    d.pathHead ≠ []
  resvRecord : d.resvTree.find chain.tunnel.tunnelId ≠ none →
    (i = chain.transits + 1 ∧ d.pathHead ≠ []) ∨
      i ≤ chain.transits ∧ d.resvHead ≠ []

section Tidy

variable {chain} {i : Nat} {now : Int} {env : Env} {d : Daemon}

theorem Tidy.later {later : Int} (tidy : chain.Tidy i now d)
    (after : now ≤ later) : chain.Tidy i later d :=
  { tidy with
    pathTime := fun temp member => (tidy.pathTime temp member).trans after
    resvTime := fun temp member => (tidy.resvTime temp member).trans after }

variable (chain i now) in
theorem init_tidy : chain.Tidy i now .init := by
  refine ⟨sole_nil, sole_nil, nofun, nofun, nofun, nofun, ?_, ?_⟩
  · simp
  · simp

theorem Tidy.resvTimer (tidy : chain.Tidy i now d) :
    chain.Tidy i now (resvTimerHandler env d) := by
  cases resvTimerHandler_sole env tidy.path with
  | live young pathHead resvHead path resv =>
      exact
        { path := by rw [pathHead]; exact tidy.path
          resv := by rw [resvHead]; exact tidy.resv
          pathTime := by rw [pathHead]; exact tidy.pathTime
          resvTime := by rw [resvHead]; exact tidy.resvTime
          egress := by rw [pathHead]; exact tidy.egress
          passes := by rw [resvHead]; exact tidy.passes
          pathRecord := by rw [path, pathHead]; exact tidy.pathRecord
          resvRecord := by
            rw [resv, pathHead, resvHead]
            exact tidy.resvRecord }
  | gone pathHead resvHead path temp session resv =>
      refine ⟨?_, ?_, ?_, ?_, ?_, ?_, ?_, ?_⟩
      · rw [pathHead]
        exact sole_nil
      · exact ⟨resvHead.length_le.trans tidy.resv.few,
          fun temp member => tidy.resv.own temp (resvHead.subset member)⟩
      · simp [pathHead]
      · exact fun temp member => tidy.resvTime temp (resvHead.subset member)
      · simp [pathHead]
      · exact fun temp member => tidy.passes temp (resvHead.subset member)
      · exact fun held => absurd path held
      · intro held
        rcases resv with ⟨transit, same, record⟩ | ⟨_, torn⟩
        · rw [record] at held
          rcases tidy.resvRecord held with ⟨last, _⟩ | ⟨within, some⟩
          · exact absurd transit (tidy.egress last temp session)
          · rw [same]
            exact .inr ⟨within, some⟩
        · exact absurd torn held

theorem Tidy.pathTimer (tidy : chain.Tidy i now d) :
    chain.Tidy i now (pathTimerHandler env d) := by
  obtain ⟨pathTree, pathHead, _, _⟩ := pathTimerHandler_frame env d
  have samePath : (pathTimerHandler env d).pathTree.find
      chain.tunnel.tunnelId = d.pathTree.find chain.tunnel.tunnelId := by
    rw [pathTree]
  cases (pathTimerHandler_sole env tidy.resv tidy.passes).1 with
  | live young resvHead resv =>
      exact
        { path := by rw [pathHead]; exact tidy.path
          resv := by rw [resvHead]; exact tidy.resv
          pathTime := by rw [pathHead]; exact tidy.pathTime
          resvTime := by rw [resvHead]; exact tidy.resvTime
          egress := by rw [pathHead]; exact tidy.egress
          passes := by rw [resvHead]; exact tidy.passes
          pathRecord := by rw [samePath, pathHead]; exact tidy.pathRecord
          resvRecord := by
            rw [resv, pathHead, resvHead]
            exact tidy.resvRecord }
  | gone resvHead resv =>
      exact
        { path := by rw [pathHead]; exact tidy.path
          resv := by rw [resvHead]; exact sole_nil
          pathTime := by rw [pathHead]; exact tidy.pathTime
          resvTime := by simp [resvHead]
          egress := by rw [pathHead]; exact tidy.egress
          passes := by simp [resvHead]
          pathRecord := by rw [samePath, pathHead]; exact tidy.pathRecord
          resvRecord := fun held => absurd resv held }

theorem Tidy.receivePath {packet : PathPacket} {reached : Int} {d' : Daemon}
    (result : receivePathMessage (chain.env (i + 1) now env)
      (Packet.path packet).received
      (mainPathSession (chain.env (i + 1) now env)
        (Packet.path packet).received reached d) = d')
    (tidy : chain.Tidy (i + 1) now d) (within : i ≤ chain.transits)
    (session : chain.OfTunnel packet.sessionObj)
    (hop : packet.hopObj.nextHop = chain.upAddr i)
    (ok : chain.RouterOk (i + 1) d)
    (ends : i = chain.transits → reached = 1) :
    chain.Tidy (i + 1) now d' := by
  have keeps := (receivePath_keeps now env reached within session hop ok).ok
  have changed := receivePathMessage_resvTree (chain.env (i + 1) now env)
    (Packet.path packet).received (mainPathSession
      (chain.env (i + 1) now env) (Packet.path packet).received reached d)
  obtain ⟨_, sameResv, sameHead, _⟩ := mainPathSession_frame
    (chain.env (i + 1) now env) (Packet.path packet).received reached d
  have noted := mainPathSession_pathHead (chain.env (i + 1) now env)
    (Packet.path packet).received reached d
  obtain ⟨pathHead, resvHead, _, _⟩ := receivePathMessage_frame
    (chain.env (i + 1) now env) (Packet.path packet).received
    (mainPathSession (chain.env (i + 1) now env)
      (Packet.path packet).received reached d)
  rw [result] at keeps changed pathHead resvHead
  obtain ⟨temp, single, own, time, dest⟩ := tidy.path.noteSession
    (chain.env (i + 1) now env).now
    (recvSessionObj (Packet.path packet).received).srcIp
    (recvSessionObj (Packet.path packet).received).dstIp
    (BitVec.ofInt 8 reached)
  rw [noted, recvTunnelId_received session, single] at pathHead
  rw [sameHead] at resvHead
  refine ⟨?_, ?_, ?_, ?_, ?_, ?_, ?_, ?_⟩
  · rw [pathHead]
    exact ⟨Nat.le_refl _, by simpa using own⟩
  · rw [resvHead]
    exact tidy.resv
  · rw [pathHead, List.forall_mem_singleton, time]
    exact le_refl now
  · rw [resvHead]
    exact tidy.resvTime
  · intro last
    rw [pathHead, List.forall_mem_singleton]
    rcases dest with new | ⟨old, member, same⟩
    · rw [new, ends (Nat.succ.inj last)]
      decide
    · rw [same]
      exact tidy.egress last old member
  · rw [resvHead]
    exact tidy.passes
  · simp [pathHead]
  · intro held
    by_cases last : i = chain.transits
    · exact .inl ⟨congrArg Nat.succ last, by simp [pathHead]⟩
    · right
      have inner : i + 1 ≤ chain.transits := by omega
      refine ⟨inner, ?_⟩
      rw [resvHead]
      cases changed with
      | kept resvTree =>
          rw [resvTree, sameResv] at held
          rcases tidy.resvRecord held with ⟨egress, _⟩ | ⟨_, some⟩
          · omega
          · exact some
      | created p path egress missing memory resvTree =>
          rw [(keeps.path _ p path).nexthopIp, nextAddr_of_le inner] at egress
          exact absurd egress (chain.downAddr_ne (i + 1) inner)

variable (env) in
/-- A transit router without a path record ignores a RESV; another one has a
fresh session behind it. -/
theorem Tidy.receiveResv_resvHead (away : chain.SourceAway) {buffer : Buffer}
    (tidy : chain.Tidy i now d) (behind : 0 < i) (within : i ≤ chain.transits)
    (tunnel : chain.OfTunnel (recvSessionObj buffer)) :
    let d' := receiveResvMessage (chain.env i now env) buffer d
    (d.pathTree.find chain.tunnel.tunnelId = none ∧
        d'.resvHead = d.resvHead) ∨
      d.pathTree.find chain.tunnel.tunnelId ≠ none ∧
        ∃ temp, d'.resvHead = [temp] ∧
          temp.tunnelId = chain.tunnel.tunnelId ∧
          temp.lastPathTime = now ∧ temp.dest = 0 := by
  dsimp only
  have ids : recvTunnelId buffer = chain.tunnel.tunnelId := tunnel.tunnelId
  have passed : dstReached ((chain.env i now env).reachRoute
      (recvSessionObj buffer).srcIp) = 0 := by
    obtain ⟨nhip, back⟩ :=
      Option.ne_none_iff_exists'.mp (away i behind within)
    have answer : (chain.env i now env).reachRoute
        (recvSessionObj buffer).srcIp =
          chain.nexthop i chain.tunnel.srcip := by
      rw [tunnel.srcIp]
      rfl
    rw [answer, dstReached, if_pos (chain.towardSrc i (by omega)), back]
  rw [receiveResvMessage_resvHead, ids]
  cases path : d.pathTree.find chain.tunnel.tunnelId with
  | none => exact .inl ⟨rfl, rfl⟩
  | some pa =>
      obtain ⟨temp, single, own, time, dest⟩ := tidy.resv.noteSession now
        (recvSessionObj buffer).srcIp (recvSessionObj buffer).dstIp
        (BitVec.ofInt 8 0)
      refine .inr ⟨Option.some_ne_none _, temp, ?_, own, time, ?_⟩
      · dsimp only
        rw [insert_resvHead, passed, if_neg (by decide), ids]
        exact single
      · rcases dest with new | ⟨old, member, same⟩
        · exact new
        · rw [same]
          exact tidy.passes old member

theorem Tidy.receiveResv (away : chain.SourceAway) {buffer : Buffer}
    (tidy : chain.Tidy i now d) (behind : 0 < i) (within : i ≤ chain.transits)
    (tunnel : chain.OfTunnel (recvSessionObj buffer)) :
    chain.Tidy i now (receiveResvMessage (chain.env i now env) buffer d) := by
  have ids : recvTunnelId buffer = chain.tunnel.tunnelId := tunnel.tunnelId
  have sessions := tidy.receiveResv_resvHead env away behind within tunnel
  have changed := receiveResvMessage_cases (chain.env i now env) buffer d
  obtain ⟨pathTree, pathHead⟩ :=
    receiveResvMessage_frame (chain.env i now env) buffer d
  generalize receiveResvMessage (chain.env i now env) buffer d = d' at *
  have session : Sole chain.tunnel.tunnelId d'.resvHead ∧
      (∀ temp ∈ d'.resvHead, temp.lastPathTime ≤ now ∧ temp.dest = 0) ∧
      (d.resvHead ≠ [] → d'.resvHead ≠ []) := by
    rcases sessions with ⟨_, same⟩ | ⟨_, temp, single, own, time, dest⟩
    · rw [same]
      exact ⟨tidy.resv, fun temp member => ⟨tidy.resvTime temp member,
        tidy.passes temp member⟩, id⟩
    · rw [single]
      refine ⟨⟨Nat.le_refl _, by simpa using own⟩, ?_, by simp⟩
      rw [List.forall_mem_singleton]
      exact ⟨time.le, dest⟩
  obtain ⟨resv, fresh, stays⟩ := session
  refine ⟨?_, resv, ?_, fun temp member => (fresh temp member).1, ?_,
    fun temp member => (fresh temp member).2, ?_, ?_⟩
  · rw [pathHead]
    exact tidy.path
  · rw [pathHead]
    exact tidy.pathTime
  · rw [pathHead]
    exact tidy.egress
  · rw [pathTree, pathHead]
    exact tidy.pathRecord
  · intro held
    have known (same : d'.resvTree = d.resvTree) : d.resvHead ≠ [] := by
      rw [same] at held
      rcases tidy.resvRecord held with ⟨last, _⟩ | ⟨_, some⟩
      · omega
      · exact some
    refine .inr ⟨within, ?_⟩
    cases changed with
    | kept _ resvTree => exact stays (known resvTree)
    | noMemory _ _ _ _ resvTree => exact stays (known resvTree)
    | created pa path =>
        rw [ids] at path
        rcases sessions with ⟨none, _⟩ | ⟨_, temp, single, _⟩
        · rw [none] at path
          cases path
        · simp [single]

end Tidy

/-- The routers behind the ingress. -/
def Downstream (i : Nat) : Prop := 0 < i ∧ i ≤ chain.transits + 1

/-- No timer behind the ingress is late. -/
def Prompt (s : ChainState) : ChainEvent → Prop
  | .wait seconds => ∀ i ≤ chain.transits + 1, 0 < i →
      s.time + seconds ≤ s.pathDue i ∧ s.time + seconds ≤ s.resvDue i
  | _ => True

instance (s : ChainState) : DecidablePred (chain.Prompt s) := by
  intro event
  cases event <;> (unfold Prompt; infer_instance)

/-- The next sweeps of a router behind the ingress. -/
structure Due (i : Nat) (s : ChainState) : Prop where
  path : s.time ≤ s.pathDue i ∧ s.pathDue i ≤ s.time + interval
  resv : s.time ≤ s.resvDue i ∧ s.resvDue i ≤ s.time + interval

/-- What prompt runs keep. -/
structure Steady (s : ChainState) : Prop where
  all : chain.AllOk s
  tidy : ∀ i, chain.Downstream i → chain.Tidy i s.time (s.net.state i)
  due : ∀ i, chain.Downstream i → Due i s

section Steady

variable {chain} {s s' : ChainState} {event : ChainEvent} {i : Nat}
  {d : Daemon}

theorem tidy_handled
    (tidy : ∀ j, chain.Downstream j → chain.Tidy j s.time (s.net.state j))
    (own : chain.Downstream i → chain.Tidy i s.time d) :
    ∀ j, chain.Downstream j →
      chain.Tidy j s.time ((chain.handled i d s).net.state j) :=
  forall_handled
    (fun j d => chain.Downstream j → chain.Tidy j s.time d)
    (fun j _ => tidy j) own

theorem due_update {due : Nat → Int} {now : Int} (i : Nat) {j : Nat}
    (before : now ≤ due j ∧ due j ≤ now + interval) :
    now ≤ Function.update due i (now + interval) j ∧
      Function.update due i (now + interval) j ≤ now + interval := by
  rw [Function.update_apply]
  split_ifs
  · unfold interval
    omega
  · exact before

theorem step_path {index : Nat} {env : Env} {packet : PathPacket}
    (all : chain.AllOk s) (within : i ≤ chain.transits)
    (inFlight : (s.net.flight i)[index]? =
      some (chain.downAddr i, .path packet))
    (taken : chain.step s (.deliver i index env) = some s') :
    s' = chain.handled (i + 1)
      (receivePathMessage (chain.env (i + 1) s.time env)
        (Packet.path packet).received
        (mainPathSession (chain.env (i + 1) s.time env)
          (Packet.path packet).received
          (dstReached (chain.nexthop (i + 1) chain.tunnel.dstip))
          (s.net.state (i + 1))))
      { s with net := s.net.remove i index } := by
  simp only [step, Option.bind_eq_bind, Option.bind_eq_some_iff,
    Option.some_inj] at taken
  obtain ⟨datagram, found, router, arrives, d, received, rfl⟩ := taken
  have same := inFlight.symm.trans found
  cases all.message i datagram (List.mem_of_getElem? found) with
  | resv => simp at same
  | path _ msgType session hop =>
      cases same
      rw [receiver_downAddr within] at arrives
      cases arrives
      have header : (recvHeader (Packet.path packet).received).msgType =
          pathMsgType := (recvHeader_received _).trans msgType
      have dstIp : (recvSessionObj (Packet.path packet).received).dstIp =
          chain.tunnel.dstip := by
        rw [recvSessionObj_received]
        exact session.dstIp
      cases mainReceive_cases _ _ _ received with
      | path isPath routed result =>
          rw [result, dstIp]
          rfl
      | resv isResv result =>
          exact absurd (header.symm.trans isResv) (by decide)
      | other notPath notResv result => exact absurd header notPath

theorem Steady.step (away : chain.SourceAway) (steady : chain.Steady s)
    (prompt : chain.Prompt s event)
    (taken : chain.step s event = some s') : chain.Steady s' := by
  obtain ⟨all, tidy, due⟩ := steady
  have all' := all.step taken
  have same (j : Nat) (behind : chain.Downstream j)
      (net : Config Nat Daemon (InAddr × Packet)) (lost : Nat → Bool) :
      Due j { s with net, lost } :=
    ⟨(due j behind).path, (due j behind).resv⟩
  cases step_cases all taken with
  | wait seconds =>
      have later : s.time ≤ s.time + seconds := by omega
      refine ⟨all', fun j behind => (tidy j behind).later later, ?_⟩
      intro j behind
      obtain ⟨pathDue, resvDue⟩ := prompt j behind.2 behind.1
      have before := due j behind
      exact ⟨⟨pathDue, before.path.2.trans (Int.add_le_add_right later _)⟩,
        ⟨resvDue, before.resv.2.trans (Int.add_le_add_right later _)⟩⟩
  | path i index env packet reached within inFlight session hop =>
      rw [step_path all within inFlight taken]
      rw [step_path all within inFlight taken] at all'
      refine ⟨all', tidy_handled tidy fun behind => ?_,
        fun j behind => same j behind _ _⟩
      refine Tidy.receivePath rfl (tidy _ behind) within session hop
        (all.node (i + 1)) fun last => ?_
      subst last
      rw [dstReached, if_pos chain.atDst.1, chain.atDst.2]
  | resv i index env packet within inFlight session =>
      refine ⟨all', tidy_handled tidy fun behind => ?_,
        fun j behind => same j behind _ _⟩
      refine (tidy i behind).receiveResv away behind.1 within ?_
      rw [recvSessionObj_received]
      exact session
  | lose sender index datagram inFlight =>
      exact ⟨all', tidy, fun j behind => same j behind _ _⟩
  | pathTimer i env reachable =>
      refine ⟨all', tidy_handled tidy fun behind => (tidy i behind).pathTimer,
        ?_⟩
      intro j behind
      exact ⟨due_update i (due j behind).path, (due j behind).resv⟩
  | resvTimer i env reachable =>
      refine ⟨all', tidy_handled tidy fun behind => (tidy i behind).resvTimer,
        ?_⟩
      intro j behind
      exact ⟨(due j behind).path, due_update i (due j behind).resv⟩

variable (chain) in
theorem start_steady {time : Int} {phases : Phases} {env : Env} :
    chain.Steady (chain.start time phases env) := by
  refine ⟨start_allOk, ?_, ?_⟩
  · intro i behind
    have init : (chain.start time phases env).net.state i = .init := by
      simp [start, behind.1.ne']
    rw [init]
    exact init_tidy chain i _
  · intro i _
    have path := phases.path_le i
    have resv := phases.resv_le i
    constructor <;> simp only [start] <;> omega

end Steady

/-- The ingress does not refresh its tunnel. -/
def IngressSilent : ChainEvent → Prop
  | .pathTimer router _ => router ≠ 0
  | _ => True

instance : DecidablePred IngressSilent := by
  intro event
  cases event <;> (unfold IngressSilent; infer_instance)

/-- Nothing is late, and the ingress is silent. -/
def Silenced (s : ChainState) (event : ChainEvent) : Prop :=
  chain.Prompt s event ∧ IngressSilent event

instance (s : ChainState) : DecidablePred (chain.Silenced s) :=
  fun _ => inferInstanceAs (Decidable (_ ∧ _))

instance (s : ChainState) : Decidable (chain.Quiet s) :=
  inferInstanceAs (Decidable (∀ i ≤ _, _ = _))

/-- No PATH is in flight. -/
def PathFree (s : ChainState) : Prop :=
  ∀ sender, ∀ datagram ∈ s.net.flight sender, isPath datagram = false

/-- The sessions of a router that has not heard a PATH since a time, with the
times of its next sweeps. -/
structure Fades (since pathDue resvDue : Int) (d : Daemon) : Prop where
  path : ∀ temp ∈ d.pathHead, temp.lastPathTime ≤ since ∧
    resvDue ≤ since + (timeout + interval)
  resv : ∀ temp ∈ d.resvHead,
    temp.lastPathTime ≤ since + (timeout + interval) ∧
      pathDue ≤ since + 2 * (timeout + interval)

/-- No PATH has been in flight since a time. -/
structure Fading (since : Int) (s : ChainState) : Prop where
  steady : chain.Steady s
  pathFree : PathFree s
  fades : ∀ i, chain.Downstream i →
    Fades since (s.pathDue i) (s.resvDue i) (s.net.state i)

section Fades

variable {chain} {since now pathDue resvDue : Int} {i : Nat} {env : Env}
  {d : Daemon}

/-- A RESV refreshes no session once the path record is gone. -/
theorem Fades.receiveResv (away : chain.SourceAway) {buffer : Buffer}
    (fades : Fades since pathDue resvDue d) (tidy : chain.Tidy i now d)
    (behind : 0 < i) (within : i ≤ chain.transits)
    (tunnel : chain.OfTunnel (recvSessionObj buffer))
    (path : pathDue ≤ now + interval) (resv : now ≤ resvDue) :
    Fades since pathDue resvDue
      (receiveResvMessage (chain.env i now env) buffer d) := by
  constructor
  · rw [(receiveResvMessage_frame _ _ _).2]
    exact fades.path
  · rcases tidy.receiveResv_resvHead env away behind within tunnel with
      ⟨_, same⟩ | ⟨held, temp, single, _, time, _⟩
    · rw [same]
      exact fades.resv
    · rw [single, List.forall_mem_singleton, time]
      obtain ⟨old, member⟩ :=
        List.exists_mem_of_ne_nil _ (tidy.pathRecord held)
      have due := (fades.path old member).2
      unfold timeout interval at *
      omega

theorem Fades.pathTimer (fades : Fades since pathDue resvDue d)
    (tidy : chain.Tidy i now d) (clock : env.now = now) :
    Fades since (now + interval) resvDue (pathTimerHandler env d) := by
  constructor
  · rw [(pathTimerHandler_frame env d).2.1]
    exact fades.path
  · cases (pathTimerHandler_sole env tidy.resv tidy.passes).1 with
    | gone resvHead resv => simp [resvHead]
    | live young resvHead resv =>
        rw [resvHead]
        intro temp member
        have last := (fades.resv temp member).1
        have fresh := young temp member
        unfold Expired timeout interval at *
        omega

theorem Fades.resvTimer (fades : Fades since pathDue resvDue d)
    (tidy : chain.Tidy i now d) (clock : env.now = now) :
    Fades since pathDue (now + interval) (resvTimerHandler env d) := by
  cases resvTimerHandler_sole env tidy.path with
  | live young pathHead resvHead path resv =>
      constructor
      · rw [pathHead]
        intro temp member
        have last := (fades.path temp member).1
        have fresh := young temp member
        unfold Expired timeout interval at *
        omega
      · rw [resvHead]
        exact fades.resv
  | gone pathHead resvHead =>
      exact ⟨by simp [pathHead],
        fun temp member => fades.resv temp (resvHead.subset member)⟩

end Fades

section Fading

variable {chain} {s s' : ChainState} {event : ChainEvent} {i : Nat}
  {d : Daemon} {since : Int}

theorem PathFree.handled (pathFree : PathFree s)
    (sends : ∀ datagram ∈ newlySent (s.net.state i) d,
      isPath datagram = false) : PathFree (chain.handled i d s) := by
  intro sender datagram member
  by_cases here : sender = i
  · subst here
    rw [flight_handled_self] at member
    rcases List.mem_append.mp member with before | new
    · exact pathFree sender datagram before
    · exact sends datagram new
  · rw [flight_handled_of_ne here] at member
    exact pathFree sender datagram member

theorem PathFree.remove (pathFree : PathFree s) (sender index : Nat) :
    PathFree { s with net := s.net.remove sender index } := by
  intro other datagram member
  by_cases here : other = sender
  · subst here
    rw [Config.remove_flight_self] at member
    exact pathFree other datagram (List.mem_of_mem_eraseIdx member)
  · rw [Config.remove_flight_of_ne here] at member
    exact pathFree other datagram member

theorem receiveResvMessage_pathFree (env : Env) (buffer : Buffer) :
    ∀ datagram ∈ newlySent d (receiveResvMessage env buffer d),
      isPath datagram = false := by
  cases receiveResvMessage_cases env buffer d with
  | kept _ _ _ _ sent => simp [newlySent_nil sent]
  | noMemory _ _ _ _ _ _ _ sent => simp [newlySent_nil sent]
  | created _ _ _ _ _ _ _ sent =>
      rw [newlySent_append sent]
      intro datagram member
      split at member
      · cases member
      · rw [List.mem_singleton.mp member]
        exact isPath_resvSend ..

theorem resvTimerHandler_pathFree (env : Env) :
    ∀ datagram ∈ newlySent d (resvTimerHandler env d),
      isPath datagram = false := by
  obtain ⟨new, sent, resvs⟩ := resvTimerHandler_sent env d
  rw [newlySent_append sent]
  intro datagram member
  obtain ⟨_, r, _, rfl⟩ := resvs datagram member
  exact isPath_resvSend ..

theorem AllOk.pathFree (all : chain.AllOk s) (quiet : chain.Quiet s) :
    PathFree s := by
  intro sender datagram member
  have within : sender ≤ chain.transits + 1 := by
    cases all.message sender datagram member with
    | path within => omega
    | resv within => omega
  rw [quiet sender within] at member
  cases member

/-- A chain without a PATH in flight fades from then on. -/
theorem Steady.fading (steady : chain.Steady s) (pathFree : PathFree s) :
    chain.Fading s.time s := by
  refine ⟨steady, pathFree, fun i behind => ⟨?_, ?_⟩⟩
  · intro temp member
    have heard := (steady.tidy i behind).pathTime temp member
    have due := (steady.due i behind).resv.2
    unfold timeout interval at *
    omega
  · intro temp member
    have heard := (steady.tidy i behind).resvTime temp member
    have due := (steady.due i behind).path.2
    unfold timeout interval at *
    omega

theorem fades_handled (pathDue resvDue : Nat → Int)
    (others : ∀ j, chain.Downstream j → j ≠ i →
      Fades since (pathDue j) (resvDue j) (s.net.state j))
    (own : chain.Downstream i → Fades since (pathDue i) (resvDue i) d) :
    ∀ j, chain.Downstream j → Fades since (pathDue j) (resvDue j)
      ((chain.handled i d s).net.state j) :=
  forall_handled
    (fun j d => chain.Downstream j → Fades since (pathDue j) (resvDue j) d)
    (fun j other behind => others j behind other) own

theorem Fading.step (away : chain.SourceAway)
    (fading : chain.Fading since s) (silenced : chain.Silenced s event)
    (taken : chain.step s event = some s') : chain.Fading since s' := by
  have steady := fading.steady
  have steady' := steady.step away silenced.1 taken
  cases step_cases steady.all taken with
  | wait seconds => exact ⟨steady', fading.pathFree, fading.fades⟩
  | path i index env packet reached within inFlight session hop =>
      have free := fading.pathFree i _ (List.mem_of_getElem? inFlight)
      cases free
  | resv i index env packet within inFlight session =>
      refine ⟨steady', (fading.pathFree.remove _ index).handled
        (receiveResvMessage_pathFree _ _), ?_⟩
      refine fades_handled s.pathDue s.resvDue
        (fun j behind _ => fading.fades j behind) ?_
      intro behind
      have due := steady.due i behind
      refine (fading.fades i behind).receiveResv away (steady.tidy i behind)
        behind.1 within ?_ due.path.2 due.resv.1
      rw [recvSessionObj_received]
      exact session
  | lose sender index datagram inFlight =>
      exact ⟨steady', fading.pathFree.remove sender index, fading.fades⟩
  | pathTimer i env reachable =>
      have behind : chain.Downstream i :=
        ⟨Nat.pos_of_ne_zero silenced.2, reachable⟩
      have tidy := steady.tidy i behind
      have sent := (pathTimerHandler_sole (chain.env i s.time env) tidy.resv
        tidy.passes).2
      refine ⟨steady', PathFree.handled fading.pathFree
        (by simp [newlySent_nil sent]), ?_⟩
      refine fades_handled
        (Function.update s.pathDue i (s.time + interval)) s.resvDue
        (fun j behind other => ?_) fun _ => ?_
      · rw [Function.update_of_ne other]
        exact fading.fades j behind
      · rw [Function.update_self]
        exact (fading.fades i behind).pathTimer tidy rfl
  | resvTimer i env reachable =>
      refine ⟨steady', PathFree.handled fading.pathFree
        (resvTimerHandler_pathFree _), ?_⟩
      refine fades_handled s.pathDue
        (Function.update s.resvDue i (s.time + interval))
        (fun j behind other => ?_) fun behind => ?_
      · rw [Function.update_of_ne other]
        exact fading.fades j behind
      · rw [Function.update_self]
        exact (fading.fades i behind).resvTimer (steady.tidy i behind) rfl

theorem Fading.forgotten (fading : chain.Fading since s)
    (behind : chain.Downstream i) :
    (since + (timeout + interval) < s.time →
      (s.net.state i).pathHead = [] ∧ chain.path s i = none) ∧
    (since + 2 * (timeout + interval) < s.time →
      (s.net.state i).resvHead = [] ∧ chain.resv s i = none) := by
  have tidy := fading.steady.tidy i behind
  have due := fading.steady.due i behind
  have fades := fading.fades i behind
  have pathGone (late : since + (timeout + interval) < s.time) :
      (s.net.state i).pathHead = [] := by
    rw [List.eq_nil_iff_forall_not_mem]
    intro temp member
    have last := (fades.path temp member).2
    have next := due.resv.1
    omega
  refine ⟨fun late => ⟨pathGone late, ?_⟩, fun late => ?_⟩
  · by_contra held
    exact tidy.pathRecord held (pathGone late)
  · have resvGone : (s.net.state i).resvHead = [] := by
      rw [List.eq_nil_iff_forall_not_mem]
      intro temp member
      have last := (fades.resv temp member).2
      have next := due.path.1
      omega
    refine ⟨resvGone, ?_⟩
    by_contra held
    rcases tidy.resvRecord held with ⟨_, some⟩ | ⟨_, some⟩
    · refine some (pathGone ?_)
      unfold timeout interval at *
      omega
    · exact some resvGone

end Fading

section Runs

variable {chain} {time : Int} {phases : Phases} {env : Env}
  {s s' : ChainState}

/-- Whatever is lost, delayed or reordered, from the moment at which no PATH is
in flight and the ingress sends none, every other router forgets the path state
of the tunnel within 120 seconds and its reservation within 240. -/
theorem silence_clears (away : chain.SourceAway)
    (run : Transition.Reachable chain.step chain.Prompt
      (chain.start time phases env) s)
    (pathFree : PathFree s)
    (silence : Transition.Reachable chain.step chain.Silenced s s') :
    ∀ i, 0 < i → i ≤ chain.transits + 1 →
      (s.time + 120 < s'.time →
        (s'.net.state i).pathHead = [] ∧ chain.path s' i = none) ∧
      (s.time + 240 < s'.time →
        (s'.net.state i).resvHead = [] ∧ chain.resv s' i = none) := by
  have steady : chain.Steady s :=
    Transition.Reachable.invariant (start_steady chain)
      (fun _ _ _ steady prompt taken => steady.step away prompt taken) run
  have fading : chain.Fading s.time s' :=
    Transition.Reachable.invariant (steady.fading pathFree)
      (fun _ _ _ fading silenced taken => fading.step away silenced taken)
      silence
  intro i behind reachable
  exact fading.forgotten ⟨behind, reachable⟩

end Runs

end Chain

theorem sampleChain_sourceAway (transits : Nat) (short : transits ≤ 1000) :
    (sampleChain transits short).SourceAway := by
  intro i behind _
  simp [sampleChain, behind.ne']

/-- Thirty seconds in which only the routers behind the ingress sweep. -/
def silentRound : List ChainEvent :=
  [.wait 30, .pathTimer 1 (.isolated 0), .pathTimer 2 (.isolated 0),
   .resvTimer 1 (.isolated 0), .resvTimer 2 (.isolated 0)]

/-- A tunnel that was set up is forgotten after nine such rounds. -/
theorem silentRounds_clear :
    ∃ s s', Transition.runEvents (Transition.guarded sampleTransit.step
        sampleTransit.Prompt)
          (sampleTransit.start 0 samplePhases (.isolated 0)) setupEvents =
            some s ∧
      Transition.runEvents (Transition.guarded sampleTransit.step
        sampleTransit.Silenced) s (List.replicate 9 silentRound).flatten =
          some s' ∧
      (∀ i ≤ 2, (sampleTransit.path s i).isSome ∧
        (sampleTransit.resv s i).isSome) ∧
      ∀ i, 0 < i → i ≤ 2 →
        ((s'.net.state i).pathHead = [] ∧ sampleTransit.path s' i = none) ∧
        ((s'.net.state i).resvHead = [] ∧ sampleTransit.resv s' i = none) := by
  have executed : ((Transition.runEvents (Transition.guarded
      sampleTransit.step sampleTransit.Prompt)
        (sampleTransit.start 0 samplePhases (.isolated 0))
          setupEvents).bind fun s =>
            (Transition.runEvents (Transition.guarded sampleTransit.step
              sampleTransit.Silenced) s
                (List.replicate 9 silentRound).flatten).map fun s' =>
                  (decide (sampleTransit.Quiet s),
                    decide (∀ i ≤ (2 : Nat),
                      (sampleTransit.path s i).isSome ∧
                        (sampleTransit.resv s i).isSome),
                    s.time, s'.time)) = some (true, true, 0, 270) := by
    decide +kernel
  obtain ⟨s, run, rest⟩ := Option.bind_eq_some_iff.mp executed
  obtain ⟨s', silence, state⟩ := Option.map_eq_some_iff.mp rest
  simp only [Prod.mk.injEq, decide_eq_true_eq] at state
  obtain ⟨quiet, setUp, now, later⟩ := state
  have reached : Transition.Reachable sampleTransit.step sampleTransit.Prompt
      (sampleTransit.start 0 samplePhases (.isolated 0)) s := .of_guarded run
  refine ⟨s, s', run, silence, setUp, fun i behind within => ?_⟩
  have cleared := Chain.silence_clears (sampleChain_sourceAway 1 (by decide))
    reached ((Chain.Reachable.allOk reached).pathFree quiet)
    (.of_guarded silence) i behind within
  rw [now, later] at cleared
  exact ⟨cleared.1 (by decide), cleared.2 (by decide)⟩

end Rsvpd
