import Rsvpd.ChainRecords

/-!
# Whether refreshes keep the reservation of the ingress

Every PATH is passed on, but a RESV is passed on only by a router that creates
its record.  The refreshes of the egress therefore reach the ingress only when
no router is between them.
-/

namespace Rsvpd

open Daemon Network

namespace Chain

variable (chain : Chain)

/-- No datagram is in flight. -/
def Quiet (s : ChainState) : Prop :=
  ∀ i ≤ chain.transits + 1, s.net.flight i = []

/-- Nothing is lost, no allocation fails, and every timer fires when it is
due, with no datagram in flight. -/
def Timely (s : ChainState) : ChainEvent → Prop
  | .wait seconds => ∀ i ≤ chain.transits + 1,
      s.time + seconds ≤ s.pathDue i ∧ s.time + seconds ≤ s.resvDue i
  | .deliver _ _ env => env.pathMalloc = true ∧ env.resvMalloc = true
  | .lose _ _ => False
  | .pathTimer router _ => s.time = s.pathDue router ∧ chain.Quiet s
  | .resvTimer router _ => s.time = s.resvDue router ∧ chain.Quiet s

instance (s : ChainState) :
    (event : ChainEvent) → Decidable (chain.Timely s event)
  | .wait _ | .deliver _ _ _ | .lose _ _ | .pathTimer _ _
  | .resvTimer _ _ => by
      unfold Timely
      try unfold Quiet
      infer_instance

def ingressSession (last : Int) : Session :=
  { sender := chain.tunnel.srcip, receiver := chain.tunnel.dstip,
    tunnelId := chain.tunnel.tunnelId, dest := 1, del := 0,
    lastPathTime := last }

/-- A refresh is on the only link of a chain without transit routers. -/
def Pending (s : ChainState) : Prop :=
  s.net.flight 0 ≠ [] ∨ s.net.flight 1 ≠ []

/-- What refreshes keep at the ingress: its path record, and its session,
refreshed since the last path sweep unless a refresh is on its way. -/
structure Refreshed (s : ChainState) : Prop where
  all : chain.AllOk s
  path : ∃ p, (s.net.state 0).pathTree.find chain.tunnel.tunnelId = some p
  session : ∃ last, (s.net.state 0).resvHead = [chain.ingressSession last] ∧
    s.pathDue 0 ≤ last + 2 * interval ∧
    (s.pathDue 0 ≤ last + interval ∨ Pending s)
  due : s.time ≤ s.pathDue 0 ∧ s.pathDue 0 ≤ s.time + interval

/-- What a timely run keeps once the ingress holds a record. -/
structure Held (r : ResvMsg) (s : ChainState) : Prop where
  refreshed : chain.Refreshed s
  resv : chain.resv s 0 = some r

section Handlers

variable {chain} {s s' : ChainState} {now : Int} {env : Env} {d : Daemon}

variable (now) in
theorem egress_answers {packet : PathPacket} (reached : Int) {i : Nat}
    (last : i = chain.transits) (session : chain.OfTunnel packet.sessionObj)
    (hop : packet.hopObj.nextHop = chain.upAddr i)
    (ok : chain.RouterOk (i + 1) d) (pathMemory : env.pathMalloc = true)
    (resvMemory : env.resvMalloc = true) :
    newlySent d (receivePathMessage (chain.env (i + 1) now env)
      (Packet.path packet).received
      (mainPathSession (chain.env (i + 1) now env)
        (Packet.path packet).received reached d)) ≠ [] := by
  subst last
  have keeps := receivePath_keeps now env reached (Nat.le_refl _) session
    hop ok
  have sent := receivePathMessage_sent
    (chain.env (chain.transits + 1) now env) (Packet.path packet).received
    (mainPathSession (chain.env (chain.transits + 1) now env)
      (Packet.path packet).received reached d)
  have sameSent := (mainPathSession_frame
    (chain.env (chain.transits + 1) now env) (Packet.path packet).received
    reached d).2.2.2.2.1
  have routed : ((chain.env (chain.transits + 1) now env).insertRoute
      (recvSessionObj (Packet.path packet).received).dstIp).ret ≠ 0 := by
    have read : recvSessionObj (Packet.path packet).received =
        packet.sessionObj := recvSessionObj_received _
    rw [read, session.dstIp]
    exact chain.atDst.1
  obtain ⟨p, held⟩ := receivePathMessage_pathHeld _ _
    (mainPathSession (chain.env (chain.transits + 1) now env)
      (Packet.path packet).received reached d) routed pathMemory
  have egress : p.nexthopIp = .any := by
    rw [(keeps.ok.path _ p held).nexthopIp]
    exact (nextAddr_eq_any (Nat.le_refl _)).mpr rfl
  obtain ⟨r, answer⟩ := receivePathMessage_resvHeld _ _ _ held egress
    resvMemory
  rw [held, sameSent] at sent
  simp only [if_pos egress, answer] at sent
  rw [newlySent_append sent]
  simp

theorem receiveResv_refreshes {buffer : Buffer} {last : Int}
    (tunnel : chain.OfTunnel (recvSessionObj buffer))
    (path : ∃ p, d.pathTree.find chain.tunnel.tunnelId = some p)
    (session : d.resvHead = [chain.ingressSession last]) :
    (receiveResvMessage (chain.env 0 now env) buffer d).resvHead =
      [chain.ingressSession now] := by
  obtain ⟨p, held⟩ := path
  have routed : dstReached ((chain.env 0 now env).reachRoute
      (recvSessionObj buffer).srcIp) ≠ -1 := by
    rw [tunnel.srcIp]
    exact dstReached_ne (chain.towardSrc 0 (Nat.zero_le _))
  have ids : recvTunnelId buffer = chain.tunnel.tunnelId := tunnel.tunnelId
  rw [receiveResvMessage_resvHead, ids, held]
  dsimp only
  rw [insert_resvHead, if_neg routed, ids, session]
  have found : findSession chain.tunnel.tunnelId
      [chain.ingressSession last] = some (chain.ingressSession last) := by
    rw [findSession_cons]
    exact if_pos rfl
  rw [noteSession_found found, searchSession]
  exact congrArg Prod.snd (if_pos rfl)

theorem pathTimer_ingress {last : Int}
    (session : d.resvHead = [chain.ingressSession last]) :
    pathTimerHandler env d =
      pathRefresh env (chain.ingressSession last) d := by
  have stays : ¬Removable env.now (chain.ingressSession last) := by
    rintro ⟨_, notDestination | deleted⟩
    · exact absurd notDestination (by simp [ingressSession])
    · exact deleted rfl
  rw [pathTimerHandler_visits, pathVisits, session,
    Sweep.sweep_keep _ _ stays, Sweep.sweep_nil]
  rfl

theorem pathTimer_sends {last : Int}
    (path : ∃ p, d.pathTree.find chain.tunnel.tunnelId = some p)
    (session : d.resvHead = [chain.ingressSession last]) :
    newlySent d (pathTimerHandler env d) ≠ [] := by
  obtain ⟨p, held⟩ := path
  have sends : (chain.ingressSession last).dest ≠ 0 ∧
      (chain.ingressSession last).del = 0 := ⟨by simp [ingressSession], rfl⟩
  rw [pathTimer_ingress session, newlySent_append (pathRefresh_sent ..),
    if_pos sends]
  simp [ingressSession, held]

theorem pathTimer_resvHead {last : Int}
    (session : d.resvHead = [chain.ingressSession last]) :
    (pathTimerHandler env d).resvHead = d.resvHead := by
  rw [pathTimer_ingress session, pathRefresh_resvHead]

theorem pathTimer_find {last : Int}
    (session : d.resvHead = [chain.ingressSession last])
    (live : env.now ≤ last + interval) (tunnelId : U16) :
    (pathTimerHandler env d).resvTree.find tunnelId =
      d.resvTree.find tunnelId := by
  have notExpired : ¬Expired env.now (chain.ingressSession last) := by
    simp only [Expired, ingressSession, timeout]
    simp only [interval] at live
    omega
  rw [pathTimer_ingress session, pathRefresh_find,
    if_neg fun both => notExpired both.1]

end Handlers

section Steps

variable {chain} {s s' : ChainState} {event : ChainEvent}

theorem Pending.handled {i : Nat} {d : Daemon} (pending : Pending s) :
    Pending (chain.handled i d s) := by
  have grows : ∀ j, s.net.flight j ≠ [] →
      (chain.handled i d s).net.flight j ≠ [] := by
    intro j some
    by_cases same : j = i
    · subst same
      rw [flight_handled_self]
      exact List.append_ne_nil_of_left_ne_nil some _
    · rwa [flight_handled_of_ne same]
  exact pending.imp (grows 0) (grows 1)

theorem Quiet.not_pending (quiet : chain.Quiet s) : ¬Pending s := by
  rintro (up | down)
  · exact up (quiet 0 (by omega))
  · exact down (quiet 1 (by omega))

theorem Refreshed.handled {i : Nat} {d : Daemon}
    (refreshed : chain.Refreshed s) (all : chain.AllOk (chain.handled i d s))
    (leaves : 0 = i → d.pathTree = (s.net.state 0).pathTree ∧
      d.resvHead = (s.net.state 0).resvHead) :
    chain.Refreshed (chain.handled i d s) := by
  have same : ((chain.handled i d s).net.state 0).pathTree =
        (s.net.state 0).pathTree ∧
      ((chain.handled i d s).net.state 0).resvHead =
        (s.net.state 0).resvHead := by
    by_cases ingress : 0 = i
    · subst ingress
      rw [state_handled_self]
      exact leaves rfl
    · rw [state_handled_of_ne ingress]
      exact ⟨rfl, rfl⟩
  obtain ⟨last, shape, within, fresh⟩ := refreshed.session
  constructor
  · exact all
  · rw [same.1]
    exact refreshed.path
  · rw [same.2]
    exact ⟨last, shape, within, fresh.imp_right Pending.handled⟩
  · exact refreshed.due

/-- The path sweep of the ingress comes while the session is fresh, and the
PATH that it sends is the next refresh. -/
theorem Refreshed.pathTimer_ingress {env : Env}
    (refreshed : chain.Refreshed s)
    (timely : chain.Timely s (.pathTimer 0 env))
    (all : chain.AllOk (chain.handled 0
      (pathTimerHandler (chain.env 0 s.time env) (s.net.state 0)) { s with
        pathDue := Function.update s.pathDue 0 (s.time + interval) })) :
    chain.Refreshed (chain.handled 0
      (pathTimerHandler (chain.env 0 s.time env) (s.net.state 0)) { s with
        pathDue := Function.update s.pathDue 0 (s.time + interval) }) := by
  obtain ⟨last, shape, within, fresh⟩ := refreshed.session
  have live : s.pathDue 0 ≤ last + interval :=
    fresh.resolve_right timely.2.not_pending
  have next : (Function.update s.pathDue 0 (s.time + interval)) 0 =
      s.pathDue 0 + interval := by
    rw [Function.update_self, timely.1]
  constructor
  · exact all
  · rw [state_handled_self, (pathTimerHandler_frame ..).1]
    exact refreshed.path
  · rw [state_handled_self, pathTimer_resvHead shape]
    refine ⟨last, shape, ?_, .inr (.inl ?_)⟩
    · exact next.trans_le (by omega)
    · rw [flight_handled_self]
      exact List.append_ne_nil_of_right_ne_nil _
        (pathTimer_sends refreshed.path shape)
  · have soon : s.time ≤ s.pathDue 0 + interval := by
      rw [← timely.1]
      simp [interval]
    have notLater : s.pathDue 0 + interval ≤ s.time + interval := by
      rw [timely.1]
    exact ⟨soon.trans_eq next.symm, next.trans_le notLater⟩

theorem Refreshed.step (direct : chain.transits = 0)
    (refreshed : chain.Refreshed s) (timely : chain.Timely s event)
    (taken : chain.step s event = some s') : chain.Refreshed s' := by
  have all := refreshed.all.step taken
  have due := refreshed.due
  obtain ⟨last, shape, within, fresh⟩ := refreshed.session
  cases step_cases refreshed.all taken with
  | wait seconds =>
      have notDue := (timely 0 (Nat.zero_le _)).1
      refine ⟨all, refreshed.path, refreshed.session, ?_⟩
      dsimp only
      omega
  | path i index env packet reached inside inFlight session hop =>
      have start : i = 0 := by omega
      subst start
      have answers := egress_answers s.time reached direct.symm session hop
        (refreshed.all.node 1) timely.1 timely.2
      constructor
      · exact all
      · rw [state_handled_of_ne (by decide)]
        exact refreshed.path
      · rw [state_handled_of_ne (by decide)]
        refine ⟨last, shape, within, .inr (.inr ?_)⟩
        rw [flight_handled_self]
        exact List.append_ne_nil_of_right_ne_nil _ answers
      · exact due
  | resv i index env packet inside inFlight session =>
      have start : i = 0 := by omega
      subst start
      have ids : chain.OfTunnel
          (recvSessionObj (Packet.resv packet).received) := by
        rw [recvSessionObj_received]
        exact session
      constructor
      · exact all
      · rw [state_handled_self, (receiveResvMessage_frame ..).1]
        exact refreshed.path
      · rw [state_handled_self]
        have twice : s.time + interval ≤ s.time + 2 * interval := by
          simp [interval]
        exact ⟨s.time, receiveResv_refreshes ids refreshed.path shape,
          due.2.trans twice, .inl due.2⟩
      · exact due
  | lose sender index datagram inFlight => exact absurd timely id
  | pathTimer i env reachable =>
      by_cases ingress : 0 = i
      · subst ingress
        exact refreshed.pathTimer_ingress timely all
      · refine Refreshed.handled ?_ all fun here => absurd here ingress
        have same : (Function.update s.pathDue i (s.time + interval)) 0 =
            s.pathDue 0 := Function.update_of_ne ingress ..
        exact ⟨refreshed.all, refreshed.path,
          ⟨last, shape, same.trans_le within, fresh.imp_left same.trans_le⟩,
          due.1.trans_eq same.symm, same.trans_le due.2⟩
  | resvTimer i env reachable =>
      refine Refreshed.handled ⟨refreshed.all, refreshed.path,
        refreshed.session, due⟩ all ?_
      intro ingress
      subst ingress
      rw [resvTimerHandler_nil ((refreshed.all.node 0).pathHead rfl)]
      exact ⟨rfl, rfl⟩

theorem start_refreshed {time : Int} {phases : Phases} {env : Env}
    (memory : env.pathMalloc = true) :
    chain.Refreshed (chain.start time phases env) := by
  obtain ⟨p, built, ok⟩ := exists_configuredPathMsg chain time env
  obtain ⟨pathTree, resvHead⟩ := startup_of_configured built
  have early := phases.path_le 0
  have ingress : (chain.start time phases env).net.state 0 =
      startup (chain.env 0 time env) chain.tunnel := by
    simp [start]
  constructor
  · exact start_allOk
  · have inserted := RecordTree.find_insert_self p ok.tunnelId
      (RecordTree.find_null chain.tunnel.tunnelId)
    have stored : (chain.env 0 time env).pathMalloc = true := memory
    rw [ingress, pathTree, stored]
    exact ⟨p, inserted⟩
  · rw [ingress, resvHead]
    refine ⟨time, rfl, ?_⟩
    simp only [start, interval] at early ⊢
    omega
  · simp only [start]
    omega

/-- A step of such a chain never removes the record of the ingress. -/
theorem Refreshed.keepsResv {r : ResvMsg} (direct : chain.transits = 0)
    (refreshed : chain.Refreshed s) (timely : chain.Timely s event)
    (taken : chain.step s event = some s') (held : chain.resv s 0 = some r) :
    chain.resv s' 0 = some r := by
  obtain ⟨last, shape, within, fresh⟩ := refreshed.session
  cases step_cases refreshed.all taken with
  | wait seconds => exact held
  | path i index env packet reached inside inFlight session hop =>
      rwa [resv_handled_of_ne (by omega)]
  | resv i index env packet inside inFlight session =>
      have start : i = 0 := by omega
      subst start
      rw [resv_handled_self]
      have ids : recvTunnelId (Packet.resv packet).received =
          chain.tunnel.tunnelId := by
        rw [recvTunnelId, recvSessionObj_received]
        exact session.tunnelId
      cases receiveResvMessage_cases (chain.env 0 s.time env)
          (Packet.resv packet).received (s.net.state 0) with
      | kept known resvTree labelBitmap commands sent => rwa [resvTree]
      | noMemory pa path missing memory resvTree labelBitmap commands sent =>
          rwa [resvTree]
      | created pa path missing memory resvTree labelBitmap commands sent =>
          rw [ids] at missing
          exact absurd (held.symm.trans missing) (Option.some_ne_none r)
  | lose sender index datagram inFlight => exact absurd timely id
  | pathTimer i env reachable =>
      by_cases ingress : 0 = i
      · subst ingress
        have live : s.time ≤ last + interval := by
          rw [timely.1]
          exact fresh.resolve_right timely.2.not_pending
        rw [resv_handled_self, pathTimer_find shape live]
        exact held
      · rwa [resv_handled_of_ne ingress]
  | resvTimer i env reachable =>
      by_cases ingress : 0 = i
      · subst ingress
        rw [resv_handled_self,
          resvTimerHandler_nil ((refreshed.all.node 0).pathHead rfl)]
        exact held
      · rwa [resv_handled_of_ne ingress]

/-- Without transit routers, the record of the ingress is never removed. -/
theorem resv_never_removed (direct : chain.transits = 0) {time : Int}
    {phases : Phases} {env : Env} (memory : env.pathMalloc = true)
    (run : Transition.Reachable chain.step chain.Timely
      (chain.start time phases env) s) {r : ResvMsg}
    (held : chain.resv s 0 = some r)
    (later : Transition.Reachable chain.step chain.Timely s s') :
    chain.resv s' 0 = some r := by
  have refreshed : chain.Refreshed s :=
    Transition.Reachable.invariant (start_refreshed memory)
      (fun _ _ _ held timely taken => held.step direct timely taken) run
  have kept : chain.Held r s' := by
    refine Transition.Reachable.invariant ⟨refreshed, held⟩ ?_ later
    intro source event target held timely taken
    exact ⟨held.refreshed.step direct timely taken,
      held.refreshed.keepsResv direct timely taken held.resv⟩
  exact kept.resv

end Steps

end Chain

section Samples

open ChainEvent

def samplePhases : Phases where
  path _ := 30
  resv _ := 30
  path_le _ := Int.le_refl _
  resv_le _ := Int.le_refl _

/-- An ingress and an egress, and the first exchange between them. -/
def sampleDirect : Chain := sampleChain 0 (by decide)

def exchange : List ChainEvent :=
  [deliver 0 0 (.isolated 0), deliver 1 0 (.isolated 0)]

theorem exchange_kept :
    ∃ s s' r, Transition.Reachable sampleDirect.step sampleDirect.Timely
        (sampleDirect.start 0 samplePhases (.isolated 0)) s ∧
      Transition.Reachable sampleDirect.step sampleDirect.Timely s s' ∧
      s'.time = 30 ∧ sampleDirect.resv s' 0 = some r := by
  have held : ((Transition.runEvents (Transition.guarded sampleDirect.step
      sampleDirect.Timely) (sampleDirect.start 0 samplePhases (.isolated 0))
        exchange).bind fun s => (sampleDirect.resv s 0).bind fun _ =>
          (Transition.runEvents (Transition.guarded sampleDirect.step
            sampleDirect.Timely) s
              (wait 30 :: pathTimer 0 (.isolated 0) :: exchange)).map
                ChainState.time) = some 30 := by
    decide +kernel
  obtain ⟨s, run, rest⟩ := Option.bind_eq_some_iff.mp held
  obtain ⟨r, first, rest⟩ := Option.bind_eq_some_iff.mp rest
  obtain ⟨s', later, time⟩ := Option.map_eq_some_iff.mp rest
  exact ⟨s, s', r, .of_guarded run, .of_guarded later, time,
    Chain.resv_never_removed rfl rfl (.of_guarded run) first
      (.of_guarded later)⟩

/-- Thirty seconds of a chain with one transit router: the PATH goes down,
the egress answers, and all timers fire. -/
def refreshRound : List ChainEvent :=
  [wait 30, pathTimer 0 (.isolated 0), deliver 0 0 (.isolated 0),
   deliver 1 0 (.isolated 0), deliver 2 0 (.isolated 0),
   pathTimer 1 (.isolated 0), pathTimer 2 (.isolated 0),
   resvTimer 0 (.isolated 0), resvTimer 1 (.isolated 0),
   resvTimer 2 (.isolated 0)]

/-- With a transit router the ingress loses its record, although every
refresh is sent and delivered in time. -/
theorem resv_removed :
    ∃ chain time phases env s s' r,
      Transition.Reachable (Chain.step chain) chain.Timely
        (chain.start time phases env) s ∧
      chain.resv s 0 = some r ∧
      Transition.Reachable chain.step chain.Timely s s' ∧
      chain.resv s' 0 = none := by
  have removed : ((Transition.runEvents (Transition.guarded
      sampleTransit.step sampleTransit.Timely)
        (sampleTransit.start 0 samplePhases (.isolated 0))
          setupEvents).bind fun s => (sampleTransit.resv s 0).bind fun _ =>
            (Transition.runEvents (Transition.guarded sampleTransit.step
              sampleTransit.Timely) s
                (refreshRound ++ refreshRound ++ refreshRound ++
                  refreshRound)).map fun s' =>
                    (sampleTransit.resv s' 0).isNone) = some true := by
    decide +kernel
  obtain ⟨s, run, rest⟩ := Option.bind_eq_some_iff.mp removed
  obtain ⟨r, first, rest⟩ := Option.bind_eq_some_iff.mp rest
  obtain ⟨s', later, gone⟩ := Option.map_eq_some_iff.mp rest
  exact ⟨sampleTransit, 0, samplePhases, .isolated 0, s, s', r,
    .of_guarded run, first, .of_guarded later,
    Option.isNone_iff_eq_none.mp gone⟩

end Samples

end Rsvpd
