import Rsvpd.ChainSilence

/-!
# A refresh that gets through revives the path state

Every router passes every PATH on.  So whatever was lost before, one PATH of
the ingress that is not lost on its way brings the path state of all routers
back, however it mixes with what else is in flight.
-/

namespace Rsvpd

open Daemon Network Sweep

namespace Chain

variable (chain : Chain)

/-- The ingress keeps what `main` gave it. -/
structure Ingress (d : Daemon) : Prop where
  session : ∃ last, d.resvHead = [chain.ingressSession last]
  record : ∃ p, d.pathTree.find chain.tunnel.tunnelId = some p

/-- What any run keeps, whatever is lost. -/
structure Standing (s : ChainState) : Prop where
  all : chain.AllOk s
  distinct : ∀ i, DistinctIds (s.net.state i).pathHead
  ingress : chain.Ingress (s.net.state 0)

section Standing

variable {chain} {s s' : ChainState} {event : ChainEvent} {i : Nat}
  {d : Daemon}

theorem distinct_handled
    (distinct : ∀ j, DistinctIds (s.net.state j).pathHead)
    (own : DistinctIds d.pathHead) (j : Nat) :
    DistinctIds ((chain.handled i d s).net.state j).pathHead :=
  forall_handled (fun _ d => DistinctIds d.pathHead) (fun j _ => distinct j)
    own j

theorem Ingress.handled (ingress : chain.Ingress (s.net.state 0))
    (own : i = 0 → chain.Ingress d) :
    chain.Ingress ((chain.handled i d s).net.state 0) := by
  by_cases first : i = 0
  · subst first
    rw [state_handled_self]
    exact own rfl
  · rw [state_handled_of_ne (Ne.symm first)]
    exact ingress

theorem Ingress.receiveResv {now : Int} {env : Env} {buffer : Buffer}
    (ingress : chain.Ingress d)
    (tunnel : chain.OfTunnel (recvSessionObj buffer)) :
    chain.Ingress (receiveResvMessage (chain.env 0 now env) buffer d) := by
  obtain ⟨last, session⟩ := ingress.session
  refine ⟨⟨now, receiveResv_refreshes tunnel ingress.record session⟩, ?_⟩
  rw [(receiveResvMessage_frame _ _ _).1]
  exact ingress.record

theorem Ingress.pathTimer {env : Env} (ingress : chain.Ingress d) :
    chain.Ingress (pathTimerHandler env d) := by
  obtain ⟨last, session⟩ := ingress.session
  refine ⟨⟨last, (pathTimer_resvHead session).trans session⟩, ?_⟩
  rw [(pathTimerHandler_frame env d).1]
  exact ingress.record

theorem Standing.step (standing : chain.Standing s)
    (taken : chain.step s event = some s') : chain.Standing s' := by
  obtain ⟨all, distinct, ingress⟩ := standing
  have all' := all.step taken
  cases step_cases all taken with
  | wait seconds => exact ⟨all', distinct, ingress⟩
  | path i index env packet reached within inFlight session hop =>
      refine ⟨all', distinct_handled distinct ?_, ingress.handled nofun⟩
      rw [(receivePathMessage_frame _ _ _).1, mainPathSession_pathHead]
      exact (distinct (i + 1)).noteSession ..
  | resv i index env packet within inFlight session =>
      refine ⟨all', distinct_handled distinct ?_, ingress.handled ?_⟩
      · rw [(receiveResvMessage_frame _ _ _).2]
        exact distinct i
      · rintro rfl
        refine ingress.receiveResv ?_
        rw [recvSessionObj_received]
        exact session
  | lose sender index datagram inFlight => exact ⟨all', distinct, ingress⟩
  | pathTimer i env reachable =>
      refine ⟨all', distinct_handled distinct ?_, ingress.handled ?_⟩
      · rw [(pathTimerHandler_frame _ _).2.1]
        exact distinct i
      · rintro rfl
        exact ingress.pathTimer
  | resvTimer i env reachable =>
      refine ⟨all', distinct_handled distinct
        (resvTimerHandler_distinct (distinct i)), ingress.handled ?_⟩
      rintro rfl
      rw [resvTimerHandler_nil ((all.node 0).pathHead rfl)]
      exact ingress

variable (chain) in
theorem start_standing {time : Int} {phases : Phases} {env : Env}
    (memory : env.pathMalloc = true) :
    chain.Standing (chain.start time phases env) := by
  have refreshed := @start_refreshed chain time phases env memory
  refine ⟨start_allOk, ?_, ?_, refreshed.path⟩
  · intro i
    by_cases first : i = 0
    · subst first
      rw [(start_allOk.node 0).pathHead rfl]
      exact List.nodup_nil
    · have init : (chain.start time phases env).net.state i = .init := by
        simp [start, first]
      rw [init]
      exact List.nodup_nil
  · obtain ⟨last, session, _⟩ := refreshed.session
    exact ⟨last, session⟩

end Standing

/-- The router has heard a PATH since a time and holds the path record. -/
structure HeardSince (since : Int) (d : Daemon) : Prop where
  session : ∃ temp ∈ d.pathHead,
    temp.tunnelId = chain.tunnel.tunnelId ∧ since ≤ temp.lastPathTime
  record : ∃ p, d.pathTree.find chain.tunnel.tunnelId = some p

/-- A PATH is in flight on the link. -/
def PathInFlight (s : ChainState) (i : Nat) : Prop :=
  0 < (s.net.flight i).countP isPath

/-- Nobody runs out of memory for a path record, no PATH is lost, and no more
than 90 seconds pass. -/
def PassesPaths (since : Int) (s : ChainState) : ChainEvent → Prop
  | .wait seconds => s.time + seconds ≤ since + timeout
  | .deliver _ _ env => env.pathMalloc = true
  | .lose sender index => ∀ datagram ∈ (s.net.flight sender)[index]?,
      isPath datagram = false
  | _ => True

instance (since : Int) (s : ChainState) :
    (event : ChainEvent) → Decidable (PassesPaths since s event)
  | .wait seconds =>
      inferInstanceAs (Decidable (s.time + seconds ≤ since + timeout))
  | .deliver _ _ env => inferInstanceAs (Decidable (env.pathMalloc = true))
  | .lose sender index =>
      inferInstanceAs (Decidable (∀ datagram ∈ (s.net.flight sender)[index]?,
        isPath datagram = false))
  | .pathTimer _ _ | .resvTimer _ _ => .isTrue trivial

/-- All routers up to a frontier have heard a PATH, and one is on its way to
the next router. -/
structure Reviving (since : Int) (s : ChainState) : Prop where
  standing : chain.Standing s
  time : since ≤ s.time ∧ s.time ≤ since + timeout
  frontier : ∃ k ≤ chain.transits + 1,
    (∀ i, 0 < i → i ≤ k → chain.HeardSince since (s.net.state i)) ∧
      (k = chain.transits + 1 ∨ PathInFlight s k)

section Handlers

variable {chain} {since now : Int} {i : Nat} {env : Env} {d : Daemon}

theorem HeardSince.receivePath {packet : PathPacket} {reached : Int}
    {d' : Daemon}
    (result : receivePathMessage (chain.env (i + 1) now env)
      (Packet.path packet).received
      (mainPathSession (chain.env (i + 1) now env)
        (Packet.path packet).received reached d) = d')
    (within : i ≤ chain.transits) (session : chain.OfTunnel packet.sessionObj)
    (hop : packet.hopObj.nextHop = chain.upAddr i)
    (ok : chain.RouterOk (i + 1) d) (memory : env.pathMalloc = true)
    (after : since ≤ now) : chain.HeardSince since d' := by
  obtain ⟨p, held, _⟩ := takesPath_held result within session hop ok memory
  have found := findSession_mainPath (chain.env (i + 1) now env)
    (Packet.path packet).received reached d chain.tunnel.tunnelId
  rw [result, recvTunnelId_received session, if_pos rfl] at found
  refine ⟨⟨_, mem_of_findSession found, findSession_tunnelId found, ?_⟩,
    p, held⟩
  cases findSession chain.tunnel.tunnelId d.pathHead <;> exact after

theorem HeardSince.resvTimer (heard : chain.HeardSince since d)
    (distinct : DistinctIds d.pathHead) (soon : env.now ≤ since + timeout) :
    chain.HeardSince since (resvTimerHandler env d) := by
  obtain ⟨⟨temp, member, own, fresh⟩, p, held⟩ := heard
  have young : ¬Expired env.now temp := by
    unfold Expired
    omega
  have kept : temp ∉ deletions (Expired env.now) [] d.pathHead :=
    fun deleted => young (mem_deletions_iff.mp deleted).2
  constructor
  · refine ⟨temp, ?_, own, fresh⟩
    rw [resvTimerHandler_pathHead]
    exact (mem_deletions_or (Expired env.now) member).resolve_left kept
  · refine ⟨p, ?_⟩
    rw [resvTimerHandler_findPath, if_neg, held]
    intro removed
    obtain ⟨other, deleted, same⟩ := mem_pathRemoves.mp removed
    have here := (mem_deletions_iff.mp deleted).1.mem
    rw [distinct.eq_of_tunnelId here member (same.trans own.symm)] at deleted
    exact kept deleted

end Handlers

section Reviving

variable {chain} {since : Int} {s s' : ChainState} {event : ChainEvent}
  {i j : Nat} {d : Daemon}

theorem PathInFlight.handled (inFlight : PathInFlight s j) :
    PathInFlight (chain.handled i d s) j := by
  unfold PathInFlight at *
  by_cases here : j = i
  · subst here
    rw [flight_handled_self, List.countP_append]
    omega
  · rwa [flight_handled_of_ne here]

theorem PathInFlight.sent {new : List (InAddr × Packet)} {env : Env}
    {p : PathMsg} (member : pathSend env p ∈ new)
    (sent : newlySent (s.net.state i) d = new) :
    PathInFlight (chain.handled i d s) i := by
  rw [PathInFlight, flight_handled_self, sent, List.countP_append]
  have some : 0 < new.countP isPath :=
    List.countP_pos_iff.mpr ⟨_, member, isPath_pathSend env p⟩
  omega

theorem heard_handled {bound : Nat}
    (heard : ∀ j, 0 < j → j ≤ bound → chain.HeardSince since (s.net.state j))
    (own : chain.HeardSince since (s.net.state i) →
      chain.HeardSince since d) :
    ∀ j, 0 < j → j ≤ bound →
      chain.HeardSince since ((chain.handled i d s).net.state j) :=
  forall_handled
    (fun j d => 0 < j → j ≤ bound → chain.HeardSince since d)
    (fun j _ => heard j) fun behind within => own (heard i behind within)

theorem PathInFlight.remove {sender index : Nat}
    {datagram : InAddr × Packet} (inFlight : PathInFlight s j)
    (taken : (s.net.flight sender)[index]? = some datagram)
    (other : j = sender → isPath datagram = false) :
    PathInFlight { s with net := s.net.remove sender index } j := by
  unfold PathInFlight at *
  by_cases here : j = sender
  · have count := countP_eraseIdx isPath taken
    rw [other here] at count
    subst here
    rw [Config.remove_flight_self]
    simpa [count] using inFlight
  · rwa [Config.remove_flight_of_ne here]

theorem Reviving.step (reviving : chain.Reviving since s)
    (passes : PassesPaths since s event)
    (taken : chain.step s event = some s') : chain.Reviving since s' := by
  have standing := reviving.standing
  have standing' := standing.step taken
  obtain ⟨after, soon⟩ := reviving.time
  obtain ⟨k, bound, heard, ahead⟩ := reviving.frontier
  cases step_cases standing.all taken with
  | wait seconds =>
      exact ⟨standing', ⟨by dsimp only; omega, passes⟩, k, bound, heard,
        ahead⟩
  | path i index env packet reached within inFlight session hop =>
      have ok := standing.all.node (i + 1)
      generalize result : receivePathMessage (chain.env (i + 1) s.time env)
        (Packet.path packet).received
        (mainPathSession (chain.env (i + 1) s.time env)
          (Packet.path packet).received reached (s.net.state (i + 1))) = d'
        at standing' ⊢
      have arrived := HeardSince.receivePath result within session hop ok
        passes after
      by_cases here : k = i
      · subst here
        refine ⟨standing', ⟨after, soon⟩, k + 1, by omega, ?_, ?_⟩
        · intro j behind within
          by_cases next : j = k + 1
          · subst next
            rw [state_handled_self]
            exact arrived
          · rw [state_handled_of_ne next]
            exact heard j behind (by omega)
        · refine or_iff_not_imp_left.mpr fun inner => ?_
          obtain ⟨_, p, sent⟩ := takesPath_passes result within session hop
            ok passes (by omega)
          exact .sent (List.mem_singleton.mpr rfl) sent
      · refine ⟨standing', ⟨after, soon⟩, k, bound,
          heard_handled heard fun _ => arrived, ?_⟩
        exact ahead.imp_right fun path =>
          (path.remove inFlight fun same => absurd same here).handled
  | resv i index env packet within inFlight session =>
      refine ⟨standing', ⟨after, soon⟩, k, bound, ?_, ?_⟩
      · refine heard_handled heard fun old => ?_
        obtain ⟨pathTree, pathHead⟩ := receiveResvMessage_frame
          (chain.env i s.time env) (Packet.resv packet).received
          (s.net.state i)
        constructor
        · rw [pathHead]
          exact old.session
        · rw [pathTree]
          exact old.record
      · exact ahead.imp_right fun path =>
          (path.remove inFlight fun _ => rfl).handled
  | lose sender index datagram inFlight =>
      refine ⟨standing', ⟨after, soon⟩, k, bound, heard, ?_⟩
      exact ahead.imp_right fun path =>
        path.remove inFlight fun _ => passes datagram inFlight
  | pathTimer i env reachable =>
      refine ⟨standing', ⟨after, soon⟩, k, bound, ?_, ?_⟩
      · refine heard_handled heard fun old => ?_
        obtain ⟨pathTree, pathHead, _⟩ := pathTimerHandler_frame
          (chain.env i s.time env) (s.net.state i)
        constructor
        · rw [pathHead]
          exact old.session
        · rw [pathTree]
          exact old.record
      · exact ahead.imp_right PathInFlight.handled
  | resvTimer i env reachable =>
      refine ⟨standing', ⟨after, soon⟩, k, bound, ?_, ?_⟩
      · exact heard_handled heard fun old =>
          old.resvTimer (standing.distinct i) soon
      · exact ahead.imp_right PathInFlight.handled

theorem Standing.refresh_inFlight {env : Env} (standing : chain.Standing s)
    (fired : chain.step s (.pathTimer 0 env) = some s') :
    PathInFlight s' 0 := by
  obtain ⟨last, session⟩ := standing.ingress.session
  obtain ⟨p, held⟩ := standing.ingress.record
  cases step_cases standing.all fired with
  | pathTimer i env reachable =>
      have sent : newlySent (s.net.state 0)
          (pathTimerHandler (chain.env 0 s.time env) (s.net.state 0)) =
            [pathSend (chain.env 0 s.time env) p] := by
        have sends : (chain.ingressSession last).dest ≠ 0 ∧
            (chain.ingressSession last).del = 0 :=
          ⟨by simp [ingressSession], rfl⟩
        rw [pathTimer_ingress session, newlySent_append (pathRefresh_sent ..),
          if_pos sends]
        simp [ingressSession, held]
      exact .sent (List.mem_singleton.mpr rfl) sent

theorem Standing.refresh {env : Env} (standing : chain.Standing s)
    (fired : chain.step s (.pathTimer 0 env) = some s') :
    chain.Reviving s.time s' := by
  have inFlight := standing.refresh_inFlight fired
  have standing' := standing.step fired
  cases step_cases standing.all fired with
  | pathTimer i env reachable =>
      exact ⟨standing', ⟨le_refl _, le_add_of_nonneg_right (by decide)⟩, 0,
        Nat.zero_le _, fun i behind none => by omega, .inr inFlight⟩

/-- When no PATH is in flight, the last router has been reached. -/
theorem Reviving.revived (reviving : chain.Reviving since s)
    (pathFree : PathFree s) (i : Nat) (behind : 0 < i)
    (within : i ≤ chain.transits + 1) :
    chain.HeardSince since (s.net.state i) := by
  obtain ⟨k, _, heard, last | inFlight⟩ := reviving.frontier
  · exact heard i behind (by omega)
  · obtain ⟨datagram, member, path⟩ := List.countP_pos_iff.mp inFlight
    rw [pathFree k datagram member] at path
    cases path

end Reviving

section Runs

variable {chain} {time : Int} {phases : Phases} {env env' : Env}
  {s s₁ s' : ChainState}

theorem Reachable.standing {guard : ChainState → ChainEvent → Prop}
    (memory : env.pathMalloc = true)
    (run : Transition.Reachable chain.step guard
      (chain.start time phases env) s) : chain.Standing s :=
  Transition.Reachable.invariant (start_standing chain memory)
    (fun _ _ _ standing _ taken => standing.step taken) run

/-- Whatever was lost, expired or torn down before: when the ingress refreshes
its PATH and no PATH is lost from then on, every other router has heard a PATH
since then and holds the path record once no PATH is in flight, in whatever
order datagrams arrive and timers fire within 90 seconds. -/
theorem refresh_revives (memory : env.pathMalloc = true)
    (run : Transition.Reachable chain.step (fun _ _ => True)
      (chain.start time phases env) s)
    (fired : chain.step s (.pathTimer 0 env') = some s₁)
    (kept : Transition.Reachable chain.step (PassesPaths s.time) s₁ s')
    (pathFree : PathFree s') :
    ∀ i, 0 < i → i ≤ chain.transits + 1 →
      (∃ temp ∈ (s'.net.state i).pathHead,
        temp.tunnelId = chain.tunnel.tunnelId ∧
          s.time ≤ temp.lastPathTime) ∧
      (chain.path s' i).isSome := by
  have standing := Reachable.standing memory run
  have reviving : chain.Reviving s.time s' :=
    Transition.Reachable.invariant (standing.refresh fired)
      (fun _ _ _ reviving passes taken => reviving.step passes taken) kept
  intro i behind within
  have heard := reviving.revived pathFree i behind within
  exact ⟨heard.session, Option.isSome_iff_exists.mpr heard.record⟩

end Runs

end Chain

/-- The first PATH is lost, and all sweep long after. -/
def lostSetup : List ChainEvent :=
  [.lose 0 0, .wait 200, .resvTimer 1 (.isolated 0),
   .resvTimer 2 (.isolated 0), .pathTimer 1 (.isolated 0)]

/-- The refresh after a lost set-up reaches both routers behind. -/
theorem lostSetup_revives :
    ∃ s s₁ s', Transition.runEvents sampleTransit.step
        (sampleTransit.start 0 samplePhases (.isolated 0)) lostSetup =
          some s ∧
      sampleTransit.step s (.pathTimer 0 (.isolated 0)) = some s₁ ∧
      Transition.runEvents (Transition.guarded sampleTransit.step
        (Chain.PassesPaths s.time)) s₁ setupEvents = some s' ∧
      (∀ i, 0 < i → i ≤ 2 → sampleTransit.path s i = none) ∧
      ∀ i, 0 < i → i ≤ 2 →
        (∃ temp ∈ (s'.net.state i).pathHead,
          temp.tunnelId = sampleTransit.tunnel.tunnelId ∧
            s.time ≤ temp.lastPathTime) ∧
        (sampleTransit.path s' i).isSome := by
  have executed : ((Transition.runEvents sampleTransit.step
      (sampleTransit.start 0 samplePhases (.isolated 0)) lostSetup).bind
        fun s => (sampleTransit.step s (.pathTimer 0 (.isolated 0))).bind
          fun s₁ => (Transition.runEvents (Transition.guarded
            sampleTransit.step (Chain.PassesPaths s.time)) s₁
              setupEvents).map fun s' =>
                (decide (∀ i ≤ (2 : Nat), 0 < i →
                  sampleTransit.path s i = none),
                decide (sampleTransit.Quiet s'))) = some (true, true) := by
    decide +kernel
  obtain ⟨s, run, rest⟩ := Option.bind_eq_some_iff.mp executed
  obtain ⟨s₁, fired, rest⟩ := Option.bind_eq_some_iff.mp rest
  obtain ⟨s', kept, state⟩ := Option.map_eq_some_iff.mp rest
  simp only [Prod.mk.injEq, decide_eq_true_eq] at state
  obtain ⟨gone, quiet⟩ := state
  have reached : Transition.Reachable sampleTransit.step (fun _ _ => True)
      (sampleTransit.start 0 samplePhases (.isolated 0)) s :=
    .of_runEvents (fun _ _ _ => trivial) run
  have all : sampleTransit.AllOk s' :=
    Transition.Reachable.invariant ((Chain.Reachable.allOk reached).step fired)
      (fun _ _ _ all _ taken => all.step taken)
      (.of_guarded kept : Transition.Reachable _ _ s₁ s')
  refine ⟨s, s₁, s', run, fired, kept,
    fun i behind within => gone i within behind, ?_⟩
  exact Chain.refresh_revives rfl reached fired (.of_guarded kept)
    (all.pathFree quiet)

end Rsvpd
