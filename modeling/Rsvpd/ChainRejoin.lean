import Rsvpd.ChainRevival
import Rsvpd.LabelAgreement

/-!
# Whether a refresh completes a reservation

A transit router announces its label once, when it creates its record.  The
egress repeats its RESV with every PATH.  So a refresh of the ingress makes up
for a lost RESV of the egress, and for one of no other router.
-/

namespace Rsvpd

open Daemon Network Sweep

theorem noteSession_dest {now : Int} {tunnelId : U16}
    {sender receiver : InAddr} {dest : U8} {sess : List Session}
    (same : ∀ temp ∈ sess, temp.dest = dest) :
    ∀ temp ∈ noteSession now tunnelId sender receiver dest sess,
      temp.dest = dest := by
  intro temp member
  cases found : findSession tunnelId sess with
  | none =>
      rw [noteSession_missing found, insertSession] at member
      rcases List.mem_cons.mp member with rfl | old
      · rfl
      · exact same temp old
  | some known =>
      rw [noteSession_found found] at member
      have dests := @map_searchSession _ Session.dest (fun _ _ => rfl) now
        tunnelId sess
      have held := List.mem_map_of_mem (f := Session.dest) member
      rw [dests] at held
      obtain ⟨old, inside, equal⟩ := List.mem_map.mp held
      exact equal.symm.trans (same old inside)

namespace Chain

variable (chain : Chain)

/-- No transit router takes the tunnel to end at it. -/
structure Passing (s : ChainState) : Prop where
  all : chain.AllOk s
  dest : ∀ i, 0 < i → i ≤ chain.transits →
    ∀ temp ∈ (s.net.state i).pathHead, temp.dest = 0

section Passing

variable {chain} {s s' : ChainState} {event : ChainEvent} {i : Nat}
  {d : Daemon}

theorem dest_handled
    (dest : ∀ j, 0 < j → j ≤ chain.transits →
      ∀ temp ∈ (s.net.state j).pathHead, temp.dest = 0)
    (own : 0 < i → i ≤ chain.transits → ∀ temp ∈ d.pathHead, temp.dest = 0) :
    ∀ j, 0 < j → j ≤ chain.transits →
      ∀ temp ∈ ((chain.handled i d s).net.state j).pathHead,
        temp.dest = 0 :=
  forall_handled
    (fun j d => 0 < j → j ≤ chain.transits →
      ∀ temp ∈ d.pathHead, temp.dest = 0)
    (fun j _ => dest j) own

theorem Passing.step (passing : chain.Passing s)
    (taken : chain.step s event = some s') : chain.Passing s' := by
  obtain ⟨all, dest⟩ := passing
  have all' := all.step taken
  cases step_cases all taken with
  | wait seconds => exact ⟨all', dest⟩
  | path i index env packet reached within inFlight session hop =>
      rw [step_path all within inFlight taken]
      rw [step_path all within inFlight taken] at all'
      refine ⟨all', dest_handled dest fun _ inner => ?_⟩
      have passed :
          dstReached (chain.nexthop (i + 1) chain.tunnel.dstip) = 0 := by
        obtain ⟨found, nhip⟩ := chain.towardDst (i + 1) inner
        rw [dstReached, if_pos found, nhip]
      rw [(receivePathMessage_frame _ _ _).1, mainPathSession_pathHead,
        passed]
      exact noteSession_dest (dest (i + 1) (Nat.succ_pos i) inner)
  | resv i index env packet within inFlight session =>
      refine ⟨all', dest_handled dest fun behind inner => ?_⟩
      rw [(receiveResvMessage_frame _ _ _).2]
      exact dest i behind inner
  | lose sender index datagram inFlight => exact ⟨all', dest⟩
  | pathTimer i env reachable =>
      refine ⟨all', dest_handled dest fun behind inner => ?_⟩
      rw [(pathTimerHandler_frame _ _).2.1]
      exact dest i behind inner
  | resvTimer i env reachable =>
      refine ⟨all', dest_handled dest fun behind inner temp left => ?_⟩
      rw [resvTimerHandler_pathHead] at left
      exact dest i behind inner temp ((deletions_append_remaining _ [] _).subset
        (List.mem_append_right _ left))

variable (chain) in
theorem start_passing {time : Int} {phases : Phases} {env : Env} :
    chain.Passing (chain.start time phases env) := by
  refine ⟨start_allOk, fun i behind _ => ?_⟩
  have init : (chain.start time phases env).net.state i = .init := by
    simp [start, behind.ne']
  rw [init]
  exact List.forall_mem_nil _

end Passing

/-- The router holds no record, and no RESV is on its way from the one
behind. -/
structure Cut (i : Nat) (s : ChainState) : Prop where
  passing : chain.Passing s
  missing : chain.resv s i = none
  silent : ∀ datagram ∈ s.net.flight (i + 1), isPath datagram = true

section Handlers

variable {chain} {i : Nat} {now : Int} {env : Env} {d : Daemon}

theorem takesPath_silent {packet : PathPacket} {reached : Int}
    (inner : i < chain.transits) (session : chain.OfTunnel packet.sessionObj)
    (hop : packet.hopObj.nextHop = chain.upAddr i)
    (ok : chain.RouterOk (i + 1) d) :
    ∀ datagram ∈ newlySent d (receivePathMessage (chain.env (i + 1) now env)
      (Packet.path packet).received (mainPathSession
        (chain.env (i + 1) now env) (Packet.path packet).received reached d)),
      isPath datagram = true := by
  have keeps := (receivePath_keeps now env reached (by omega) session hop
    ok).ok
  have sent := receivePathMessage_sent (chain.env (i + 1) now env)
    (Packet.path packet).received (mainPathSession
      (chain.env (i + 1) now env) (Packet.path packet).received reached d)
  obtain ⟨_, _, _, _, sameSent, _⟩ := mainPathSession_frame
    (chain.env (i + 1) now env) (Packet.path packet).received reached d
  rw [sameSent] at sent
  rw [newlySent_append sent]
  intro datagram member
  split at member
  case h_1 => cases member
  case h_2 p held =>
    have passes : p.nexthopIp ≠ .any := by
      rw [(keeps.path _ p held).nexthopIp, nextAddr_of_le (by omega)]
      exact chain.downAddr_ne (i + 1) (by omega)
    rw [if_neg passes] at member
    rw [List.mem_singleton.mp member]
    exact isPath_pathSend _ p

theorem receiveResv_silent {buffer : Buffer}
    (held : (d.resvTree.find (recvTunnelId buffer)).isSome) :
    ∀ datagram ∈ newlySent d (receiveResvMessage env buffer d),
      isPath datagram = true := by
  obtain ⟨r, found⟩ := Option.isSome_iff_exists.mp held
  cases receiveResvMessage_cases env buffer d with
  | kept _ _ _ _ sent =>
      rw [newlySent_nil sent]
      exact List.forall_mem_nil _
  | noMemory _ _ missing => exact absurd found (by simp [missing])
  | created _ _ missing => exact absurd found (by simp [missing])

theorem pathTimer_silent :
    ∀ datagram ∈ newlySent d (pathTimerHandler env d),
      isPath datagram = true := by
  obtain ⟨new, sent, paths⟩ := pathTimerHandler_sent env d
  rw [newlySent_append sent]
  intro datagram member
  obtain ⟨_, p, _, rfl⟩ := paths datagram member
  exact isPath_pathSend env p

/-- A router repeats RESVs only for tunnels that end at it. -/
theorem resvTimer_silent (dest : ∀ temp ∈ d.pathHead, temp.dest = 0) :
    ∀ datagram ∈ newlySent d (resvTimerHandler env d),
      isPath datagram = true := by
  obtain ⟨new, sent, refreshed⟩ := resvTimerHandler_refreshes env d
  rw [newlySent_append sent]
  intro datagram member
  obtain ⟨_, _, ⟨temp, visited, _, _, ends, _⟩, _⟩ :=
    refreshed datagram member
  exact absurd (dest temp visited.mem) ends

end Handlers

section Cut

variable {chain} {s s' : ChainState} {event : ChainEvent} {i j : Nat}
  {d : Daemon}

theorem Cut.handled (cut : chain.Cut i s)
    (passing : chain.Passing (chain.handled j d s))
    (gains : j = i → chain.GainsNone (s.net.state j) d)
    (sends : j = i + 1 → ∀ datagram ∈ newlySent (s.net.state j) d,
      isPath datagram = true) : chain.Cut i (chain.handled j d s) := by
  refine ⟨passing, ?_, ?_⟩
  · by_cases here : i = j
    · subst here
      rw [resv_handled_self, Option.eq_none_iff_forall_ne_some]
      intro r held
      have before : chain.resv s i = some r := gains rfl r held
      rw [cut.missing] at before
      cases before
    · rw [resv_handled_of_ne here]
      exact cut.missing
  · by_cases here : i + 1 = j
    · subst here
      rw [flight_handled_self]
      exact List.forall_mem_append.mpr ⟨cut.silent, sends rfl⟩
    · rw [flight_handled_of_ne here]
      exact cut.silent

theorem Cut.remove (cut : chain.Cut i s) (sender index : Nat) :
    chain.Cut i { s with net := s.net.remove sender index } := by
  have passing := cut.passing
  refine ⟨⟨passing.all.remove sender index, passing.dest⟩, cut.missing, ?_⟩
  by_cases here : i + 1 = sender
  · subst here
    intro datagram member
    rw [Config.remove_flight_self] at member
    exact cut.silent datagram (List.mem_of_mem_eraseIdx member)
  · rw [Config.remove_flight_of_ne here]
    exact cut.silent

theorem Cut.step (inner : i < chain.transits) (cut : chain.Cut i s)
    (held : (chain.resv s (i + 1)).isSome)
    (taken : chain.step s event = some s') : chain.Cut i s' := by
  have all := cut.passing.all
  have passing' := cut.passing.step taken
  cases step_cases all taken with
  | wait seconds => exact ⟨passing', cut.missing, cut.silent⟩
  | path sender index env packet reached within inFlight session hop =>
      refine (cut.remove sender index).handled passing' ?_ ?_
      · intro here
        subst here
        exact receivePath_gainsNone (by omega)
          (receivePath_keeps _ _ _ within session hop (all.node _)).ok
      · intro here
        cases here
        exact takesPath_silent inner session hop (all.node (i + 1))
  | resv receiver index env packet within inFlight session =>
      refine (cut.remove (receiver + 1) index).handled passing' ?_ ?_
      · intro here
        subst here
        have path := cut.silent _ (List.mem_of_getElem? inFlight)
        cases path
      · intro here
        subst here
        apply receiveResv_silent
        rw [recvTunnelId_received session]
        exact held
  | lose sender index datagram inFlight =>
      have kept := cut.remove sender index
      exact ⟨passing', kept.missing, kept.silent⟩
  | pathTimer router env reachable =>
      have kept : chain.Cut i { s with
          pathDue := Function.update s.pathDue router (s.time + interval) } :=
        ⟨⟨all, cut.passing.dest⟩, cut.missing, cut.silent⟩
      refine kept.handled passing' ?_ fun _ => pathTimer_silent
      exact fun _ r found => (pathTimerHandler_findSome found).1
  | resvTimer router env reachable =>
      have kept : chain.Cut i { s with
          resvDue := Function.update s.resvDue router (s.time + interval) } :=
        ⟨⟨all, cut.passing.dest⟩, cut.missing, cut.silent⟩
      refine kept.handled passing'
        (fun _ r found => (resvTimerHandler_findSome found).1) ?_
      intro here
      subst here
      exact resvTimer_silent (cut.passing.dest (i + 1) (Nat.succ_pos i) inner)

end Cut

def HoldsResv (router : Nat) (s : ChainState) (_ : ChainEvent) : Prop :=
  (chain.resv s router).isSome

instance (router : Nat) (s : ChainState) (event : ChainEvent) :
    Decidable (chain.HoldsResv router s event) :=
  inferInstanceAs (Decidable ((chain.resv s router).isSome = true))

/-- When the router behind holds the reservation, this one does too or a RESV
is on its way. -/
def Joined (s : ChainState) (i : Nat) : Prop :=
  (chain.resv s (i + 1)).isSome →
    (chain.resv s i).isSome ∨
      ∃ datagram ∈ s.net.flight (i + 1), isPath datagram = false

section Runs

variable {chain} {time : Int} {phases : Phases} {env env' : Env}
  {s s₁ s' : ChainState} {i : Nat}

theorem joined_iff : (chain.wave s).Joined i ↔ chain.Joined s i := by
  have replies : 0 < (chain.wave s).replies (i + 1) ↔
      ∃ datagram ∈ s.net.flight (i + 1), isPath datagram = false := by
    simp [wave, List.countP_pos_iff]
  unfold Wave.State.Joined Joined
  rw [replies]
  rfl

theorem Reachable.passing {guard : ChainState → ChainEvent → Prop}
    (run : Transition.Reachable chain.step guard
      (chain.start time phases env) s) : chain.Passing s :=
  Transition.Reachable.invariant (start_passing chain)
    (fun _ _ _ passing _ taken => passing.step taken) run

/-- When the RESV of a transit router was lost, the router before it gets no
reservation for as long as the transit router keeps its own, whatever arrives,
is lost or is refreshed meanwhile. -/
theorem lost_resv_stays_lost (inner : i < chain.transits)
    (run : Transition.Reachable chain.step (fun _ _ => True)
      (chain.start time phases env) s)
    (missing : chain.resv s i = none)
    (silent : ∀ datagram ∈ s.net.flight (i + 1), isPath datagram = true)
    (kept : Transition.Reachable chain.step (chain.HoldsResv (i + 1)) s s') :
    chain.resv s' i = none ∧
      ∀ datagram ∈ s'.net.flight (i + 1), isPath datagram = true := by
  have cut : chain.Cut i s' :=
    Transition.Reachable.invariant
      (⟨Reachable.passing run, missing, silent⟩ : chain.Cut i s)
      (fun _ _ _ cut held taken => cut.step inner held taken) kept
  exact ⟨cut.missing, cut.silent⟩

/-- A refresh after which every transit router's RESV has arrived or is on its
way. -/
structure Rejoins (chain : Chain) (s : ChainState) : Prop where
  all : chain.AllOk s
  wave : Wave.Rejoining (chain.transits + 1) (chain.wave s)

theorem Rejoins.step {event : ChainEvent} (rejoins : chain.Rejoins s)
    (undisturbed : Undisturbed s event)
    (taken : chain.step s event = some s') : chain.Rejoins s' :=
  ⟨rejoins.all.step taken, rejoins.wave.step
    (wave_step rejoins.all undisturbed.1 taken) undisturbed.2⟩

theorem refresh_rejoins (memory : env.pathMalloc = true)
    (run : Transition.Reachable chain.step (fun _ _ => True)
      (chain.start time phases env) s)
    (fired : chain.step s (.pathTimer 0 env') = some s₁)
    (paths : ∀ i ≤ chain.transits + 1, (chain.path s₁ i).isSome)
    (joined : ∀ i < chain.transits, chain.Joined s₁ i) :
    chain.Rejoins s₁ := by
  have standing := Reachable.standing memory run
  refine ⟨standing.all.step fired, paths,
    fun node inner => joined_iff.mpr (joined node (by omega)),
    .inl ⟨0, Nat.succ_pos _, ?_⟩⟩
  exact standing.refresh_inFlight fired

/-- A router that keeps its reservation from the one before it. -/
structure Withheld (chain : Chain) (i : Nat) (s : ChainState) : Prop where
  cut : chain.Cut i s
  held : (chain.resv s (i + 1)).isSome

theorem Withheld.step {event : ChainEvent} (inner : i < chain.transits)
    (withheld : chain.Withheld i s) (lasting : Lasting s event)
    (taken : chain.step s event = some s') : chain.Withheld i s' := by
  have stepped := wave_step withheld.cut.passing.all lasting taken
  exact ⟨withheld.cut.step inner withheld.held taken,
    (stepped.keeps (i + 1)).2 withheld.held⟩

/-- When the ingress refreshes its PATH and all routers know the path, an
undisturbed run sets the tunnel up if and only if no transit router holds a
reservation that its upstream neighbour neither holds nor is being sent: only
the egress makes up for lost RESVs. -/
theorem refresh_completes_iff (memory : env.pathMalloc = true)
    (run : Transition.Reachable chain.step (fun _ _ => True)
      (chain.start time phases env) s)
    (fired : chain.step s (.pathTimer 0 env') = some s₁)
    (paths : ∀ i ≤ chain.transits + 1, (chain.path s₁ i).isSome)
    (kept : Transition.Reachable chain.step Undisturbed s₁ s')
    (quiet : chain.Quiet s') :
    (∀ i ≤ chain.transits + 1,
      (chain.path s' i).isSome ∧ (chain.resv s' i).isSome) ↔
        ∀ i < chain.transits, chain.Joined s₁ i := by
  have passing := (Reachable.passing run).step fired
  constructor
  · intro up i inner held
    by_contra cutOff
    rw [not_or] at cutOff
    obtain ⟨missing, silent⟩ := cutOff
    have cut : chain.Cut i s₁ := by
      refine ⟨passing, by simpa using missing, fun datagram member => ?_⟩
      by_contra reply
      exact silent ⟨datagram, member, by simpa using reply⟩
    have withheld : chain.Withheld i s' :=
      Transition.Reachable.invariant (⟨cut, held⟩ : chain.Withheld i s₁)
        (fun _ _ _ withheld undisturbed taken =>
          withheld.step inner undisturbed.1 taken) kept
    have here := (up i (by omega)).2
    rw [withheld.cut.missing] at here
    cases here
  · intro joined i within
    have rejoins : chain.Rejoins s' :=
      Transition.Reachable.invariant
        (refresh_rejoins memory run fired paths joined)
        (fun _ _ _ rejoins undisturbed taken =>
          rejoins.step undisturbed taken) kept
    refine ⟨rejoins.wave.asked i within, rejoins.wave.complete ?_ ?_ i within⟩
    · intro node inside
      simp [wave, quiet node inside]
    · intro node inside
      simp [wave, quiet node inside]

end Runs

end Chain

/-- The RESV of the transit router is lost. -/
def withheldSetup : List ChainEvent :=
  [.deliver 0 0 (.isolated 0), .deliver 1 0 (.isolated 0),
   .deliver 2 0 (.isolated 0), .lose 1 0]

/-- Thirty seconds in which all timers fire and every datagram arrives. -/
def fullRound : List ChainEvent :=
  [.wait 30, .pathTimer 0 (.isolated 0), .deliver 0 0 (.isolated 0),
   .deliver 1 0 (.isolated 0), .deliver 2 0 (.isolated 0),
   .pathTimer 1 (.isolated 0), .pathTimer 2 (.isolated 0),
   .resvTimer 1 (.isolated 0), .resvTimer 2 (.isolated 0)]

theorem withheldSetup_stays :
    ∃ s s', Transition.runEvents sampleTransit.step
        (sampleTransit.start 0 samplePhases (.isolated 0)) withheldSetup =
          some s ∧
      Transition.runEvents (Transition.guarded sampleTransit.step
        (sampleTransit.HoldsResv 1)) s (List.replicate 5 fullRound).flatten =
          some s' ∧
      (sampleTransit.resv s' 1).isSome ∧ sampleTransit.resv s' 0 = none ∧
      ∀ datagram ∈ s'.net.flight 1, isPath datagram = true := by
  have executed : ((Transition.runEvents sampleTransit.step
      (sampleTransit.start 0 samplePhases (.isolated 0)) withheldSetup).bind
        fun s => (Transition.runEvents (Transition.guarded
          sampleTransit.step (sampleTransit.HoldsResv 1)) s
            (List.replicate 5 fullRound).flatten).map fun s' =>
              (decide (sampleTransit.resv s 0 = none),
                decide (∀ datagram ∈ s.net.flight 1,
                  isPath datagram = true),
                (sampleTransit.resv s' 1).isSome)) =
        some (true, true, true) := by
    decide +kernel
  obtain ⟨s, run, rest⟩ := Option.bind_eq_some_iff.mp executed
  obtain ⟨s', kept, state⟩ := Option.map_eq_some_iff.mp rest
  simp only [Prod.mk.injEq, decide_eq_true_eq] at state
  obtain ⟨missing, silent, held⟩ := state
  refine ⟨s, s', run, kept, held, ?_⟩
  exact Chain.lost_resv_stays_lost (i := 0) Nat.one_pos
    (.of_runEvents (fun _ _ _ => trivial) run) missing silent
    (.of_guarded kept)

/-- The RESV of the egress is lost. -/
def lostReply : List ChainEvent :=
  [.deliver 0 0 (.isolated 0), .deliver 1 0 (.isolated 0), .lose 2 0]

theorem lostReply_completes :
    ∃ s s₁ s', Transition.runEvents sampleTransit.step
        (sampleTransit.start 0 samplePhases (.isolated 0)) lostReply =
          some s ∧
      sampleTransit.step s (.pathTimer 0 (.isolated 0)) = some s₁ ∧
      Transition.runEvents sampleTransit.step s₁ setupEvents = some s' ∧
      (sampleTransit.resv s 2).isSome ∧ sampleTransit.resv s 1 = none ∧
      ∀ i ≤ 2, (sampleTransit.path s' i).isSome ∧
        (sampleTransit.resv s' i).isSome := by
  have executed : ((Transition.runEvents sampleTransit.step
      (sampleTransit.start 0 samplePhases (.isolated 0)) lostReply).bind
        fun s => (sampleTransit.step s (.pathTimer 0 (.isolated 0))).bind
          fun s₁ => (Transition.runEvents sampleTransit.step s₁
            setupEvents).map fun s' =>
              ((sampleTransit.resv s 2).isSome,
                decide (sampleTransit.resv s 1 = none),
                decide (∀ i ≤ (2 : Nat), (sampleTransit.path s₁ i).isSome),
                decide (sampleTransit.resv s₁ 1 = none),
                decide (sampleTransit.Quiet s'))) =
        some (true, true, true, true, true) := by
    decide +kernel
  obtain ⟨s, run, rest⟩ := Option.bind_eq_some_iff.mp executed
  obtain ⟨s₁, fired, rest⟩ := Option.bind_eq_some_iff.mp rest
  obtain ⟨s', deliveries, state⟩ := Option.map_eq_some_iff.mp rest
  simp only [Prod.mk.injEq, decide_eq_true_eq] at state
  obtain ⟨egress, gone, paths, missing, quiet⟩ := state
  have delivery : ∀ event ∈ setupEvents, Chain.Delivery event := by
    simp [setupEvents, Chain.Delivery, Env.isolated]
  have joined : ∀ i < sampleTransit.transits, sampleTransit.Joined s₁ i := by
    intro i inner held
    obtain rfl : i = 0 := Nat.lt_one_iff.mp inner
    rw [missing] at held
    cases held
  refine ⟨s, s₁, s', run, fired, deliveries, egress, gone, ?_⟩
  refine (Chain.refresh_completes_iff rfl
    (.of_runEvents (fun _ _ _ => trivial) run) fired paths ?_ quiet).mpr
      joined
  exact .of_runEvents (fun event member source =>
    (delivery event member).undisturbed source) deliveries

end Rsvpd
