import Rsvpd.ChainRecords

/-!
# Whether neighbours agree on labels

`receive_resv_message` keeps the `out_label` of a record that it holds,
whatever label a later RESV brings.  Neighbours agree as long as no RESV
reaches a record with another label.
-/

namespace Rsvpd

open Daemon Network

/-- The label of a RESV. -/
def resvLabel : InAddr × Packet → Option U32
  | (_, .path _) => none
  | (_, .resv packet) => some (ntohl packet.labelObj.label)

@[simp] theorem resvLabel_pathSend (env : Env) (p : PathMsg) :
    resvLabel (pathSend env p) = none := rfl

@[simp] theorem resvLabel_resvSend (env : Env) (r : ResvMsg) :
    resvLabel (resvSend env r) = some r.inLabel :=
  congrArg some (ntohl_htonl r.inLabel)

namespace Chain

variable (chain : Chain)

/-- The labels of the RESVs that a router sent up and that are in flight,
oldest first. -/
def labelsInFlight (s : ChainState) (i : Nat) : List U32 :=
  (s.net.flight i).filterMap resvLabel

/-- The neighbours on a link that both hold a record agree on the label. -/
def Agree (s : ChainState) (i : Nat) : Prop :=
  ∀ upstream downstream, chain.resv s i = some upstream →
    chain.resv s (i + 1) = some downstream →
      upstream.outLabel = downstream.inLabel

/-- A RESV that is delivered carries the label of the record that its
receiver holds, and overtakes no RESV with another label. -/
def KeepsLabel (s : ChainState) : ChainEvent → Prop
  | .deliver sender index _ =>
      ∀ datagram ∈ (s.net.flight sender)[index]?,
        (resvLabel datagram).isSome →
          (∀ older ∈ (s.net.flight sender).take index,
            (resvLabel older).isSome →
              resvLabel older = resvLabel datagram) ∧
          ∀ router ∈ chain.receiver datagram.1 sender,
            ∀ r ∈ chain.resv s router, resvLabel datagram = some r.outLabel
  | _ => True

instance (s : ChainState) :
    (event : ChainEvent) → Decidable (chain.KeepsLabel s event)
  | .deliver _ _ _ => by
      unfold KeepsLabel
      infer_instance
  | .wait _ | .lose _ _ | .pathTimer _ _ | .resvTimer _ _ => .isTrue trivial

/-- The link is settled: unless a RESV was lost, the upstream router will
come to hold the label of the downstream record. -/
def Settled (s : ChainState) (i : Nat) : Prop :=
  ∀ r, chain.resv s (i + 1) = some r → s.lost (i + 1) = false →
    Announced (labelsInFlight s (i + 1))
      ((chain.resv s i).map ResvMsg.outLabel) r.inLabel

/-- A router announces the label of its record when it creates it, and no
other label later. -/
def Announces (d d' : Daemon) : Prop :=
  ∀ r, d'.resvTree.find chain.tunnel.tunnelId = some r →
    (∀ label ∈ (newlySent d d').filterMap resvLabel, label = r.inLabel) ∧
    (d.resvTree.find chain.tunnel.tunnelId = some r ∨
      d.resvTree.find chain.tunnel.tunnelId = none ∧
        (newlySent d d').filterMap resvLabel ≠ [])

/-- A router gains no reservation record. -/
def GainsNone (d d' : Daemon) : Prop :=
  ∀ r, d'.resvTree.find chain.tunnel.tunnelId = some r →
    d.resvTree.find chain.tunnel.tunnelId = some r

section Handlers

variable {chain} {i : Nat} {now : Int} {env : Env} {d : Daemon}

theorem pathTimer_announces : chain.Announces d (pathTimerHandler env d) := by
  intro r held
  obtain ⟨new, shape, allowed⟩ := pathTimerHandler_sent env d
  refine ⟨?_, .inl (pathTimerHandler_findSome held).1⟩
  intro label member
  rw [newlySent_append shape] at member
  obtain ⟨datagram, inNew, labelled⟩ := List.mem_filterMap.mp member
  obtain ⟨_, p, _, rfl⟩ := allowed datagram inNew
  cases labelled

theorem resvTimer_announces (ok : chain.RouterOk i d) :
    chain.Announces d (resvTimerHandler env d) := by
  intro r held
  obtain ⟨new, shape, allowed⟩ := resvTimerHandler_sent env d
  have before := (resvTimerHandler_findSome held).1
  refine ⟨?_, .inl before⟩
  intro label member
  rw [newlySent_append shape] at member
  obtain ⟨datagram, inNew, labelled⟩ := List.mem_filterMap.mp member
  obtain ⟨tunnelId, r', found, rfl⟩ := allowed datagram inNew
  have ids : tunnelId = chain.tunnel.tunnelId :=
    (RecordTree.find_tunnelId found).symm.trans
      (ok.resv tunnelId r' found).tunnelId
  rw [ids, before] at found
  cases found
  simpa using labelled.symm

theorem receivePath_announces {buffer : Buffer} {reached : Int}
    (ids : recvTunnelId buffer = chain.tunnel.tunnelId) :
    chain.Announces d (receivePathMessage env buffer
      (mainPathSession env buffer reached d)) := by
  intro r held
  have sent := receivePathMessage_sent env buffer
    (mainPathSession env buffer reached d)
  obtain ⟨_, sameResv, _, _, sameSent, _⟩ :=
    mainPathSession_frame env buffer reached d
  rw [sameSent, ids, held] at sent
  rw [newlySent_append sent]
  cases receivePathMessage_resvTree env buffer
      (mainPathSession env buffer reached d) with
  | kept resvTree =>
      rw [resvTree, sameResv] at held
      refine ⟨?_, .inl held⟩
      intro label member
      split at member
      case h_1 => cases member
      case h_2 p path =>
        split at member
        case isTrue => simpa using member
        case isFalse => simp at member
  | created p path egress missing memory resvTree =>
      rw [ids] at path
      rw [ids, sameResv] at missing
      simp only [path, if_pos egress]
      exact ⟨by simp, .inr ⟨missing, by simp⟩⟩

theorem receiveResv_announces {buffer : Buffer}
    (ids : recvTunnelId buffer = chain.tunnel.tunnelId)
    (within : i ≤ chain.transits) (ok : chain.RouterOk (i + 1) d) :
    chain.Announces d (receiveResvMessage env buffer d) := by
  intro r held
  cases receiveResvMessage_cases env buffer d with
  | kept known resvTree labelBitmap commands sent =>
      rw [resvTree] at held
      rw [newlySent_nil sent]
      exact ⟨List.forall_mem_nil _, .inl held⟩
  | noMemory pa path missing memory resvTree labelBitmap commands sent =>
      rw [resvTree] at held
      rw [newlySent_nil sent]
      exact ⟨List.forall_mem_nil _, .inl held⟩
  | created pa path missing memory resvTree labelBitmap commands sent =>
      have made := resvMade_tunnelId env buffer d pa
      have passes : (resvMade env buffer d pa).1.nexthopIp ≠ .any := by
        rw [resvMade_nexthopIp, (ok.path _ pa path).pSrcip]
        exact chain.upAddr_ne i within
      rw [if_neg passes] at sent
      rw [newlySent_append sent]
      rw [ids] at missing made
      have same : r = (resvMade env buffer d pa).1 := by
        rw [resvTree] at held
        rcases RecordTree.find_insert_cases held with new | before
        · exact new
        · rw [missing] at before
          cases before
      rw [same]
      exact ⟨by simp, .inr ⟨missing, by simp⟩⟩

theorem receivePath_gainsNone {buffer : Buffer} {reached : Int}
    (within : i ≤ chain.transits)
    (ok : chain.RouterOk i (receivePathMessage env buffer
      (mainPathSession env buffer reached d))) :
    chain.GainsNone d (receivePathMessage env buffer
      (mainPathSession env buffer reached d)) := by
  intro r held
  have frame := mainPathSession_frame env buffer reached d
  cases receivePathMessage_resvTree env buffer
      (mainPathSession env buffer reached d) with
  | kept resvTree => rwa [resvTree, frame.2.1] at held
  | created p path egress missing memory resvTree =>
      rw [(ok.path _ p path).nexthopIp, nextAddr_of_le within] at egress
      exact absurd egress (chain.downAddr_ne i within)

theorem receiveResv_outLabel {packet : ResvPacket}
    (kept : ∀ r, d.resvTree.find chain.tunnel.tunnelId = some r →
      r.outLabel = ntohl packet.labelObj.label)
    {r : ResvMsg}
    (held : (receiveResvMessage env (Packet.resv packet).received
      d).resvTree.find chain.tunnel.tunnelId = some r) :
    r.outLabel = ntohl packet.labelObj.label := by
  cases receiveResvMessage_cases env (Packet.resv packet).received d with
  | kept known resvTree labelBitmap commands sent =>
      rw [resvTree] at held
      exact kept r held
  | noMemory pa path missing memory resvTree labelBitmap commands sent =>
      rw [resvTree] at held
      exact kept r held
  | created pa path missing memory resvTree labelBitmap commands sent =>
      rw [resvTree] at held
      rcases RecordTree.find_insert_cases held with rfl | before
      · rw [resvMade, newResvMsg_outLabel, recvLabelObj_received]
      · exact kept r before

end Handlers

section Links

variable {chain} {s : ChainState} {i j : Nat} {d : Daemon}

theorem labelsInFlight_handled_self :
    labelsInFlight (chain.handled i d s) i =
      labelsInFlight s i ++
        (newlySent (s.net.state i) d).filterMap resvLabel := by
  rw [labelsInFlight, flight_handled_self, List.filterMap_append,
    labelsInFlight]

theorem labelsInFlight_handled_of_ne (different : i ≠ j) :
    labelsInFlight (chain.handled j d s) i = labelsInFlight s i := by
  rw [labelsInFlight, flight_handled_of_ne different, labelsInFlight]

theorem Settled.handled (settled : chain.Settled s i)
    (announces : j = i + 1 → chain.Announces (s.net.state j) d)
    (gains : j = i → chain.GainsNone (s.net.state j) d) :
    chain.Settled (chain.handled j d s) i := by
  intro r held notLost
  by_cases down : j = i + 1
  · subst down
    rw [resv_handled_self] at held
    rw [resv_handled_of_ne (by omega), labelsInFlight_handled_self]
    obtain ⟨own, known | ⟨missing, some⟩⟩ := announces rfl r held
    · rw [lost_handled_of_known known] at notLost
      exact (settled r known notLost).send own
    · exact Announced.sent some own
  · rw [resv_handled_of_ne (Ne.symm down)] at held
    rw [lost_handled_of_ne (Ne.symm down)] at notLost
    rw [labelsInFlight_handled_of_ne (Ne.symm down)]
    apply (settled r held notLost).mono
    by_cases up : j = i
    · subst up
      rw [resv_handled_self]
      intro old member
      obtain ⟨r', held', rfl⟩ := Option.map_eq_some_iff.mp member
      exact Option.map_eq_some_iff.mpr ⟨r', gains rfl r' held', rfl⟩
    · rw [resv_handled_of_ne (Ne.symm up)]
      exact fun old member => member

theorem Settled.remove {sender index : Nat} {datagram : InAddr × Packet}
    (settled : chain.Settled s i)
    (inFlight : (s.net.flight sender)[index]? = some datagram)
    (other : resvLabel datagram = none ∨ sender ≠ i + 1) :
    chain.Settled { s with net := s.net.remove sender index } i := by
  have same : labelsInFlight { s with net := s.net.remove sender index }
      (i + 1) = labelsInFlight s (i + 1) := by
    by_cases here : i + 1 = sender
    · subst here
      obtain ⟨before, after⟩ := filterMap_split resvLabel inFlight
      rcases other with unlabelled | elsewhere
      · rw [unlabelled, Option.toList_none, List.nil_append] at before
        simp only [labelsInFlight, Config.remove_flight_self]
        rw [after, before]
      · exact absurd rfl elsewhere
    · simp only [labelsInFlight, Config.remove_flight_of_ne here]
  intro r held notLost
  rw [same]
  exact settled r held notLost

/-- A RESV that carries the label of its receiver's record is taken. -/
theorem Settled.resv {index : Nat} {env : Env} {packet : ResvPacket}
    (settled : chain.Settled s i) (within : i ≤ chain.transits)
    (inFlight : (s.net.flight (i + 1))[index]? =
      some (chain.upAddr i, .resv packet))
    (keeps : chain.KeepsLabel s (.deliver (i + 1) index env)) :
    chain.Settled (chain.handled i
      (receiveResvMessage (chain.env i s.time env)
        (Packet.resv packet).received (s.net.state i))
      { s with net := s.net.remove (i + 1) index }) i := by
  obtain ⟨older, holds⟩ := keeps _ inFlight rfl
  have kept := holds i (receiver_upAddr within)
  intro r held notLost
  rw [resv_handled_of_ne (by omega)] at held
  rw [lost_handled_of_ne (by omega)] at notLost
  have announced := settled r held notLost
  rw [labelsInFlight_handled_of_ne (by omega), resv_handled_self]
  obtain ⟨before, after⟩ := filterMap_split resvLabel inFlight
  simp only [labelsInFlight, Config.remove_flight_self] at announced ⊢
  rw [before] at announced
  rw [after]
  apply announced.receive
  · intro label member
    obtain ⟨datagram, before, labelled⟩ := List.mem_filterMap.mp member
    have same := older datagram before (by rw [labelled]; rfl)
    exact Option.some_inj.mp (labelled.symm.trans same)
  · intro label member
    obtain ⟨r', held', rfl⟩ := Option.map_eq_some_iff.mp member
    apply receiveResv_outLabel _ held'
    intro r before
    exact (Option.some_inj.mp (kept r before)).symm

theorem Settled.step {s' : ChainState} {event : ChainEvent}
    (settled : ∀ i ≤ chain.transits, chain.Settled s i)
    (all : chain.AllOk s) (keeps : chain.KeepsLabel s event)
    (taken : chain.step s event = some s') (within : i ≤ chain.transits) :
    chain.Settled s' i := by
  cases step_cases all taken with
  | wait seconds => exact settled i within
  | path sender index env packet reached inside inFlight session hop =>
      apply ((settled i within).remove inFlight (.inl rfl)).handled
      · intro _
        apply receivePath_announces
        rw [recvTunnelId, recvSessionObj_received]
        exact session.tunnelId
      · intro here
        subst here
        exact receivePath_gainsNone within
          (receivePath_keeps _ _ _ inside session hop
            (all.node (sender + 1))).ok
  | resv receiver index env packet inside inFlight session =>
      by_cases here : receiver = i
      · subst here
        exact (settled receiver within).resv within inFlight keeps
      · apply ((settled i within).remove inFlight (.inr (by omega))).handled
        · intro down
          subst down
          apply receiveResv_announces _ within (all.node (i + 1))
          rw [recvTunnelId, recvSessionObj_received]
          exact session.tunnelId
        · intro up
          exact absurd up here
  | lose sender index datagram inFlight =>
      have carries := all.message sender datagram
        (List.mem_of_getElem? inFlight)
      cases carries with
      | @path sender packet inside msgType session hop =>
          have notResv : (Packet.path packet).msgType ≠ resvMsgType := by
            rw [Packet.msgType, msgType]
            decide
          rw [if_neg notResv]
          exact (settled i within).remove inFlight (.inl rfl)
      | @resv sender packet inside msgType session =>
          have isResv : (Packet.resv packet).msgType = resvMsgType := msgType
          intro r held notLost
          simp only [if_pos isResv] at notLost
          by_cases here : i + 1 = sender + 1
          · rw [here, Function.update_self] at notLost
            cases notLost
          · rw [Function.update_of_ne here] at notLost
            exact (settled i within).remove inFlight (.inr (Ne.symm here))
              r held notLost
  | pathTimer router env reachable =>
      apply (settled i within).handled
      · exact fun _ => pathTimer_announces
      · exact fun _ r held => (pathTimerHandler_findSome held).1
  | resvTimer router env reachable =>
      apply (settled i within).handled
      · exact fun _ => resvTimer_announces (all.node router)
      · exact fun _ r held => (resvTimerHandler_findSome held).1

/-- The invariant of the runs in which every RESV keeps the label. -/
def AllSettled (chain : Chain) (s : ChainState) : Prop :=
  chain.AllOk s ∧ ∀ i ≤ chain.transits, chain.Settled s i

theorem start_allSettled {time : Int} {phases : Phases} {env : Env} :
    chain.AllSettled (chain.start time phases env) := by
  refine ⟨start_allOk, ?_⟩
  intro i _ r held _
  simp [resv, start] at held

/-- In every run in which no RESV reaches a record with another label, the
neighbours agree once the RESVs of a record have arrived. -/
theorem agree_of_keepsLabel {time : Int} {phases : Phases} {env : Env}
    (run : Transition.Reachable chain.step chain.KeepsLabel
      (chain.start time phases env) s) (within : i ≤ chain.transits)
    (quiet : labelsInFlight s (i + 1) = []) (notLost : s.lost (i + 1) = false) :
    chain.Agree s i := by
  have settled : chain.AllSettled s := by
    refine Transition.Reachable.invariant start_allSettled ?_ run
    intro source event target held keeps taken
    exact ⟨held.1.step taken,
      fun i within => Settled.step held.2 held.1 keeps taken within⟩
  intro upstream downstream heldUp heldDown
  have announced := settled.2 i within downstream heldDown notLost
  rw [quiet, heldUp] at announced
  exact announced.agrees upstream.outLabel rfl

end Links

end Chain

section Samples

open ChainEvent

/-- The path timer of router 1 fires one second after the others. -/
def shiftedPhases : Phases where
  path i := if i = 1 then 1 else 30
  resv _ := 30
  path_le i := by split <;> decide
  resv_le i := by decide

def shiftedStart : ChainState :=
  sampleTransit.start 0 shiftedPhases (.isolated 0)

theorem setupEvents_agree :
    ∃ s, Transition.runEvents (Transition.guarded sampleTransit.step
        sampleTransit.KeepsLabel) shiftedStart setupEvents = some s ∧
      (sampleTransit.resv s 0).isSome ∧ (sampleTransit.resv s 1).isSome ∧
      sampleTransit.Agree s 0 := by
  have held : ((Transition.runEvents (Transition.guarded sampleTransit.step
      sampleTransit.KeepsLabel) shiftedStart setupEvents).map fun s =>
        ((sampleTransit.resv s 0).isSome, (sampleTransit.resv s 1).isSome,
          Chain.labelsInFlight s 1, s.lost 1)) =
      some (true, true, [], false) := by
    decide +kernel
  obtain ⟨s, run, final⟩ := Option.map_eq_some_iff.mp held
  simp only [Prod.mk.injEq] at final
  obtain ⟨upstream, downstream, quiet, notLost⟩ := final
  exact ⟨s, run, upstream, downstream,
    Chain.agree_of_keepsLabel (.of_guarded run) (by decide) quiet notLost⟩

/-- Thirty seconds in which the RESV of the egress is lost. -/
def lossyRound : List ChainEvent :=
  [wait 1, pathTimer 1 (.isolated 0), wait 29, pathTimer 0 (.isolated 0),
   deliver 0 0 (.isolated 0), deliver 1 0 (.isolated 0), lose 2 0,
   pathTimer 2 (.isolated 0), resvTimer 0 (.isolated 0),
   resvTimer 1 (.isolated 0), resvTimer 2 (.isolated 0)]

/-- The RESV of the egress arrives just after the record of router 1 has
expired, and router 1 sends its new label before the record of the ingress
expires. -/
def recreatedEvents : List ChainEvent :=
  setupEvents ++ lossyRound ++ lossyRound ++
    [wait 1, pathTimer 1 (.isolated 0), wait 29, pathTimer 0 (.isolated 0),
     deliver 0 0 (.isolated 0), deliver 1 0 (.isolated 0),
     pathTimer 2 (.isolated 0), resvTimer 0 (.isolated 0),
     resvTimer 1 (.isolated 0), resvTimer 2 (.isolated 0),
     wait 1, pathTimer 1 (.isolated 0), deliver 2 0 (.isolated 0),
     deliver 1 0 (.isolated 0)]

theorem neighbours_disagree :
    ∃ chain time phases env s, Transition.Reachable (Chain.step chain)
        (fun _ _ => True) (chain.start time phases env) s ∧
      ∃ i ≤ chain.transits, Chain.labelsInFlight s (i + 1) = [] ∧
        s.lost (i + 1) = false ∧ ¬chain.Agree s i := by
  have labels : ((Transition.runEvents sampleTransit.step shiftedStart
      recreatedEvents).map fun s =>
        ((sampleTransit.resv s 0).map ResvMsg.outLabel,
          (sampleTransit.resv s 1).map ResvMsg.inLabel,
          Chain.labelsInFlight s 1, s.lost 1)) =
      some (some 16, some 17, [], false) := by
    decide +kernel
  obtain ⟨s, run, final⟩ := Option.map_eq_some_iff.mp labels
  simp only [Prod.mk.injEq, Option.map_eq_some_iff] at final
  obtain ⟨⟨upstream, heldUp, outLabel⟩, ⟨downstream, heldDown, inLabel⟩,
    quiet, notLost⟩ := final
  refine ⟨sampleTransit, _, _, _, s, .of_runEvents (fun _ _ _ => trivial) run,
    0, by decide, quiet, notLost, ?_⟩
  intro agree
  have same := agree upstream downstream heldUp heldDown
  rw [outLabel, inLabel] at same
  exact absurd same (by decide)

end Samples

end Rsvpd
