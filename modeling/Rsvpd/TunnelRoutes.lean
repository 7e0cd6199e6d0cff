import Rsvpd.TunnelSetup

/-!
# The routes of an established tunnel

The routes that the daemons install along a chain form a label-switched path:
the ingress pushes the label of the first transit router, each transit router
but the last swaps its label for that of the next, and the last one pops its
label in front of the egress.
-/

namespace Rsvpd

open Daemon Network

theorem allocateLabel_empty : (allocateLabel .empty).1 = 16 := by
  decide +kernel

namespace Chain

variable (chain : Chain)

/-- `get_srcip` answers with the address that faces the next hop, also
towards the ingress. -/
def FacesBack : Prop :=
  ∀ i ≤ chain.transits,
    (chain.srcip (i + 1) (chain.upAddr i)).ret ≠ 0 ∧
      (chain.srcip (i + 1) (chain.upAddr i)).srcip = some (chain.downAddr i)

/-- The label that a router behind the ingress gives out. -/
def label (i : Nat) : U32 :=
  if i ≤ chain.transits then 16 else implicitNull

/-- The route of an established tunnel at a router, from its path record and
the reservations on both sides of its link. -/
def tunnelRoute (i : Nat) (pa : PathMsg) (r next : ResvMsg) : KernelRoute :=
  if i = 0 then
    .push ⟨chain.tunnel.dstip.sAddr &&& prefixMask pa.prefixLen⟩ pa.prefixLen
      next.inLabel (chain.downAddr i) pa.dev
  else if i = chain.transits then
    .pop r.inLabel (chain.downAddr i) pa.dev
  else
    .swap r.inLabel next.inLabel (chain.downAddr i)

structure Labelled (i : Nat) (d : Daemon) : Prop where
  ok : chain.RouterOk i d
  fresh : d.resvTree.find chain.tunnel.tunnelId = none →
    d.labelBitmap = .empty ∧ d.commands = []
  routed : ∀ r, d.resvTree.find chain.tunnel.tunnelId = some r →
    i ≤ chain.transits → r.outLabel = chain.label (i + 1) ∧
      r.pSrcip = chain.downAddr i ∧
      ∃ pa, d.pathTree.find chain.tunnel.tunnelId = some pa ∧
        d.commands = [.add (addedRoute pa r)]
  named : ∀ r, d.resvTree.find chain.tunnel.tunnelId = some r →
    0 < i → r.inLabel = chain.label i ∧ r.eSrcip = chain.downAddr (i - 1)
  egress : chain.transits < i → d.commands = []

/-- A RESV names the label and the address of its sender. -/
def Names (i : Nat) (datagram : InAddr × Packet) : Prop :=
  ∀ packet, datagram.2 = .resv packet →
    ntohl packet.labelObj.label = chain.label i ∧
      packet.hopObj.nextHop = chain.downAddr (i - 1)

/-- A handler of a router keeps its labels and sends what names them. -/
structure KeepsLabels (i : Nat) (d d' : Daemon) : Prop where
  ok : chain.Labelled i d'
  sent : ∃ new, d'.sent = d.sent ++ new ∧
    ∀ datagram ∈ new, chain.Carries i datagram ∧ chain.Names i datagram

section Parts

variable {chain} {i : Nat} {now : Int} {env : Env} {d : Daemon}

theorem label_of_le (within : i ≤ chain.transits) : chain.label i = 16 :=
  if_pos within

theorem label_of_lt (last : chain.transits < i) :
    chain.label i = implicitNull := if_neg (Nat.not_le_of_lt last)

theorem names_pathSend (p : PathMsg) : chain.Names i (pathSend env p) := by
  intro packet same
  cases same

theorem Labelled.names {r : ResvMsg} (labelled : chain.Labelled i d)
    (held : d.resvTree.find chain.tunnel.tunnelId = some r)
    (inner : 0 < i) : chain.Names i (resvSend env r) := by
  obtain ⟨label, source⟩ := labelled.named r held inner
  intro packet same
  cases same
  exact ⟨(ntohl_htonl _).trans label, source⟩

theorem newResvMsg_eSrcip {buffer : Buffer} {pNhip srcip : InAddr}
    {pathDstReach : Bool} {bitmap : LabelBitmap} (passes : pNhip ≠ .any)
    (routed : (env.srcipRoute pNhip).ret ≠ 0)
    (source : (env.srcipRoute pNhip).srcip = some srcip) :
    (newResvMsg env buffer pNhip pathDstReach bitmap).1.eSrcip = srcip := by
  cases pathDstReach with
  | true => simp [newResvMsg, routed, source]
  | false => simp [newResvMsg, routed, source, passes]

theorem Labelled.keeps {d' : Daemon} (labelled : chain.Labelled i d)
    (ok : chain.RouterOk i d')
    (path : ∀ pa, d.pathTree.find chain.tunnel.tunnelId = some pa →
      d'.pathTree.find chain.tunnel.tunnelId = some pa)
    (same : d'.resvTree.find chain.tunnel.tunnelId =
      d.resvTree.find chain.tunnel.tunnelId)
    (bitmap : d'.labelBitmap = d.labelBitmap)
    (commands : d'.commands = d.commands) : chain.Labelled i d' := by
  obtain ⟨_, fresh, routed, named, egress⟩ := labelled
  rw [← same, ← bitmap, ← commands] at fresh
  rw [← same, ← commands] at routed
  rw [← same] at named
  rw [← commands] at egress
  refine ⟨ok, fresh, fun r held within => ?_, named, egress⟩
  obtain ⟨outLabel, via, pa, asked, added⟩ := routed r held within
  exact ⟨outLabel, via, pa, path pa asked, added⟩

end Parts

section TakesPath

variable {chain} {i : Nat} {now : Int} {env : Env} {packet : PathPacket}
  {reached : Int} {d d' : Daemon}
  (result : receivePathMessage (chain.env (i + 1) now env)
    (Packet.path packet).received
    (mainPathSession (chain.env (i + 1) now env)
      (Packet.path packet).received reached d) = d')
  (within : i ≤ chain.transits) (session : chain.OfTunnel packet.sessionObj)
  (hop : packet.hopObj.nextHop = chain.upAddr i)
  (labelled : chain.Labelled (i + 1) d)

include result within session hop labelled

theorem takesPath_labelled (back : chain.FacesBack) :
    chain.Labelled (i + 1) d' := by
  have kept := receivePath_keeps now env reached within session hop
    labelled.ok
  have changed := receivePathMessage_resvTree (chain.env (i + 1) now env)
    (Packet.path packet).received (mainPathSession
      (chain.env (i + 1) now env) (Packet.path packet).received reached d)
  have noted := mainPathSession_frame (chain.env (i + 1) now env)
    (Packet.path packet).received reached d
  have frame := receivePathMessage_frame (chain.env (i + 1) now env)
    (Packet.path packet).received (mainPathSession
      (chain.env (i + 1) now env) (Packet.path packet).received reached d)
  rw [result] at kept changed frame
  have bitmap := frame.2.2.1.trans noted.2.2.2.1
  have commands := frame.2.2.2.trans noted.2.2.2.2.2
  have sameId : recvTunnelId (Packet.path packet).received =
      chain.tunnel.tunnelId := recvTunnelId_received session
  cases changed with
  | kept resvTree =>
      refine labelled.keeps kept.ok (fun pa asked => ?_) ?_ bitmap commands
      · rw [← result]
        apply receivePathMessage_findPathSome
        rwa [noted.1]
      · rw [resvTree, noted.2.1]
  | created p path egress missing memory resvTree =>
      have pathOk := kept.ok.path _ p path
      rw [pathOk.nexthopIp] at egress
      have last := (nextAddr_eq_any (by omega)).mp egress
      have faces := back i within
      have passes : chain.upAddr i ≠ .any := chain.upAddr_ne i within
      have stored : d'.resvTree.find chain.tunnel.tunnelId =
          some (newResvMsg (chain.env (i + 1) now env)
            (Packet.path packet).received (chain.upAddr i) true
            (mainPathSession (chain.env (i + 1) now env)
              (Packet.path packet).received reached d).labelBitmap).1 := by
        rw [resvTree, ← sameId, pathOk.pSrcip]
        exact RecordTree.find_insert_self _ (newResvMsg_fields _ _ _ _ _).1
          missing
      constructor
      · exact kept.ok
      · intro none
        rw [stored] at none
        cases none
      · intro r _ inner
        omega
      · intro r held _
        rw [stored] at held
        cases held
        rw [label_of_lt (by omega)]
        exact ⟨(newResvMsg_egress _ _ _ _).1,
          newResvMsg_eSrcip passes faces.1 faces.2⟩
      · intro behind
        rw [commands, labelled.egress behind]

theorem takesPath_keepsLabels (back : chain.FacesBack) :
    chain.KeepsLabels (i + 1) d d' := by
  have kept := (receivePath_keeps now env reached within session hop
    labelled.ok).sent
  have ok := takesPath_labelled result within session hop labelled back
  have sent := takesPath_sent result session
  rw [result] at kept
  obtain ⟨new, shape, carries⟩ := kept
  rw [newlySent_append shape] at sent
  refine ⟨ok, new, shape, fun datagram member => ?_⟩
  refine ⟨carries datagram member, ?_⟩
  rw [sent] at member
  split at member
  case h_1 => cases member
  case h_2 p held =>
    split at member
    case isTrue =>
      obtain ⟨r, answer, rfl⟩ :=
        Option.map_eq_some_iff.mp (Option.mem_toList.mp member)
      exact ok.names answer (Nat.succ_pos i)
    case isFalse =>
      rw [List.mem_singleton.mp member]
      exact names_pathSend p

end TakesPath

section TakesResv

variable {chain} {i : Nat} {now : Int} {env : Env} {packet : ResvPacket}
  {d d' : Daemon}
  (result : receiveResvMessage (chain.env i now env)
    (Packet.resv packet).received d = d')
  (within : i ≤ chain.transits) (session : chain.OfTunnel packet.sessionObj)
  (names : chain.Names (i + 1) (chain.upAddr i, .resv packet))
  (labelled : chain.Labelled i d)

include result within session names labelled

omit names in
theorem takesResv_keeps : chain.Keeps i d d' := by
  rw [← result]
  apply receiveResv_keeps within _ labelled.ok
  rw [recvSessionObj_received]
  exact session

/-- The record that a first RESV creates has the labels of its link. -/
theorem takesResv_created (back : chain.FacesBack) {pa : PathMsg}
    (path : d.pathTree.find chain.tunnel.tunnelId = some pa)
    (missing : d.resvTree.find chain.tunnel.tunnelId = none)
    (stored : d'.resvTree.find chain.tunnel.tunnelId =
      some (resvMade (chain.env i now env) (Packet.resv packet).received d
        pa).1)
    (commands : d'.commands = d.commands ++ [.add (addedRoute pa
      (resvMade (chain.env i now env) (Packet.resv packet).received d
        pa).1)]) :
    chain.Labelled i d' := by
  obtain ⟨label, hop⟩ := names packet rfl
  obtain ⟨_, _, _, _, source⟩ := newResvMsg_fields (chain.env i now env)
    (Packet.resv packet).received pa.pSrcip false d.labelBitmap
  have pathTree : d'.pathTree = d.pathTree := by
    rw [← result, (receiveResvMessage_frame _ _ _).1]
  have upstream := (labelled.ok.path _ pa path).pSrcip
  obtain ⟨bitmap, noCommands⟩ := labelled.fresh missing
  constructor
  · exact (takesResv_keeps result within session labelled).ok
  · intro none
    rw [stored] at none
    cases none
  · intro r held _
    rw [stored] at held
    cases held
    refine ⟨?_, ?_, pa, by rwa [pathTree],
      by rw [commands, noCommands, List.nil_append]⟩
    · rw [resvMade, newResvMsg_outLabel, recvLabelObj_received, label]
    · rw [resvMade, source, recvHopObj_received]
      exact hop
  · intro r held inner
    rw [stored] at held
    cases held
    obtain ⟨before, rfl⟩ := Nat.exists_eq_succ_of_ne_zero inner.ne'
    have passes : chain.upAddr before ≠ .any :=
      chain.upAddr_ne before (by omega)
    have faces := back before (by omega)
    have taken := newResvMsg_transit (chain.env (before + 1) now env)
      (Packet.resv packet).received passes d.labelBitmap
    rw [label_of_le within, resvMade, upstream]
    refine ⟨?_, newResvMsg_eSrcip passes faces.1 faces.2⟩
    have first := congrArg Prod.fst taken
    rw [bitmap, allocateLabel_empty] at first
    rw [bitmap]
    exact first
  · intro behind
    omega

theorem takesResv_keepsLabels (back : chain.FacesBack)
    (memory : env.resvMalloc = true) : chain.KeepsLabels i d d' := by
  have kept := takesResv_keeps result within session labelled
  have changed := receiveResvMessage_cases (chain.env i now env)
    (Packet.resv packet).received d
  rw [result] at changed
  have sameId : recvTunnelId (Packet.resv packet).received =
      chain.tunnel.tunnelId := recvTunnelId_received session
  cases changed with
  | kept known resvTree labelBitmap commands sent =>
      have pathTree : d'.pathTree = d.pathTree := by
        rw [← result, (receiveResvMessage_frame _ _ _).1]
      exact ⟨labelled.keeps kept.ok (by rw [pathTree]; exact fun _ => id)
          (by rw [resvTree]) labelBitmap commands,
        [], by simp [sent], List.forall_mem_nil _⟩
  | noMemory pa path missing noMemory resvTree labelBitmap commands sent =>
      cases memory.symm.trans noMemory
  | created pa path missing memory resvTree labelBitmap commands sent =>
      have stored := RecordTree.find_insert_self _
        (resvMade_tunnelId (chain.env i now env)
          (Packet.resv packet).received d pa) missing
      rw [← resvTree, sameId] at stored
      have upstream := (labelled.ok.path _ pa path).pSrcip
      rw [sameId] at path missing
      have ok := takesResv_created result within session names labelled back
        path missing stored commands
      refine ⟨ok, _, sent, fun datagram member => ?_⟩
      obtain ⟨new, shape, carries⟩ := kept.sent
      have same : new = _ := List.append_cancel_left (shape.symm.trans sent)
      refine ⟨carries datagram (by rwa [same]), ?_⟩
      split at member
      case isTrue => cases member
      case isFalse passes =>
        rw [List.mem_singleton.mp member]
        apply ok.names stored
        rw [resvMade_nexthopIp, upstream] at passes
        exact Nat.pos_of_ne_zero fun first => passes (by rw [first]; rfl)

end TakesResv

section Sweeps

variable {chain} {i : Nat} {env : Env} {d : Daemon}

theorem pathTimer_keepsLabels (reachable : i ≤ chain.transits + 1)
    (live : ∀ temp ∈ d.resvHead, ¬Expired env.now temp)
    (labelled : chain.Labelled i d) :
    chain.KeepsLabels i d (pathTimerHandler env d) := by
  have kept : chain.Keeps i d (pathTimerHandler env d) :=
    pathTimer_keeps reachable labelled.ok
  obtain ⟨pathTree, _, bitmap, commands⟩ := pathTimerHandler_frame env d
  obtain ⟨new, shape, allowed⟩ := pathTimerHandler_sent env d
  obtain ⟨new', shape', carries⟩ := kept.sent
  have same : new' = new := List.append_cancel_left (shape'.symm.trans shape)
  refine ⟨labelled.keeps kept.ok (by rw [pathTree]; exact fun _ => id)
    (pathTimerHandler_findKept (not_pathTornDown_of_live live)) bitmap
    commands, new, shape, fun datagram member => ?_⟩
  obtain ⟨_, p, _, rfl⟩ := allowed datagram member
  exact ⟨carries _ (by rwa [same]), names_pathSend p⟩

theorem resvTimer_keepsLabels (reachable : i ≤ chain.transits + 1)
    (live : ∀ temp ∈ d.pathHead, ¬Expired env.now temp)
    (labelled : chain.Labelled i d) :
    chain.KeepsLabels i d (resvTimerHandler env d) := by
  have kept : chain.Keeps i d (resvTimerHandler env d) :=
    resvTimer_keeps reachable labelled.ok
  obtain ⟨bitmap, commands⟩ := resvTimerHandler_frame env d
  obtain ⟨new, shape, allowed⟩ := resvTimerHandler_sent env d
  obtain ⟨new', shape', carries⟩ := kept.sent
  have same : new' = new := List.append_cancel_left (shape'.symm.trans shape)
  refine ⟨labelled.keeps kept.ok
    (by rw [resvTimerHandler_findPathKept live]; exact fun _ => id)
    (resvTimerHandler_findKept (not_resvTornDown_of_live live)) bitmap
    commands, new, shape, fun datagram member => ?_⟩
  obtain ⟨tunnelId, r, held, rfl⟩ := allowed datagram member
  refine ⟨carries _ (by rwa [same]), ?_⟩
  have ids : tunnelId = chain.tunnel.tunnelId :=
    (RecordTree.find_tunnelId held).symm.trans
      (labelled.ok.resv tunnelId r held).tunnelId
  rw [ids] at held
  apply labelled.names held
  by_contra first
  rw [resvTimerHandler_nil (labelled.ok.pathHead (by omega))] at shape
  have empty : new = [] := by simpa using shape
  rw [empty] at member
  cases member

end Sweeps

section Runs

variable {chain} {s s' : ChainState}

/-- Every router has the labels and routes of its record, and every RESV in
flight those of its sender. -/
def AllLabelled (chain : Chain) (s : ChainState) : Prop :=
  s.net.All chain.Labelled fun i datagram =>
    chain.Carries i datagram ∧ chain.Names i datagram

theorem AllLabelled.allOk (all : chain.AllLabelled s) : chain.AllOk s :=
  ⟨fun i => (all.node i).ok,
    fun i datagram member => (all.message i datagram member).1⟩

theorem AllLabelled.handled {i : Nat} {d : Daemon}
    (all : chain.AllLabelled s)
    (keeps : chain.KeepsLabels i (s.net.state i) d) :
    chain.AllLabelled (chain.handled i d s) := by
  obtain ⟨ok, new, shape, allowed⟩ := keeps
  apply Network.Config.All.become all ok
  rw [newlySent_append shape]
  exact allowed

theorem AllLabelled.remove (all : chain.AllLabelled s)
    (sender index : Nat) :
    chain.AllLabelled { s with net := s.net.remove sender index } :=
  Network.Config.All.remove all index

theorem AllLabelled.step {event : ChainEvent} (back : chain.FacesBack)
    (all : chain.AllLabelled s) (lasting : Lasting s event)
    (taken : chain.step s event = some s') : chain.AllLabelled s' := by
  cases step_cases all.allOk taken with
  | wait seconds => exact all
  | path i index env packet reached within inFlight session hop =>
      apply (all.remove _ index).handled
      exact takesPath_keepsLabels rfl within session hop
        (all.node (i + 1)) back
  | resv i index env packet within inFlight session =>
      apply (all.remove _ index).handled
      have names := (all.message (i + 1) _
        (List.mem_of_getElem? inFlight)).2
      exact takesResv_keepsLabels rfl within session names (all.node i)
        back lasting.2
  | lose sender index datagram inFlight => exact all.remove sender index
  | pathTimer i env reachable =>
      apply AllLabelled.handled all
      exact pathTimer_keepsLabels reachable lasting (all.node i)
  | resvTimer i env reachable =>
      apply AllLabelled.handled all
      exact resvTimer_keepsLabels reachable lasting (all.node i)

variable {time : Int} {phases : Phases} {env : Env}

theorem start_allLabelled :
    chain.AllLabelled (chain.start time phases env) := by
  have allOk : chain.AllOk (chain.start time phases env) := start_allOk
  have frame := startup_frame (chain.env 0 time env) chain.tunnel
  have empty (i : Nat) :
      ((chain.start time phases env).net.state i).resvTree = .null ∧
      ((chain.start time phases env).net.state i).labelBitmap = .empty ∧
      ((chain.start time phases env).net.state i).commands = [] := by
    by_cases ingress : i = 0
    · subst ingress
      simp [start]
    · simp [start, ingress]
  constructor
  · intro i
    obtain ⟨resvTree, labelBitmap, commands⟩ := empty i
    refine ⟨allOk.node i, fun _ => ⟨labelBitmap, commands⟩, ?_, ?_,
      fun _ => commands⟩
    · intro r held
      rw [resvTree, RecordTree.find_null] at held
      cases held
    · intro r held
      rw [resvTree, RecordTree.find_null] at held
      cases held
  · intro i datagram member
    refine ⟨allOk.message i datagram member, ?_⟩
    by_cases ingress : i = 0
    · subst ingress
      have carries := allOk.message 0 datagram member
      cases carries
      intro packet same
      cases same
    · simp [start, ingress] at member

theorem Labelled.inLabel {i : Nat} {d : Daemon} {r : ResvMsg}
    (labelled : chain.Labelled (i + 1) d)
    (held : d.resvTree.find chain.tunnel.tunnelId = some r) :
    r.inLabel = chain.label (i + 1) :=
  (labelled.named r held (Nat.succ_pos i)).1

theorem AllLabelled.route_eq (all : chain.AllLabelled s) {i : Nat}
    {r next : ResvMsg} (within : i ≤ chain.transits)
    (held : chain.resv s i = some r)
    (heldNext : chain.resv s (i + 1) = some next) :
    ∃ pa, chain.path s i = some pa ∧
      (s.net.state i).commands = [.add (chain.tunnelRoute i pa r next)] := by
  obtain ⟨outLabel, via, pa, asked, commands⟩ :=
    (all.node i).routed r held within
  have ok := (all.node i).ok.resv _ r held
  have label := (all.node (i + 1)).inLabel heldNext
  rw [← outLabel] at label
  refine ⟨pa, asked, ?_⟩
  rw [commands, tunnelRoute, addedRoute, ← via, label, ok.destIp]
  cases i with
  | zero =>
      have ingress : r.nexthopIp = .any := ok.nexthopIp
      rw [if_pos ingress, if_pos rfl]
  | succ before =>
      have passes : r.nexthopIp ≠ .any := by
        rw [ok.nexthopIp]
        exact chain.upAddr_ne before (by omega)
      rw [if_neg passes, if_neg (Nat.succ_ne_zero before)]
      by_cases last : before + 1 = chain.transits
      · have pops : r.outLabel = 3 := by
          rw [outLabel, label_of_lt (by omega)]
          rfl
        rw [if_pos pops, if_pos last]
      · have swaps : r.outLabel ≠ 3 := by
          rw [outLabel, label_of_le (by omega)]
          decide
        rw [if_neg swaps, if_neg last]

/-- A reservation at the ingress means a reservation at every router. -/
theorem Causal.held (causal : chain.Causal s)
    (held : (chain.resv s 0).isSome) {i : Nat}
    (within : i ≤ chain.transits + 1) : (chain.resv s i).isSome := by
  induction i with
  | zero => exact held
  | succ i ih => exact causal.2.answered i within (ih (by omega))

/-- What a run without expiry keeps of the labels. -/
def Carrying (chain : Chain) (s : ChainState) : Prop :=
  chain.AllLabelled s ∧ chain.Causal s

theorem carrying_of_lasting (back : chain.FacesBack)
    (memory : env.pathMalloc = true)
    (run : Transition.Reachable chain.step Lasting
      (chain.start time phases env) s) : chain.Carrying s := by
  have started : chain.Carrying (chain.start time phases env) :=
    ⟨start_allLabelled, start_causal memory⟩
  refine Transition.Reachable.invariant started ?_ run
  intro source event target held lasting taken
  exact ⟨held.1.step back lasting taken, held.2.step lasting taken⟩

/-- In every run without expiry, whatever is lost, the routers of an
established tunnel have one route each, and the egress has none.  The labels
of adjacent routers match: a transit router gives out 16 and the egress the
implicit null label. -/
theorem established_routes (back : chain.FacesBack)
    (memory : env.pathMalloc = true)
    (run : Transition.Reachable chain.step Lasting
      (chain.start time phases env) s)
    (established : (chain.resv s 0).isSome) :
    (∀ i ≤ chain.transits, ∃ r next pa, chain.resv s i = some r ∧
      chain.resv s (i + 1) = some next ∧ chain.path s i = some pa ∧
      next.inLabel = (if i < chain.transits then 16 else implicitNull) ∧
      (s.net.state i).commands = [.add (chain.tunnelRoute i pa r next)]) ∧
    (s.net.state (chain.transits + 1)).commands = [] := by
  obtain ⟨all, causal⟩ := carrying_of_lasting back memory run
  refine ⟨fun i within => ?_, (all.node _).egress (Nat.lt_succ_self _)⟩
  obtain ⟨r, held⟩ := Option.isSome_iff_exists.mp
    (causal.held established (Nat.le_succ_of_le within))
  obtain ⟨next, heldNext⟩ := Option.isSome_iff_exists.mp
    (causal.held established (Nat.succ_le_succ within))
  obtain ⟨pa, asked, commands⟩ := all.route_eq within held heldNext
  exact ⟨r, next, pa, held, heldNext, asked,
    (all.node (i + 1)).inLabel heldNext, commands⟩

end Runs

end Chain

theorem sampleChain_facesBack (transits : Nat) (short : transits ≤ 1000) :
    (sampleChain transits short).FacesBack := by
  intro i within
  have within : i ≤ transits := within
  refine ⟨by simp [sampleChain], ?_⟩
  have other : BitVec.ofNat 32 (4 * i + 17) ≠
      BitVec.ofNat 32 (4 * (i + 1) + 18) := by
    intro same
    have values := congrArg BitVec.toNat same
    simp only [BitVec.toNat_ofNat] at values
    omega
  have source : 4 * (i + 1) + 14 = 4 * i + 18 := by omega
  simp only [sampleChain, InAddr.mk.injEq, if_neg other, source]

/-- Through one transit router. -/
theorem setupEvents_routes :
    ∃ s, Transition.runEvents sampleTransit.step
        (sampleTransit.start 0 samplePhases (.isolated 0)) setupEvents =
          some s ∧
      ∀ i ≤ 1, ∃ r next pa, sampleTransit.resv s i = some r ∧
        sampleTransit.resv s (i + 1) = some next ∧
        sampleTransit.path s i = some pa ∧
        next.inLabel = (if i < 1 then 16 else implicitNull) ∧
        (s.net.state i).commands =
          [.add (sampleTransit.tunnelRoute i pa r next)] := by
  have held : ((Transition.runEvents sampleTransit.step
      (sampleTransit.start 0 samplePhases (.isolated 0)) setupEvents).map
        fun s => (sampleTransit.resv s 0).isSome) = some true := by
    decide +kernel
  obtain ⟨s, run, established⟩ := Option.map_eq_some_iff.mp held
  refine ⟨s, run, (Chain.established_routes (sampleChain_facesBack 1 _) rfl
    (.of_runEvents ?_ run) established).1⟩
  intro event member source
  simp only [setupEvents, List.mem_cons, List.not_mem_nil, or_false]
    at member
  rcases member with rfl | rfl | rfl | rfl <;> exact ⟨rfl, rfl⟩

end Rsvpd
