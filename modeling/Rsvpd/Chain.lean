import Rsvpd.Lib.Network
import Rsvpd.Timer

/-!
# Chains of routers

Router 0 is the ingress, on which the tunnel is configured, and router
`transits + 1` is the egress.  Link `i` joins router `i` to router `i + 1`.
In a run time passes, single datagrams are delivered or lost, and single
routers sweep, in any order.
-/

namespace Rsvpd

/-- A chain with fixed routes.  `nexthop` and `srcip` are what `get_nexthop`
and `get_srcip` answer at a router. -/
structure Chain where
  transits : Nat
  tunnel : TunnelConfig
  /-- The address of router `i` on link `i`. -/
  upAddr : Nat → InAddr
  /-- The address of router `i + 1` on link `i`. -/
  downAddr : Nat → InAddr
  nexthop : Nat → InAddr → NexthopAnswer
  srcip : Nat → InAddr → SrcipAnswer
  upAddr_ne : ∀ i ≤ transits, upAddr i ≠ .any
  downAddr_ne : ∀ i ≤ transits, downAddr i ≠ .any
  addr_ne : ∀ i < transits, upAddr i ≠ downAddr (i + 1)
  towardDst : ∀ i ≤ transits, (nexthop i tunnel.dstip).ret ≠ 0 ∧
    (nexthop i tunnel.dstip).nhip = some (downAddr i)
  atDst : (nexthop (transits + 1) tunnel.dstip).ret ≠ 0 ∧
    (nexthop (transits + 1) tunnel.dstip).nhip = none
  towardSrc : ∀ i ≤ transits + 1, (nexthop i tunnel.srcip).ret ≠ 0
  srcipDown : ∀ i ≤ transits, (srcip i (downAddr i)).ret ≠ 0 ∧
    (srcip i (downAddr i)).srcip = some (upAddr i)

/-- The state of a chain.  `pathDue` and `resvDue` are the times at which the
timers of a router fire next. -/
structure ChainState where
  time : Int
  net : Network.Config Nat Daemon (InAddr × Packet)
  pathDue : Nat → Int
  resvDue : Nat → Int
  /-- A RESV of the router was lost since it created its record. -/
  lost : Nat → Bool

/-- Each event brings the memory that its handler finds; the clock and the
routes of its environment are those of the chain. -/
inductive ChainEvent where
  | wait (seconds : Nat)
  | deliver (sender index : Nat) (env : Env)
  | lose (sender index : Nat)
  | pathTimer (router : Nat) (env : Env)
  | resvTimer (router : Nat) (env : Env)

/-- How long after the start the timers of each router fire first. -/
structure Phases where
  path : Nat → Nat
  resv : Nat → Nat
  path_le : ∀ i, (path i : Int) ≤ interval
  resv_le : ∀ i, (resv i : Int) ≤ interval

def newlySent (d d' : Daemon) : List (InAddr × Packet) :=
  d'.sent.drop d.sent.length

theorem newlySent_append {d d' : Daemon} {new : List (InAddr × Packet)}
    (sent : d'.sent = d.sent ++ new) : newlySent d d' = new := by
  rw [newlySent, sent, List.drop_left]

theorem newlySent_nil {d d' : Daemon} (sent : d'.sent = d.sent) :
    newlySent d d' = [] :=
  newlySent_append (by rw [sent, List.append_nil])

namespace Chain

variable (chain : Chain)

def env (router : Nat) (now : Int) (env : Env) : Env :=
  { env with
    now
    reachRoute := chain.nexthop router
    insertRoute := chain.nexthop router
    srcipRoute := chain.srcip router }

/-- The neighbour that owns the destination of a datagram. -/
def receiver (dest : InAddr) : Nat → Option Nat
  | 0 => if dest = chain.downAddr 0 then some 1 else none
  | i + 1 =>
      if i + 1 ≤ chain.transits ∧ dest = chain.downAddr (i + 1) then
        some (i + 2)
      else if i ≤ chain.transits ∧ dest = chain.upAddr i then some i
      else none

/-- The reservation record of the tunnel at a router. -/
def resv (s : ChainState) (router : Nat) : Option ResvMsg :=
  (s.net.state router).resvTree.find chain.tunnel.tunnelId

/-- A router has run a handler. -/
def handled (router : Nat) (d : Daemon) (s : ChainState) : ChainState :=
  let before := (s.net.state router).resvTree.find chain.tunnel.tunnelId
  let after := d.resvTree.find chain.tunnel.tunnelId
  { s with
    net := s.net.become router d (newlySent (s.net.state router) d)
    lost :=
      if before.isNone ∧ after.isSome then
        Function.update s.lost router false
      else s.lost }

def start (time : Int) (phases : Phases) (env : Env) : ChainState :=
  let ingress := startup (chain.env 0 time env) chain.tunnel
  { time
    net :=
      { state := Function.update (fun _ => .init) 0 ingress
        flight := Function.update (fun _ => []) 0 ingress.sent }
    pathDue := fun router => time + phases.path router
    resvDue := fun router => time + phases.resv router
    lost := fun _ => false }

/-- One event; `none` when it cannot happen. -/
def step (s : ChainState) : ChainEvent → Option ChainState
  | .wait seconds => some { s with time := s.time + seconds }
  | .deliver sender index env => do
      let datagram ← (s.net.flight sender)[index]?
      let router ← chain.receiver datagram.1 sender
      let d ← mainReceive (chain.env router s.time env)
        datagram.2.received (s.net.state router)
      some (chain.handled router d
        { s with net := s.net.remove sender index })
  | .lose sender index => do
      let datagram ← (s.net.flight sender)[index]?
      some { s with
        net := s.net.remove sender index
        lost :=
          if datagram.2.msgType = resvMsgType then
            Function.update s.lost sender true
          else s.lost }
  | .pathTimer router env =>
      if router ≤ chain.transits + 1 then
        let d := pathTimerHandler (chain.env router s.time env)
          (s.net.state router)
        some (chain.handled router d { s with
          pathDue := Function.update s.pathDue router (s.time + interval) })
      else none
  | .resvTimer router env =>
      if router ≤ chain.transits + 1 then
        let d := resvTimerHandler (chain.env router s.time env)
          (s.net.state router)
        some (chain.handled router d { s with
          resvDue := Function.update s.resvDue router (s.time + interval) })
      else none

section Handled

variable {chain} {s : ChainState} {router other : Nat} {d : Daemon}

@[simp] theorem state_handled_self :
    (chain.handled router d s).net.state router = d :=
  Network.Config.become_state_self

theorem state_handled_of_ne (different : other ≠ router) :
    (chain.handled router d s).net.state other = s.net.state other :=
  Network.Config.become_state_of_ne different

theorem forall_handled (holds : Nat → Daemon → Prop)
    (others : ∀ other, other ≠ router → holds other (s.net.state other))
    (own : holds router d) :
    ∀ other, holds other ((chain.handled router d s).net.state other) := by
  intro other
  by_cases here : other = router
  · subst here
    rwa [state_handled_self]
  · rw [state_handled_of_ne here]
    exact others other here

@[simp] theorem flight_handled_self :
    (chain.handled router d s).net.flight router =
      s.net.flight router ++ newlySent (s.net.state router) d :=
  Network.Config.become_flight_self

theorem flight_handled_of_ne (different : other ≠ router) :
    (chain.handled router d s).net.flight other = s.net.flight other :=
  Network.Config.become_flight_of_ne different

theorem resv_handled_self : chain.resv (chain.handled router d s) router =
    d.resvTree.find chain.tunnel.tunnelId := by
  rw [resv, state_handled_self]

theorem resv_handled_of_ne (different : other ≠ router) :
    chain.resv (chain.handled router d s) other = chain.resv s other := by
  rw [resv, state_handled_of_ne different, resv]

theorem lost_handled_of_ne (different : other ≠ router) :
    (chain.handled router d s).lost other = s.lost other := by
  simp only [handled]
  split
  · exact Function.update_of_ne different ..
  · rfl

theorem lost_handled_of_known {r : ResvMsg}
    (known : (s.net.state router).resvTree.find chain.tunnel.tunnelId =
      some r) : (chain.handled router d s).lost = s.lost := by
  simp [handled, known]

end Handled

end Chain

private theorem ofNat_ne {a b : Nat} (aSmall : a < 2 ^ 32)
    (bSmall : b < 2 ^ 32) (different : a ≠ b) :
    BitVec.ofNat 32 a ≠ BitVec.ofNat 32 b := by
  intro same
  have values := congrArg BitVec.toNat same
  simp only [BitVec.toNat_ofNat] at values
  omega

/-- A chain for tunnel 1 from address 5 to address 9.  The ends of link `i`
have the addresses `4 * i + 17` and `4 * i + 18`. -/
def sampleChain (transits : Nat) (short : transits ≤ 1000) : Chain where
  transits
  tunnel := { tunnelId := 1, srcip := ⟨5⟩, dstip := ⟨9⟩ }
  upAddr i := ⟨BitVec.ofNat 32 (4 * i + 17)⟩
  downAddr i := ⟨BitVec.ofNat 32 (4 * i + 18)⟩
  nexthop i dest :=
    let nhip : Option InAddr :=
      if dest = ⟨9⟩ then
        if i ≤ transits then some ⟨BitVec.ofNat 32 (4 * i + 18)⟩ else none
      else if i = 0 then none
      else some ⟨BitVec.ofNat 32 (4 * i + 13)⟩
    { ret := 1, nhip, prefixLen := 24, dev := "eth0", ifh := 2 }
  srcip i nhip :=
    let srcip : InAddr :=
      if nhip = ⟨BitVec.ofNat 32 (4 * i + 18)⟩ then
        ⟨BitVec.ofNat 32 (4 * i + 17)⟩
      else ⟨BitVec.ofNat 32 (4 * i + 14)⟩
    { ret := 1, srcip := some srcip, ifh := 2 }
  upAddr_ne i within same :=
    ofNat_ne (b := 0) (by omega) (by omega) (by omega)
      (InAddr.mk.inj same)
  downAddr_ne i within same :=
    ofNat_ne (b := 0) (by omega) (by omega) (by omega)
      (InAddr.mk.inj same)
  addr_ne i within same :=
    ofNat_ne (by omega) (by omega) (by omega) (InAddr.mk.inj same)
  towardDst i within := by simp [within]
  atDst := by simp
  towardSrc i within := by simp
  srcipDown i within := by simp

/-- A chain with one transit router. -/
def sampleTransit : Chain := sampleChain 1 (by decide)

def setupEvents : List ChainEvent :=
  [.deliver 0 0 (.isolated 0), .deliver 1 0 (.isolated 0),
   .deliver 2 0 (.isolated 0), .deliver 1 0 (.isolated 0)]

end Rsvpd
