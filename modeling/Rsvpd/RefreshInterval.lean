import Rsvpd.RoundTrip

/-!
# The refresh interval along a path

Both senders swap the interval into network order, and both decoders store it
as it stands in the datagram.  Each router so holds the interval of its
neighbour with the bytes reversed.
-/

namespace Rsvpd

open Transition

/-- A router that a PATH passes: the environment of the router before it when
it sends, the IP header, and its own environment and tree. -/
structure PathHop where
  sender : Env
  ipHeader : List U8
  env : Env
  table : RecordTree PathMsg

/-- The record that the router holds once it decoded what
`send_path_message` sends for the record of the router before it. -/
def PathHop.relay (p : PathMsg) (hop : PathHop) : Option PathMsg :=
  (pathTreeInsert hop.env hop.table
    (received hop.ipHeader (pathSend hop.sender p))).find p.tunnelId

/-- The router knows a route to the destination, does not hold the tunnel yet
and has memory for it. -/
structure PathHop.Takes (hop : PathHop) (p : PathMsg) : Prop where
  headerLen : hop.ipHeader.length = ipHeaderLen
  routed : (hop.env.insertRoute p.destIp).ret ≠ 0
  memory : hop.env.pathMalloc = true
  missing : hop.table.find p.tunnelId = none

theorem PathHop.Takes.of_same {hop : PathHop} {p held : PathMsg}
    (takes : hop.Takes p) (tunnelId : held.tunnelId = p.tunnelId)
    (destIp : held.destIp = p.destIp) : hop.Takes held where
  headerLen := takes.headerLen
  routed := destIp ▸ takes.routed
  memory := takes.memory
  missing := tunnelId ▸ takes.missing

/-- A router that a RESV passes, with the upstream address and the labels it
has. -/
structure ResvHop where
  sender : Env
  ipHeader : List U8
  env : Env
  table : RecordTree ResvMsg
  pNhip : InAddr
  labelBitmap : LabelBitmap

def ResvHop.relay (r : ResvMsg) (hop : ResvHop) : Option ResvMsg :=
  (resvTreeInsert hop.env hop.table
    (received hop.ipHeader (resvSend hop.sender r)) hop.pNhip false
    hop.labelBitmap).1.find r.tunnelId

structure ResvHop.Takes (hop : ResvHop) (r : ResvMsg) : Prop where
  headerLen : hop.ipHeader.length = ipHeaderLen
  memory : hop.env.resvMalloc = true
  missing : hop.table.find r.tunnelId = none

theorem ResvHop.Takes.of_same {hop : ResvHop} {r held : ResvMsg}
    (takes : hop.Takes r) (tunnelId : held.tunnelId = r.tunnelId) :
    hop.Takes held where
  headerLen := takes.headerLen
  memory := takes.memory
  missing := tunnelId ▸ takes.missing

theorem PathHop.relay_interval {hop : PathHop} {p : PathMsg}
    (takes : hop.Takes p) :
    ∃ q, hop.relay p = some q ∧
      (q.tunnelId = p.tunnelId ∧ q.destIp = p.destIp) ∧
      q.interval = htonl p.interval := by
  obtain ⟨q, built⟩ := exists_newPathMsg_received takes.headerLen hop.sender
    p takes.routed
  obtain ⟨tunnelId, _, destIp, _, _, _, _, interval⟩ :=
    newPathMsg_received takes.headerLen hop.sender p built
  refine ⟨q, ?_, ⟨tunnelId, destIp⟩, interval⟩
  simp only [relay, pathTreeInsert, built, takes.memory]
  exact RecordTree.find_insert_self q tunnelId takes.missing

theorem ResvHop.relay_interval {hop : ResvHop} {r : ResvMsg}
    (takes : hop.Takes r) :
    ∃ q, hop.relay r = some q ∧ q.tunnelId = r.tunnelId ∧
      q.interval = htonl r.interval := by
  obtain ⟨tunnelId, _, _, _, _, interval⟩ := newResvMsg_received
    takes.headerLen hop.sender r hop.env hop.pNhip hop.labelBitmap
  refine ⟨_, ?_, tunnelId, interval⟩
  simp only [relay, resvTreeInsert, takes.memory]
  exact RecordTree.find_insert_self _ tunnelId takes.missing

theorem htonl_iterate (x : U32) (count : Nat) :
    htonl^[count] x = if count % 2 = 0 then x else htonl x := by
  induction count with
  | zero => rfl
  | succ count ih =>
      rw [Function.iterate_succ_apply', ih]
      by_cases even : count % 2 = 0
      · rw [if_pos even, if_neg (by omega)]
      · rw [if_neg even, if_pos (by omega), htonl_htonl]

/-- Reversing the bytes any number of times changes a value unless the number
is even or the value reads the same both ways. -/
theorem htonl_iterate_eq_iff {x : U32} {count : Nat} :
    htonl^[count] x = x ↔ count % 2 = 0 ∨ htonl x = x := by
  rw [htonl_iterate]
  split
  case isTrue even => simp [even]
  case isFalse odd => simp [odd]

theorem relayed_path {p : PathMsg} {hops : List PathHop}
    (takes : ∀ hop ∈ hops, hop.Takes p) :
    ∃ q, runEvents PathHop.relay p hops = some q ∧
      q.interval = htonl^[hops.length] p.interval := by
  have step (held : PathMsg)
      (same : held.tunnelId = p.tunnelId ∧ held.destIp = p.destIp)
      (hop : PathHop) (member : hop ∈ hops) :
      ∃ next, hop.relay held = some next ∧
        (next.tunnelId = p.tunnelId ∧ next.destIp = p.destIp) ∧
        next.interval = htonl held.interval := by
    obtain ⟨next, taken, copied, interval⟩ :=
      PathHop.relay_interval ((takes hop member).of_same same.1 same.2)
    rw [same.1, same.2] at copied
    exact ⟨next, taken, copied, interval⟩
  obtain ⟨q, run, _, interval⟩ := runEvents_iterate step ⟨rfl, rfl⟩
  exact ⟨q, run, interval⟩

theorem relayed_resv {r : ResvMsg} {hops : List ResvHop}
    (takes : ∀ hop ∈ hops, hop.Takes r) :
    ∃ q, runEvents ResvHop.relay r hops = some q ∧
      q.interval = htonl^[hops.length] r.interval := by
  have step (held : ResvMsg) (same : held.tunnelId = r.tunnelId)
      (hop : ResvHop) (member : hop ∈ hops) :
      ∃ next, hop.relay held = some next ∧
        next.tunnelId = r.tunnelId ∧
        next.interval = htonl held.interval := by
    obtain ⟨next, taken, copied, interval⟩ :=
      ResvHop.relay_interval ((takes hop member).of_same same)
    exact ⟨next, taken, copied.trans same, interval⟩
  obtain ⟨q, run, _, interval⟩ := runEvents_iterate step rfl
  exact ⟨q, run, interval⟩

def PathHop.fresh : PathHop :=
  { sender := .isolated 0
    ipHeader := List.replicate ipHeaderLen 0x45
    env := .toward (some ⟨3⟩) 0
    table := .null }

def ResvHop.fresh : ResvHop :=
  { sender := .isolated 0
    ipHeader := List.replicate ipHeaderLen 0x45
    env := .isolated 0
    table := .null
    pNhip := ⟨2⟩
    labelBitmap := .empty }

/-- Behind one router, an interval of 30 is 503316480. -/
theorem interval_reversed :
    (runEvents PathHop.relay
        { (default : PathMsg) with tunnelId := 1, interval := 30 }
        [.fresh]).map PathMsg.interval = some 503316480 ∧
      (runEvents ResvHop.relay
        { (default : ResvMsg) with tunnelId := 1, interval := 30 }
        [.fresh]).map ResvMsg.interval = some 503316480 ∧
      (503316480 : U32) ≠ 30 := by
  decide +kernel

/-- A chain of routers keeps the interval, in the last record and on the wire
behind it, exactly when it has an even number of routers or the interval reads
the same in both byte orders. -/
theorem interval_kept_iff (p : PathMsg) (r : ResvMsg)
    (pathHops : List PathHop) (resvHops : List ResvHop)
    (pathTakes : ∀ hop ∈ pathHops, hop.Takes p)
    (resvTakes : ∀ hop ∈ resvHops, hop.Takes r) :
    (∃ q, runEvents PathHop.relay p pathHops = some q ∧
      ((q.interval = p.interval ∧ ∀ ingress router,
          (pathSend router q).2.timeObj.interval =
            (pathSend ingress p).2.timeObj.interval) ↔
        pathHops.length % 2 = 0 ∨ htonl p.interval = p.interval)) ∧
    ∃ q, runEvents ResvHop.relay r resvHops = some q ∧
      ((q.interval = r.interval ∧ ∀ egress router,
          (resvSend router q).2.timeObj.interval =
            (resvSend egress r).2.timeObj.interval) ↔
        resvHops.length % 2 = 0 ∨ htonl r.interval = r.interval) := by
  obtain ⟨q, pathRun, pathInterval⟩ := relayed_path pathTakes
  obtain ⟨q', resvRun, resvInterval⟩ := relayed_resv resvTakes
  refine ⟨⟨q, pathRun, ?_⟩, q', resvRun, ?_⟩
  · rw [← htonl_iterate_eq_iff, ← pathInterval]
    exact and_iff_left_of_imp fun same _ _ => congrArg htonl same
  · rw [← htonl_iterate_eq_iff, ← resvInterval]
    exact and_iff_left_of_imp fun same _ _ => congrArg htonl same

/-- Two routers give both intervals back. -/
theorem interval_kept_two :
    (∃ q, runEvents PathHop.relay
        { (default : PathMsg) with tunnelId := 1, interval := 30 }
        (List.replicate 2 .fresh) = some q ∧ q.interval = 30) ∧
      ∃ q, runEvents ResvHop.relay
        { (default : ResvMsg) with tunnelId := 1, interval := 30 }
        (List.replicate 2 .fresh) = some q ∧ q.interval = 30 := by
  obtain ⟨⟨q, pathRun, pathKept⟩, q', resvRun, resvKept⟩ :=
    interval_kept_iff
      { (default : PathMsg) with tunnelId := 1, interval := 30 }
      { (default : ResvMsg) with tunnelId := 1, interval := 30 }
      (List.replicate 2 .fresh) (List.replicate 2 .fresh)
      (by
        intro hop member
        rw [List.eq_of_mem_replicate member]
        exact ⟨List.length_replicate, by decide, rfl, rfl⟩)
      (by
        intro hop member
        rw [List.eq_of_mem_replicate member]
        exact ⟨List.length_replicate, rfl, rfl⟩)
  exact ⟨⟨q, pathRun, (pathKept.mpr (.inl rfl)).1⟩,
    q', resvRun, (resvKept.mpr (.inl rfl)).1⟩

end Rsvpd
