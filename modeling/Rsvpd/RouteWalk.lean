import Rsvpd.Lib.Prefix
import Rsvpd.RouteFound

/-!
# The walk over a dump of IPv4 routes

On the routes that the kernel dumps, the subnet test of `print_route` is the
comparison of address prefixes, except that it takes no route to a zero
network.  The walk stops at the first route that it takes; otherwise it leaves
behind what the last route wrote.
-/

namespace Rsvpd

theorem htonl_and (x y : U32) : htonl (x &&& y) = htonl x &&& htonl y := by
  simp only [htonl, BitVec.extractLsb'_and, ← BitVec.and_append]

theorem htonl_injective {x y : U32} (same : htonl x = htonl y) : x = y := by
  rw [← htonl_htonl x, same, htonl_htonl]

theorem prefixMask_eq (prefixLen : U8) :
    prefixMask prefixLen = htonl (Prefix.mask 32 prefixLen.toNat) := rfl

theorem and_prefixMask_eq_iff (prefixLen : U8) (x y : U32) :
    x &&& prefixMask prefixLen = y &&& prefixMask prefixLen ↔
      Prefix.Shared prefixLen.toNat (ntohl x) (ntohl y) := by
  rw [← Prefix.and_mask_eq_iff, prefixMask_eq, ← htonl_htonl x,
    ← htonl_htonl y, ← htonl_and, ← htonl_and]
  simp only [ntohl, htonl_htonl]
  exact ⟨htonl_injective, congrArg htonl⟩

def rtmNewroute : U16 := 24

/-- The network of a route; a default route has no `RTA_DST`. -/
def NlMsg.network (h : NlMsg) : InAddr := h.rtaDst.getD .any

/-- A whole `RTM_NEWROUTE` message of an IPv4 route, with `RTA_DST` exactly
for a prefix that is not empty. -/
structure NlMsg.Ipv4Route (h : NlMsg) : Prop where
  whole : nlmsgLengthRtmsg ≤ h.nlmsgLen
  isRoute : h.nlmsgType = rtmNewroute
  ipv4 : h.rtmFamily = afInet
  lengthLe : h.rtmDstLen.toNat ≤ 32
  destination : h.rtaDst.isSome ↔ h.rtmDstLen ≠ 0

/-- What `print_route` and the walk behind it can follow: no error, whose
datagram is freed, no address of another family, for which the arrays have no
room, and no interface without a name, which `strcpy` would read from
`NULL`. -/
structure NlMsg.Followed (ifIndextoname : U32 → Option String) (h : NlMsg) :
    Prop where
  type : h.nlmsgType ≠ nlmsgError
  family : h.rtmFamily = afInet
  lengthLe : h.rtmDstLen.toNat ≤ 32
  named : ∀ ifidx ∈ h.rtaOif, (ifIndextoname ifidx).isSome

/-- The message does not carry the mark of an interrupted dump. -/
def NlMsg.Calm (h : NlMsg) : Prop := h.nlmsgFlags &&& nlmFDumpIntr = 0

instance : DecidablePred NlMsg.Calm := fun _ =>
  inferInstanceAs (Decidable (_ = _))

/-- An IPv4 route as the kernel writes it: a whole `RTM_NEWROUTE` message of
an undisturbed dump, with `RTA_DST` exactly for a prefix that is not empty, no
bits of the network outside the prefix, and no blank gateway. -/
structure NlMsg.WellFormed (h : NlMsg) : Prop where
  whole : nlmsgLengthRtmsg ≤ h.nlmsgLen
  isRoute : h.nlmsgType = rtmNewroute
  calm : h.nlmsgFlags &&& nlmFDumpIntr = 0
  ipv4 : h.rtmFamily = afInet
  lengthLe : h.rtmDstLen.toNat ≤ 32
  destination : h.rtaDst.isSome ↔ h.rtmDstLen ≠ 0
  network : h.network.sAddr &&& prefixMask h.rtmDstLen = h.network.sAddr
  gateway : h.rtaGateway ≠ some .any

theorem NlMsg.WellFormed.ipv4Route {h : NlMsg} (formed : h.WellFormed) :
    h.Ipv4Route :=
  ⟨formed.whole, formed.isRoute, formed.ipv4, formed.lengthLe,
    formed.destination⟩

/-- The route covers the address. -/
def NlMsg.Covers (dstIp : InAddr) (h : NlMsg) : Prop :=
  Prefix.Shared h.rtmDstLen.toNat (ntohl dstIp.sAddr) (ntohl h.network.sAddr)

instance (dstIp : InAddr) : DecidablePred (NlMsg.Covers dstIp) := fun _ =>
  decidable_of_iff _ (and_prefixMask_eq_iff _ _ _)

/-- A route of a type that `print_route` reads. -/
def NlMsg.Forwards (h : NlMsg) : Prop :=
  h.rtmType = rtnLocal ∨ h.rtmType = rtnUnicast

instance : DecidablePred NlMsg.Forwards := fun _ =>
  inferInstanceAs (Decidable (_ ∨ _))

/-- A route that the walk stops at. -/
def NlMsg.Taken (dstIp : InAddr) (h : NlMsg) : Prop :=
  h.Forwards ∧ h.Covers dstIp ∧ h.network ≠ .any

instance (dstIp : InAddr) : DecidablePred (NlMsg.Taken dstIp) := fun _ =>
  inferInstanceAs (Decidable (_ ∧ _))

/-- The test by which `print_route` takes a route of its own kinds. -/
def NlMsg.Matches (dstIp : InAddr) (h : NlMsg) : Prop :=
  h.Forwards ∧ isIpInSubnet dstIp h.network h.rtmDstLen = 1

instance (dstIp : InAddr) : DecidablePred (NlMsg.Matches dstIp) := fun _ =>
  inferInstanceAs (Decidable (_ ∧ _))

section Ipv4Route

variable {h : NlMsg} (route : h.Ipv4Route) (stackAddr dstIp : InAddr)

include route

theorem NlMsg.Ipv4Route.routeText :
    (routeText h).getD stackAddr = h.network := by
  have destination := route.destination
  unfold Rsvpd.routeText NlMsg.network
  cases dst : h.rtaDst with
  | some network => rfl
  | none =>
      rw [dst] at destination
      have empty : h.rtmDstLen = 0 := by simpa using destination
      simp [empty]

theorem NlMsg.Ipv4Route.routePrefixLen :
    routePrefixLen h = h.rtmDstLen := by
  have destination := route.destination
  unfold Rsvpd.routePrefixLen
  split
  case isTrue => rfl
  case isFalse none =>
    by_contra nonempty
    exact none (destination.mpr (Ne.symm nonempty))

theorem NlMsg.Ipv4Route.routeCovers_iff :
    routeCovers stackAddr dstIp h = true ↔ h.Matches dstIp := by
  simp only [routeCovers, Bool.and_eq_true, Bool.or_eq_true, beq_iff_eq,
    decide_eq_true_eq, route.routeText, route.routePrefixLen,
    route.whole, route.ipv4, true_or, true_and]
  rfl

end Ipv4Route

section WellFormed

variable {h : NlMsg} (formed : h.WellFormed) (stackAddr dstIp : InAddr)

include formed

theorem NlMsg.WellFormed.isIpInSubnet_iff :
    isIpInSubnet dstIp h.network h.rtmDstLen = 1 ↔
      h.Covers dstIp ∧ h.network ≠ .any := by
  have zero : h.network.sAddr &&& prefixMask h.rtmDstLen = 0 ↔
      h.network = .any := by
    rw [formed.network]
    exact ⟨congrArg InAddr.mk, congrArg InAddr.sAddr⟩
  have covers : dstIp.sAddr &&& prefixMask h.rtmDstLen =
      h.network.sAddr &&& prefixMask h.rtmDstLen ↔ h.Covers dstIp :=
    and_prefixMask_eq_iff _ _ _
  simp only [isIpInSubnet, zero, covers]
  split_ifs with blank shared
  · simp [blank]
  · simp [shared, blank]
  · simp [shared]

theorem NlMsg.WellFormed.matches_iff :
    h.Matches dstIp ↔ h.Taken dstIp :=
  and_congr_right fun _ => formed.isIpInSubnet_iff dstIp

theorem NlMsg.WellFormed.routeCovers_iff :
    routeCovers stackAddr dstIp h = true ↔ h.Taken dstIp :=
  (formed.ipv4Route.routeCovers_iff stackAddr dstIp).trans
    (formed.matches_iff dstIp)

end WellFormed

/-- The interface name that `print_route` stores for a route. -/
def NlMsg.device (ifIndextoname : U32 → String) (h : NlMsg) : String :=
  (h.rtaOif.map ifIndextoname).getD " "

/-- The answer that a route stands for. -/
def NlMsg.answer (ifIndextoname : U32 → String) (h : NlMsg) :
    NexthopAnswer :=
  { ret := 1
    nhip := h.rtaGateway
    prefixLen := h.rtmDstLen
    dev := h.device ifIndextoname
    ifh := h.rtaOif.getD 0 }

/-- The names of the interfaces that have one. -/
def nameOf (ifIndextoname : U32 → Option String) (ifidx : U32) : String :=
  (ifIndextoname ifidx).getD " "

/-- What `print_route` leaves of a message that it reads. -/
def routeRead (ifIndextoname : U32 → String) (h : NlMsg)
    (g : RouteGlobals) : RouteGlobals :=
  { g with nh := h.rtaGateway
           srcIp := h.rtaPrefsrc
           dev := h.device ifIndextoname
           ifh := h.rtaOif.getD 0
           prefixLen := routePrefixLen h }

theorem printRoute_eq_routeRead {ifIndextoname : U32 → String}
    (stackAddr : InAddr) {h : NlMsg} {g : RouteGlobals}
    (long : ¬h.nlmsgLen < nlmsgLengthRtmsg) (family : h.rtmFamily = afInet)
    (kind : ¬(h.rtmType ≠ rtnLocal ∧ h.rtmType ≠ rtnUnicast)) :
    printRoute ifIndextoname stackAddr h g =
      (if isIpInSubnet g.destIp ((routeText h).getD stackAddr)
          (routePrefixLen h) = 1 then 1 else 0,
        routeRead ifIndextoname h g) := by
  simp only [printRoute, if_neg long, family, ne_eq, not_true_eq_false,
    false_and, if_false, if_neg kind, routeRead, NlMsg.device]
  cases h.rtaOif <;> simp only [Option.map_none, Option.map_some,
    Option.getD_none, Option.getD_some] <;> split <;> rfl

section Print

variable (ifIndextoname : U32 → String) (stackAddr : InAddr) {h : NlMsg}
  (route : h.Ipv4Route) (g : RouteGlobals)

include route

theorem printRoute_reads (forwards : h.Forwards) :
    (printRoute ifIndextoname stackAddr h g).2 =
      { g with nh := h.rtaGateway
               srcIp := h.rtaPrefsrc
               dev := h.device ifIndextoname
               ifh := h.rtaOif.getD 0
               prefixLen := h.rtmDstLen } := by
  have whole : ¬h.nlmsgLen < nlmsgLengthRtmsg := Nat.not_lt.mpr route.whole
  have read : ¬(h.rtmType ≠ rtnLocal ∧ h.rtmType ≠ rtnUnicast) :=
    fun neither => forwards.elim neither.1 neither.2
  rw [printRoute_eq_routeRead stackAddr whole route.ipv4 read, routeRead,
    route.routePrefixLen]

theorem printRoute_skips (other : ¬h.Forwards) :
    (printRoute ifIndextoname stackAddr h g).2 =
      { g with nh := none, srcIp := none, dev := " ", prefixLen := 0,
               ifh := 0 } := by
  have whole : ¬h.nlmsgLen < nlmsgLengthRtmsg := Nat.not_lt.mpr route.whole
  have skipped : h.rtmType ≠ rtnLocal ∧ h.rtmType ≠ rtnUnicast :=
    not_or.mp other
  simp only [printRoute, whole, route.ipv4, ne_eq, not_true_eq_false,
    false_and, if_false, if_pos skipped]

theorem printRoute_nh :
    (printRoute ifIndextoname stackAddr h g).2.nh =
      if h.Forwards then h.rtaGateway else none := by
  split
  case isTrue forwards =>
    rw [printRoute_reads ifIndextoname stackAddr route g forwards]
  case isFalse other =>
    rw [printRoute_skips ifIndextoname stackAddr route g other]

end Print

section Walk

variable (ifIndextoname : U32 → String) (stackAddr : InAddr) (status : Int)
  {front : List NlMsg} {h : NlMsg} (g : RouteGlobals)

theorem dumpLoop_step (calm : h.Calm) (rest : List NlMsg) :
    dumpLoop ifIndextoname stackAddr status (h :: rest) g =
      if routeCovers stackAddr g.destIp h then
        (1, (printRoute ifIndextoname stackAddr h g).2)
      else
        dumpLoop ifIndextoname stackAddr status rest
          (printRoute ifIndextoname stackAddr h g).2 := by
  have calm : ¬h.nlmsgFlags &&& nlmFDumpIntr ≠ 0 := not_not.mpr calm
  rw [dumpLoop, if_neg calm]
  simp only [printRoute_ret]
  split_ifs with taken found found
  · rfl
  · simp at found
  · simp at found
  · rfl

theorem dumpLoop_skip (calm : ∀ h ∈ front, h.Calm)
    (missed : ∀ h ∈ front, routeCovers stackAddr g.destIp h = false)
    (rest : List NlMsg) :
    ∃ g' : RouteGlobals, g'.destIp = g.destIp ∧
      dumpLoop ifIndextoname stackAddr status (front ++ rest) g =
        dumpLoop ifIndextoname stackAddr status rest g' := by
  induction front generalizing g with
  | nil => exact ⟨g, rfl, rfl⟩
  | cons h front ih =>
      obtain ⟨calmHead, calmTail⟩ := List.forall_mem_cons.mp calm
      obtain ⟨missedHead, missedTail⟩ := List.forall_mem_cons.mp missed
      have kept := printRoute_destIp ifIndextoname stackAddr h g
      obtain ⟨g', same, walked⟩ := ih
        (printRoute ifIndextoname stackAddr h g).2 calmTail
        (by rwa [kept])
      refine ⟨g', same.trans kept, ?_⟩
      rw [List.cons_append, dumpLoop_step ifIndextoname stackAddr status g
        calmHead, if_neg (by simp [missedHead]), walked]

/-- The first message that the walk takes ends it, with the fields of that
message in the global variables. -/
theorem dumpLoop_first (calm : ∀ m ∈ front, m.Calm)
    (missed : ∀ m ∈ front, routeCovers stackAddr g.destIp m = false)
    (route : h.Ipv4Route) (calmHere : h.Calm) (matched : h.Matches g.destIp)
    (back : List NlMsg) :
    dumpLoop ifIndextoname stackAddr status (front ++ h :: back) g =
      (1, { destIp := g.destIp
            srcIp := h.rtaPrefsrc
            nh := h.rtaGateway
            dev := h.device ifIndextoname
            ifh := h.rtaOif.getD 0
            prefixLen := h.rtmDstLen }) := by
  obtain ⟨g', same, walked⟩ := dumpLoop_skip ifIndextoname stackAddr status g
    calm missed (h :: back)
  have covers : routeCovers stackAddr g'.destIp h = true := by
    rw [same]
    exact (route.routeCovers_iff stackAddr g.destIp).mpr matched
  rw [walked, dumpLoop_step ifIndextoname stackAddr status g' calmHere,
    if_pos covers,
    printRoute_reads ifIndextoname stackAddr route g' matched.1, same]

end Walk

theorem NlMsg.Ipv4Route.not_routeCovers {front : List NlMsg}
    {dstIp : InAddr} (routes : ∀ m ∈ front, m.Ipv4Route)
    (missed : ∀ m ∈ front, ¬m.Matches dstIp) (stackAddr : InAddr) :
    ∀ m ∈ front, routeCovers stackAddr dstIp m = false := by
  intro m member
  rw [Bool.eq_false_iff]
  exact mt ((routes m member).routeCovers_iff stackAddr dstIp).mp
    (missed m member)

theorem NlMsg.WellFormed.not_routeCovers {front : List NlMsg}
    {dstIp : InAddr} (formed : ∀ m ∈ front, m.WellFormed)
    (missed : ∀ m ∈ front, ¬m.Taken dstIp) (stackAddr : InAddr) :
    ∀ m ∈ front, routeCovers stackAddr dstIp m = false :=
  NlMsg.Ipv4Route.not_routeCovers
    (fun m member => (formed m member).ipv4Route)
    (fun m member =>
      mt ((formed m member).matches_iff dstIp).mp (missed m member))
    stackAddr

theorem exists_first_taken {messages : List NlMsg} {dstIp : InAddr}
    (taken : ∃ h ∈ messages, h.Taken dstIp) :
    ∃ front h back, messages = front ++ h :: back ∧ h.Taken dstIp ∧
      ∀ earlier ∈ front, ¬earlier.Taken dstIp := by
  obtain ⟨some, member, here⟩ := taken
  obtain ⟨h, front, back, missed, first, shape, _⟩ :=
    List.exists_of_eraseP (p := fun h : NlMsg => decide (h.Taken dstIp))
      member (decide_eq_true here)
  exact ⟨front, h, back, shape, of_decide_eq_true first,
    fun earlier member => by simpa using missed earlier member⟩

section Lookup

variable (ifIndextoname : U32 → String) (stackAddr : InAddr)
  (caller : NexthopAnswer) (dstIp : InAddr) (g : RouteGlobals)
  {front back : List NlMsg} {h : NlMsg}

theorem getNexthop_taken (formed : ∀ h ∈ front, h.WellFormed)
    (missed : ∀ h ∈ front, ¬h.Taken dstIp) (formedHere : h.WellFormed)
    (taken : h.Taken dstIp) :
    (getNexthop ifIndextoname stackAddr
      (.reply (.datagram (front ++ h :: back))) caller dstIp g).1 =
        h.answer ifIndextoname := by
  have response := dumpLoop_first ifIndextoname stackAddr
    (((front ++ h :: back).map NlMsg.alignedLen).sum : Nat)
    { g with destIp := dstIp } (fun m member => (formed m member).calm)
    (NlMsg.WellFormed.not_routeCovers formed missed stackAddr)
    formedHere.ipv4Route formedHere.calm
    ((formedHere.matches_iff dstIp).mpr taken) back
  simp only [getNexthop, getRouteDumpResponse, response]
  rfl

/-- Without such a route the answer reports a route all the same, with the
next hop of the last one. -/
theorem getNexthop_missed (formed : ∀ h ∈ front, h.WellFormed)
    (missed : ∀ h ∈ front, ¬h.Taken dstIp) (formedHere : h.WellFormed)
    (missedHere : ¬h.Taken dstIp) :
    (getNexthop ifIndextoname stackAddr
      (.reply (.datagram (front ++ [h]))) caller dstIp g).1.nhip =
        if h.Forwards then h.rtaGateway else none := by
  obtain ⟨g', same, walked⟩ := dumpLoop_skip ifIndextoname stackAddr
    (((front ++ [h]).map NlMsg.alignedLen).sum : Nat)
    { g with destIp := dstIp } (fun m member => (formed m member).calm)
    (NlMsg.WellFormed.not_routeCovers formed missed stackAddr) [h]
  have missed : routeCovers stackAddr g'.destIp h = false := by
    rw [same, Bool.eq_false_iff]
    exact mt (formedHere.routeCovers_iff stackAddr dstIp).mp missedHere
  have response := walked.trans
    (dumpLoop_step ifIndextoname stackAddr _ g' formedHere.calm [])
  rw [if_neg (by simp [missed]), dumpLoop] at response
  rw [← printRoute_nh ifIndextoname stackAddr formedHere.ipv4Route g']
  simp only [getNexthop, getRouteDumpResponse, response]

end Lookup

/-- A unicast route to `10.1.0.0/16` over another interface. -/
def tenOneNetwork : NlMsg :=
  { tenNetwork with
    rtmDstLen := 16
    rtaDst := some ⟨htonl 0x0A010000⟩
    rtaGateway := some ⟨htonl 0x0A000002⟩
    rtaOif := some 3 }

theorem tenNetwork_wellFormed : tenNetwork.WellFormed := by
  constructor <;> decide

/-- The interfaces 2 and 3. -/
def sampleNames (ifidx : U32) : Option String :=
  if ifidx = 2 then some "eth0" else if ifidx = 3 then some "eth1" else none

theorem tenOneNetwork_wellFormed : tenOneNetwork.WellFormed := by
  constructor <;> decide

/-- A lookup on a node whose interfaces are all called `eth0`. -/
def sampleLookup (messages : List NlMsg) (dstIp : InAddr) : NexthopAnswer :=
  (getNexthop (fun _ => "eth0") .any (.reply (.datagram messages))
    { ret := 0, nhip := none, prefixLen := 0, dev := "", ifh := 0 } dstIp
    { destIp := .any, srcIp := none, nh := none, dev := "", ifh := 0,
      prefixLen := 0 }).1

end Rsvpd
