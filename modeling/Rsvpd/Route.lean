import Rsvpd.Record
import Mathlib.Algebra.GroupWithZero.Nat

/-!
# Route lookups over netlink

The lookups of `route_dump.c`.  A dump datagram is the list of messages that
the `NLMSG_OK` / `NLMSG_NEXT` walk visits, each with the fields and
attributes that `print_route` reads.  The strings `" "` that stand for a
missing address are `none`.
-/

namespace Rsvpd

/-- One netlink message of a dump.  `NLMSG_OK` admits no message shorter than
its own header of 16 bytes. -/
structure NlMsg where
  nlmsgLen : Nat
  headerFits : 16 ≤ nlmsgLen
  nlmsgType : U16
  nlmsgFlags : U16
  rtmFamily : U8
  rtmDstLen : U8
  rtmTable : U8
  rtmType : U8
  rtaTable : Option U32
  rtaDst : Option InAddr
  rtaGateway : Option InAddr
  rtaOif : Option U32
  rtaPrefsrc : Option InAddr

/-- The bytes a message takes in the datagram, `NLMSG_ALIGN(nlmsg_len)`. -/
def NlMsg.alignedLen (h : NlMsg) : Nat := (h.nlmsgLen + 3) / 4 * 4

def nlmFDumpIntr : U16 := 0x10
def nlmsgError : U16 := 2
def afInet : U8 := 2
def rtTableMain : U32 := 254
def rtnUnicast : U8 := 1
def rtnLocal : U8 := 2

/-- `NLMSG_LENGTH(sizeof(struct rtmsg))`. -/
def nlmsgLengthRtmsg : Nat := 28

/-- The file-level variables of `route_dump.c`. -/
structure RouteGlobals where
  destIp : InAddr
  srcIp : Option InAddr
  nh : Option InAddr
  dev : String
  ifh : U32
  prefixLen : U8

/-- The mask that two files build from a prefix length, in network order.  For
the empty prefix the C shift by 32 is undefined; here it gives the empty mask,
and any mask gives the same answer for the network of a default route. -/
def prefixMask (prefixLen : U8) : U32 :=
  htonl (~~~((1#32 <<< (32 - prefixLen.toNat)) - 1))

def isIpInSubnet (ip subnet : InAddr) (prefixLen : U8) : Int :=
  let mask := prefixMask prefixLen
  if subnet.sAddr &&& mask = 0 then 2
  else if ip.sAddr &&& mask = subnet.sAddr &&& mask then 1
  else 0

def rtmGetTable (h : NlMsg) : U32 :=
  h.rtaTable.getD (h.rtmTable.setWidth 32)

/-- The string `route` that `print_route` builds. -/
def routeText (h : NlMsg) : Option InAddr :=
  match h.rtaDst with
  | some network => some network
  | none => if h.rtmDstLen ≠ 0 then none else some .any

def routePrefixLen (h : NlMsg) : U8 :=
  if h.rtaDst.isSome then h.rtmDstLen else 0

section

-- The kernel's interface names, where every `RTA_OIF` of a dump has one, and
-- what `subnet_addr` holds when `inet_pton` rejects the string `" "`.
variable (ifIndextoname : U32 → String) (stackAddr : InAddr)

/-- `print_route`: 1 when the route matches `dest_ip`, else 0. -/
def printRoute (h : NlMsg) (g : RouteGlobals) : Int × RouteGlobals :=
  if h.nlmsgLen < nlmsgLengthRtmsg then (0, g)
  else
    let g := { g with nh := none, srcIp := none, dev := " ",
                      prefixLen := 0, ifh := 0 }
    if h.rtmFamily ≠ afInet ∧ rtmGetTable h ≠ rtTableMain then (0, g)
    else if h.rtmType ≠ rtnLocal ∧ h.rtmType ≠ rtnUnicast then (0, g)
    else
      let g := { g with prefixLen := routePrefixLen h, nh := h.rtaGateway }
      let g := match h.rtaOif with
        | some ifidx => { g with ifh := ifidx, dev := ifIndextoname ifidx }
        | none => g
      let g := { g with srcIp := h.rtaPrefsrc }
      let subnet := (routeText h).getD stackAddr
      if isIpInSubnet g.destIp subnet g.prefixLen = 1 then (1, g) else (0, g)

/-- What `rtnl_recvmsg` gives: a negative status, or a datagram. -/
inductive DumpReply where
  | failed (status : Int) (negative : status < 0)
  | datagram (messages : List NlMsg)

/-- The message walk of `get_route_dump_response`; `status` is the byte count
that `rtnl_recvmsg` returned.  The `free` calls are left out: those behind an
`NLMSG_ERROR` and a failed receive free what they may not. -/
def dumpLoop (status : Int) : List NlMsg → RouteGlobals → Int × RouteGlobals
  | [], g => (status, g)
  | h :: rest, g =>
      if h.nlmsgFlags &&& nlmFDumpIntr ≠ 0 then (-1, g)
      else
        let (found, g) := printRoute ifIndextoname stackAddr h g
        if found ≠ 0 then (1, g) else dumpLoop status rest g

def getRouteDumpResponse (reply : DumpReply) (g : RouteGlobals) :
    Int × RouteGlobals :=
  match reply with
  | .failed status _ => (status, g)
  | .datagram messages =>
      let status : Int := ((messages.map NlMsg.alignedLen).sum : Nat)
      dumpLoop ifIndextoname stackAddr status messages g

/-- How one lookup fares on the netlink socket. -/
inductive NetlinkOutcome where
  | requestFailed
  | reply (reply : DumpReply)

/-- The return value of `get_nexthop` with the variables it fills. -/
structure NexthopAnswer where
  ret : Int
  nhip : Option InAddr
  prefixLen : U8
  dev : String
  ifh : U32

/-- `get_nexthop`; `caller` holds the caller's variables before the call. -/
def getNexthop (outcome : NetlinkOutcome) (caller : NexthopAnswer)
    (dstIp : InAddr) (g : RouteGlobals) : NexthopAnswer × RouteGlobals :=
  let g := { g with destIp := dstIp }
  match outcome with
  | .requestFailed => ({ caller with ret := -1 }, g)
  | .reply reply =>
      let (temp, g) := getRouteDumpResponse ifIndextoname stackAddr reply g
      ({ ret := if temp ≠ 0 then 1 else 0
         nhip := g.nh
         prefixLen := g.prefixLen
         dev := g.dev
         ifh := g.ifh }, g)

end

/-- The return value of `get_srcip` with the variables it fills. -/
structure SrcipAnswer where
  ret : Int
  srcip : Option InAddr
  ifh : U32

/-- `get_srcip`; `caller` holds the caller's variables before the call. -/
def getSrcip (ifIndextoname : U32 → String) (stackAddr : InAddr)
    (outcome : NetlinkOutcome) (caller : SrcipAnswer) (nhip : InAddr)
    (g : RouteGlobals) : SrcipAnswer × RouteGlobals :=
  let g := { g with destIp := nhip }
  match outcome with
  | .requestFailed => ({ caller with ret := -1 }, g)
  | .reply reply =>
      let (temp, g) := getRouteDumpResponse ifIndextoname stackAddr reply g
      ({ ret := if temp ≠ 0 then 1 else 0
         srcip := g.srcIp
         ifh := g.ifh }, g)

/-- `dst_reached` on the answer of its lookup. -/
def dstReached (answer : NexthopAnswer) : Int :=
  if answer.ret ≠ 0 then
    match answer.nhip with
    | none => 1
    | some _ => 0
  else -1

theorem dstReached_ne {answer : NexthopAnswer} (routed : answer.ret ≠ 0) :
    dstReached answer ≠ -1 := by
  rw [dstReached, if_pos routed]
  split <;> decide

/-- The test by which `print_route` takes a route for the destination. -/
def routeCovers (stackAddr dstIp : InAddr) (h : NlMsg) : Bool :=
  decide (nlmsgLengthRtmsg ≤ h.nlmsgLen) &&
    (h.rtmFamily == afInet || rtmGetTable h == rtTableMain) &&
    (h.rtmType == rtnLocal || h.rtmType == rtnUnicast) &&
    isIpInSubnet dstIp ((routeText h).getD stackAddr) (routePrefixLen h) == 1

theorem printRoute_destIp (ifIndextoname : U32 → String) (stackAddr : InAddr)
    (h : NlMsg) (g : RouteGlobals) :
    (printRoute ifIndextoname stackAddr h g).2.destIp = g.destIp := by
  unfold printRoute
  cases h.rtaOif <;> simp only <;> split_ifs <;> rfl

theorem printRoute_ret (ifIndextoname : U32 → String) (stackAddr : InAddr)
    (h : NlMsg) (g : RouteGlobals) :
    (printRoute ifIndextoname stackAddr h g).1 =
      if routeCovers stackAddr g.destIp h then 1 else 0 := by
  unfold printRoute routeCovers
  by_cases short : h.nlmsgLen < nlmsgLengthRtmsg
  · simp [short, Nat.not_le.mpr short]
  · have long : nlmsgLengthRtmsg ≤ h.nlmsgLen := Nat.le_of_not_lt short
    by_cases table : h.rtmFamily ≠ afInet ∧ rtmGetTable h ≠ rtTableMain
    · simp [short, table]
    · by_cases kind : h.rtmType ≠ rtnLocal ∧ h.rtmType ≠ rtnUnicast
      · simp [short, table, kind]
      · have tableOk : (h.rtmFamily == afInet ||
            rtmGetTable h == rtTableMain) = true := by
          by_contra wrong
          simp at wrong
          exact table wrong
        have kindOk : (h.rtmType == rtnLocal ||
            h.rtmType == rtnUnicast) = true := by
          by_contra wrong
          simp at wrong
          exact kind wrong
        cases h.rtaOif <;>
          simp only [short, long, table, kind, tableOk, kindOk, if_false,
            decide_true, Bool.true_and, beq_iff_eq] <;>
          split_ifs <;> rfl

end Rsvpd
