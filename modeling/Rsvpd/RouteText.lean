import Rsvpd.AddressText
import Rsvpd.FirstMatch
import Rsvpd.Lib.Transition

/-!
# Route lookups on strings

The lookups of `route_dump.c` with their file-level arrays of 16 bytes, over
datagrams whose messages can be followed: every `strcpy` fits, the arrays
always hold the texts of what `Route` keeps as addresses, and what the callers
read from theirs is what was looked up.
-/

namespace Rsvpd

open CString (Byte Holds strcpy strcmpEqual cLiteral ofString)

/-- The file-level variables of `route_dump.c` as they are declared. -/
structure RouteStrings where
  destIp : List Byte
  srcIp : List Byte
  nh : List Byte
  dev : List Byte
  ifh : U32
  prefixLen : U8

/-- `" "`. -/
def space : List Byte := cLiteral [32]

/-- What `inet_ntop` leaves in `buf`. -/
def ntopString (address : InAddr) : List Byte :=
  cLiteral (inetNtop address).bytes

section Functions

-- What the addresses hold in which `inet_pton` stores nothing, and the array
-- `route` before it is filled.
variable (ifIndextoname : U32 → Option String) (stackIp stackAddr : InAddr)
  (stack : List Byte)

def isIpInSubnetAt (ip subnet : List Byte) (prefixLen : U8) : Option Int := do
  let ip ← CString.read ip
  let subnet ← CString.read subnet
  return isIpInSubnet ((inetPton ip).getD stackIp)
    ((inetPton subnet).getD stackAddr) prefixLen

def clearStrings (s : RouteStrings) : Option RouteStrings := do
  let nh ← strcpy s.nh space
  let srcIp ← strcpy s.srcIp space
  let dev ← strcpy s.dev space
  return { s with nh, srcIp, dev, prefixLen := 0, ifh := 0 }

/-- The array `route` behind the test of `tb[RTA_DST]`. -/
def routeString (h : NlMsg) : Option (List Byte) := do
  let route ← strcpy stack space
  match h.rtaDst with
  | some network => strcpy route (ntopString network)
  | none =>
      if h.rtmDstLen ≠ 0 then return route
      else strcpy route (cLiteral (ofString "0.0.0.0"))

/-- `strcpy` of an address that the message may have. -/
def storeAddress (array : List Byte) : Option InAddr → Option (List Byte)
  | none => some array
  | some address => strcpy array (ntopString address)

/-- The stores of `print_route` for the attributes behind `RTA_DST`. -/
def attributeStrings (h : NlMsg) (s : RouteStrings) :
    Option RouteStrings := do
  let nh ← storeAddress s.nh h.rtaGateway
  let (ifh, dev) ←
    match h.rtaOif with
    | none => some (s.ifh, s.dev)
    | some ifidx => do
        -- `strcpy` reads from `NULL` when the interface has no name.
        let name ← ifIndextoname ifidx
        let dev ← strcpy s.dev (cLiteral (ofString name))
        some (ifidx, dev)
  let srcIp ← storeAddress s.srcIp h.rtaPrefsrc
  return { s with nh, ifh, dev, srcIp }

def printRouteAt (h : NlMsg) (s : RouteStrings) :
    Option (Int × RouteStrings) :=
  if h.nlmsgLen < nlmsgLengthRtmsg then some (0, s)
  else do
    let s ← clearStrings s
    if h.rtmFamily ≠ afInet ∧ rtmGetTable h ≠ rtTableMain then return (0, s)
    else if h.rtmType ≠ rtnLocal ∧ h.rtmType ≠ rtnUnicast then return (0, s)
    -- The arrays have no room for an address of another family.
    else if h.rtmFamily ≠ afInet then none
    else
      let route ← routeString stack h
      let s ← attributeStrings ifIndextoname h
        { s with prefixLen := routePrefixLen h }
      let found ← isIpInSubnetAt stackIp stackAddr s.destIp route s.prefixLen
      return (if found = 1 then 1 else 0, s)

/-- The message walk of `get_route_dump_response`. -/
def dumpLoopAt (status : Int) :
    List NlMsg → RouteStrings → Option (Int × RouteStrings)
  | [], s => some (status, s)
  | h :: rest, s =>
      if h.nlmsgFlags &&& nlmFDumpIntr ≠ 0 then some (-1, s)
      -- The datagram is freed, and the walk goes on in it.
      else if h.nlmsgType = nlmsgError then none
      else do
        let (found, s) ← printRouteAt ifIndextoname stackIp stackAddr stack h s
        if found ≠ 0 then return (1, s) else dumpLoopAt status rest s

def getRouteDumpResponseAt (reply : DumpReply) (s : RouteStrings) :
    Option (Int × RouteStrings) :=
  match reply with
  -- `rtnl_recvmsg` leaves `buf` unset, and it is freed.
  | .failed _ _ => none
  | .datagram messages =>
      let status : Int := ((messages.map NlMsg.alignedLen).sum : Nat)
      dumpLoopAt ifIndextoname stackIp stackAddr stack status messages s

/-- The return value of `get_nexthop` and the arrays of its caller. -/
structure NexthopStrings where
  ret : Int
  nhip : List Byte
  prefixLen : U8
  dev : List Byte
  ifh : U32

/-- `get_nexthop` behind a request that was sent. -/
def getNexthopAt (reply : DumpReply) (caller : NexthopStrings)
    (dstIp : List Byte) (s : RouteStrings) :
    Option (NexthopStrings × RouteStrings) := do
  let destIp ← strcpy s.destIp dstIp
  let (temp, s) ← getRouteDumpResponseAt ifIndextoname stackIp stackAddr stack
    reply { s with destIp }
  let nhip ← strcpy caller.nhip s.nh
  let dev ← strcpy caller.dev s.dev
  return ({ ret := if temp ≠ 0 then 1 else 0, nhip, prefixLen := s.prefixLen,
            dev, ifh := s.ifh }, s)

/-- The return value of `get_srcip` and the array of its caller. -/
structure SrcipStrings where
  ret : Int
  srcip : List Byte
  ifh : U32

/-- `get_srcip` behind a request that was sent. -/
def getSrcipAt (reply : DumpReply) (caller : SrcipStrings)
    (nhip : List Byte) (s : RouteStrings) :
    Option (SrcipStrings × RouteStrings) := do
  let destIp ← strcpy s.destIp nhip
  let (temp, s) ← getRouteDumpResponseAt ifIndextoname stackIp stackAddr stack
    reply { s with destIp }
  let srcip ← strcpy caller.srcip s.srcIp
  return ({ ret := if temp ≠ 0 then 1 else 0, srcip, ifh := s.ifh }, s)

/-- `dst_reached` on what `get_nexthop` left in its arrays. -/
def dstReachedAt (answer : NexthopStrings) : Option Int :=
  if answer.ret ≠ 0 then do
    let same ← strcmpEqual answer.nhip space
    return if same then 1 else 0
  else some (-1)

end Functions

/-- An array of 16 bytes with a text. -/
structure Spells (array text : List Byte) : Prop where
  length : array.length = 16
  holds : Holds array text

theorem strcpy_spells {dest source text : List Byte}
    (length : dest.length = 16) (holds : Holds source text)
    (short : text.length < 16) :
    ∃ dest', strcpy dest source = some dest' ∧ Spells dest' text := by
  obtain ⟨dest', copied, same, holds'⟩ :=
    CString.strcpy_holds holds (length.symm ▸ short)
  exact ⟨dest', copied, same.trans length, holds'⟩

theorem ntopString_holds (address : InAddr) :
    Holds (ntopString address) (addressText (some address)) :=
  .cLiteral (inetNtop address).noZero

theorem space_holds : Holds space (addressText none) :=
  .cLiteral (by decide)

theorem ofString_blank : ofString " " = addressText none := by decide

/-- The arrays hold what the variables of `Route` stand for. -/
structure RouteStrings.Spells (s : RouteStrings) (g : RouteGlobals) :
    Prop where
  destIp : Rsvpd.Spells s.destIp (addressText (some g.destIp))
  srcIp : Rsvpd.Spells s.srcIp (addressText g.srcIp)
  nh : Rsvpd.Spells s.nh (addressText g.nh)
  dev : Rsvpd.Spells s.dev (ofString g.dev)
  ifh : s.ifh = g.ifh
  prefixLen : s.prefixLen = g.prefixLen

/-- Before a lookup only the destination need be spelled. -/
structure RouteStrings.Arrays (s : RouteStrings) (destIp : InAddr) :
    Prop where
  destIp : Rsvpd.Spells s.destIp (addressText (some destIp))
  srcIp : s.srcIp.length = 16
  nh : s.nh.length = 16
  dev : s.dev.length = 16

theorem RouteStrings.Spells.arrays {s : RouteStrings} {g : RouteGlobals}
    (spells : s.Spells g) : s.Arrays g.destIp :=
  ⟨spells.destIp, spells.srcIp.length, spells.nh.length, spells.dev.length⟩

/-- `if_indextoname` gives names of at most 15 bytes. -/
def InterfaceNames (ifIndextoname : U32 → Option String) : Prop :=
  ∀ ifidx, ∀ name ∈ ifIndextoname ifidx,
    0 ∉ ofString name ∧ (ofString name).length < 16

section Spelling

variable {ifIndextoname : U32 → Option String} (stackIp stackAddr : InAddr)
  {stack : List Byte} {s : RouteStrings} {g : RouteGlobals}

theorem clearStrings_spells (arrays : s.Arrays g.destIp) :
    ∃ s', clearStrings s = some s' ∧
      s'.Spells { g with nh := none, srcIp := none, dev := " "
                         prefixLen := 0, ifh := 0 } := by
  obtain ⟨nh, nhCopied, nhSpells⟩ :=
    strcpy_spells arrays.nh space_holds (by decide)
  obtain ⟨srcIp, srcCopied, srcSpells⟩ :=
    strcpy_spells arrays.srcIp space_holds (by decide)
  obtain ⟨dev, devCopied, devSpells⟩ :=
    strcpy_spells arrays.dev space_holds (by decide)
  refine ⟨{ s with nh, srcIp, dev, prefixLen := 0, ifh := 0 }, ?_,
    arrays.destIp, srcSpells, nhSpells, ofString_blank ▸ devSpells, rfl, rfl⟩
  rw [clearStrings, nhCopied, srcCopied, devCopied]
  rfl

theorem storeAddress_spells {array : List Byte}
    (spells : Spells array (addressText none)) (address : Option InAddr) :
    ∃ array', storeAddress array address = some array' ∧
      Spells array' (addressText address) := by
  cases address with
  | none => exact ⟨array, rfl, spells⟩
  | some address =>
      exact strcpy_spells spells.length (ntopString_holds address)
        (length_addressText_lt _)

theorem routeString_spells (length : stack.length = 16) (h : NlMsg) :
    ∃ route, routeString stack h = some route ∧
      Spells route (addressText (routeText h)) := by
  obtain ⟨route, copied, spells⟩ :=
    strcpy_spells length space_holds (by decide)
  unfold routeString routeText
  rw [copied]
  cases h.rtaDst with
  | some network =>
      exact strcpy_spells spells.length (ntopString_holds network)
        (length_addressText_lt _)
  | none =>
      simp only [Option.bind_eq_bind, Option.bind_some]
      split_ifs with default
      · exact ⟨route, rfl, spells⟩
      · exact strcpy_spells spells.length (.cLiteral (by decide))
          (length_addressText_lt (some .any))

theorem attributeStrings_spells (names : InterfaceNames ifIndextoname)
    {h : NlMsg} (followed : h.Followed ifIndextoname) (spells : s.Spells g)
    (noNh : g.nh = none) (noSrcIp : g.srcIp = none) :
    ∃ s', attributeStrings ifIndextoname h s = some s' ∧
      s'.Spells { g with
        nh := h.rtaGateway
        srcIp := h.rtaPrefsrc
        ifh := h.rtaOif.getD g.ifh
        dev := (h.rtaOif.map (nameOf ifIndextoname)).getD g.dev } := by
  obtain ⟨nh, nhCopied, nhSpells⟩ :=
    storeAddress_spells (noNh ▸ spells.nh) h.rtaGateway
  obtain ⟨srcIp, srcCopied, srcSpells⟩ :=
    storeAddress_spells (noSrcIp ▸ spells.srcIp) h.rtaPrefsrc
  unfold attributeStrings
  rw [nhCopied, srcCopied]
  cases out : h.rtaOif with
  | none =>
      exact ⟨_, rfl, spells.destIp, srcSpells, nhSpells, spells.dev,
        spells.ifh, spells.prefixLen⟩
  | some ifidx =>
      obtain ⟨name, named⟩ :=
        Option.isSome_iff_exists.mp (followed.named ifidx out)
      obtain ⟨noZero, short⟩ := names ifidx name named
      obtain ⟨dev, devCopied, devSpells⟩ :=
        strcpy_spells spells.dev.length (.cLiteral noZero) short
      have stored : nameOf ifIndextoname ifidx = name := by
        rw [nameOf, named, Option.getD_some]
      rw [Option.map_some, Option.getD_some, stored]
      refine ⟨{ s with nh, srcIp, dev, ifh := ifidx }, ?_, spells.destIp,
        srcSpells, nhSpells, devSpells, rfl, spells.prefixLen⟩
      simp only [named, devCopied, Option.bind_eq_bind, Option.bind_some,
        Option.pure_def]

theorem isIpInSubnetAt_eq {ip subnet : List Byte} {address : InAddr}
    {network : Option InAddr}
    (ipSpells : Spells ip (addressText (some address)))
    (subnetSpells : Spells subnet (addressText network)) (prefixLen : U8) :
    isIpInSubnetAt stackIp stackAddr ip subnet prefixLen =
      some (isIpInSubnet address (network.getD stackAddr) prefixLen) := by
  rw [isIpInSubnetAt, CString.read_holds ipSpells.holds,
    CString.read_holds subnetSpells.holds]
  simp only [Option.bind_eq_bind, Option.bind_some, inetPton_addressText,
    Option.getD_some, Option.pure_def]

/-- `print_route` on strings does what it does on addresses, and a whole
message overwrites all that was there. -/
theorem printRouteAt_reads (names : InterfaceNames ifIndextoname)
    (length : stack.length = 16) {h : NlMsg}
    (followed : h.Followed ifIndextoname)
    (short : ¬h.nlmsgLen < nlmsgLengthRtmsg) (arrays : s.Arrays g.destIp) :
    ∃ s', printRouteAt ifIndextoname stackIp stackAddr stack h s =
        some ((printRoute (nameOf ifIndextoname) stackAddr h g).1, s') ∧
      s'.Spells (printRoute (nameOf ifIndextoname) stackAddr h g).2 := by
  obtain ⟨cleared, clearing, clear⟩ := clearStrings_spells arrays
  have inet : ¬h.rtmFamily ≠ afInet := not_not.mpr followed.family
  by_cases kind : h.rtmType ≠ rtnLocal ∧ h.rtmType ≠ rtnUnicast
  · refine ⟨cleared, ?_, ?_⟩
    · simp only [printRouteAt, if_neg short, clearing, inet, false_and,
        if_false, if_pos kind, printRoute, Option.bind_eq_bind,
        Option.bind_some]
      rfl
    · simp only [printRoute, if_neg short, inet, false_and, if_false,
        if_pos kind]
      exact clear
  obtain ⟨route, routed, routeSpells⟩ := routeString_spells length h
  have blank : RouteStrings.Spells
      { cleared with prefixLen := routePrefixLen h }
      { g with nh := none, srcIp := none, dev := " ", ifh := 0
               prefixLen := routePrefixLen h } :=
    { clear with prefixLen := rfl }
  obtain ⟨s', stored, spells'⟩ :=
    attributeStrings_spells names followed blank rfl rfl
  have found : isIpInSubnetAt stackIp stackAddr s'.destIp route
      (routePrefixLen h) = some (isIpInSubnet g.destIp
        ((routeText h).getD stackAddr) (routePrefixLen h)) :=
    isIpInSubnetAt_eq stackIp stackAddr spells'.destIp routeSpells _
  rw [printRoute_eq_routeRead stackAddr short followed.family kind]
  refine ⟨s', ?_, spells'⟩
  simp only [printRouteAt, if_neg short, clearing, inet, false_and, if_false,
    if_neg kind, routed, stored, spells'.prefixLen, found,
    Option.bind_eq_bind, Option.bind_some, Option.pure_def]

theorem printRouteAt_spells (names : InterfaceNames ifIndextoname)
    (length : stack.length = 16) {h : NlMsg}
    (followed : h.Followed ifIndextoname) (spells : s.Spells g) :
    ∃ s', printRouteAt ifIndextoname stackIp stackAddr stack h s =
        some ((printRoute (nameOf ifIndextoname) stackAddr h g).1, s') ∧
      s'.Spells (printRoute (nameOf ifIndextoname) stackAddr h g).2 := by
  by_cases short : h.nlmsgLen < nlmsgLengthRtmsg
  · rw [printRouteAt, printRoute, if_pos short, if_pos short]
    exact ⟨s, rfl, spells⟩
  · exact printRouteAt_reads stackIp stackAddr names length followed short
      spells.arrays

theorem dumpLoopAt_spells (names : InterfaceNames ifIndextoname)
    (length : stack.length = 16) (status : Int) {messages : List NlMsg}
    (followed : ∀ h ∈ messages, h.Followed ifIndextoname)
    (spells : s.Spells g) :
    ∃ s', dumpLoopAt ifIndextoname stackIp stackAddr stack status messages s =
        some ((dumpLoop (nameOf ifIndextoname) stackAddr status messages
          g).1, s') ∧
      s'.Spells (dumpLoop (nameOf ifIndextoname) stackAddr status messages
        g).2 := by
  induction messages generalizing s g with
  | nil => exact ⟨s, rfl, spells⟩
  | cons h messages ih =>
      obtain ⟨here, later⟩ := List.forall_mem_cons.mp followed
      obtain ⟨s', printed, spells'⟩ :=
        printRouteAt_spells stackIp stackAddr names length here spells
      rw [dumpLoopAt, dumpLoop, printed, if_neg here.type]
      split_ifs with interrupted
      · exact ⟨s, rfl, spells⟩
      · simp only [Option.bind_eq_bind, Option.bind_some]
        split_ifs with found
        · exact ⟨s', rfl, spells'⟩
        · exact ih later spells'

/-- At a first message that is whole the walk needs nothing of what earlier
lookups left. -/
theorem dumpLoopAt_starts (names : InterfaceNames ifIndextoname)
    (length : stack.length = 16) (status : Int) {h : NlMsg}
    {messages : List NlMsg}
    (followed : ∀ m ∈ h :: messages, m.Followed ifIndextoname)
    (long : ¬h.nlmsgLen < nlmsgLengthRtmsg)
    (calm : h.nlmsgFlags &&& nlmFDumpIntr = 0)
    (arrays : s.Arrays g.destIp) :
    ∃ s', dumpLoopAt ifIndextoname stackIp stackAddr stack status
          (h :: messages) s =
        some ((dumpLoop (nameOf ifIndextoname) stackAddr status
          (h :: messages) g).1, s') ∧
      s'.Spells (dumpLoop (nameOf ifIndextoname) stackAddr status
        (h :: messages) g).2 := by
  obtain ⟨here, later⟩ := List.forall_mem_cons.mp followed
  obtain ⟨s', printed, spells'⟩ :=
    printRouteAt_reads stackIp stackAddr names length here long arrays
  rw [dumpLoopAt, dumpLoop, if_neg (not_not.mpr calm),
    if_neg (not_not.mpr calm), if_neg here.type, printed]
  simp only [Option.bind_eq_bind, Option.bind_some]
  split_ifs with found
  · exact ⟨s', rfl, spells'⟩
  · exact dumpLoopAt_spells stackIp stackAddr names length status later
      spells'

end Spelling

/-- A datagram was received whose messages can be followed. -/
def DumpReply.Followed (ifIndextoname : U32 → Option String) :
    DumpReply → Prop
  | .failed _ _ => False
  | .datagram messages => ∀ h ∈ messages, h.Followed ifIndextoname

/-- A datagram whose first message is read. -/
def DumpReply.Starts : DumpReply → Prop
  | .datagram (h :: _) =>
      ¬h.nlmsgLen < nlmsgLengthRtmsg ∧ h.nlmsgFlags &&& nlmFDumpIntr = 0
  | _ => False

section Lookups

variable {ifIndextoname : U32 → Option String} (stackIp stackAddr : InAddr)
  {stack : List Byte} {s : RouteStrings} {g : RouteGlobals}
  {reply : DumpReply}

theorem getRouteDumpResponseAt_spells (names : InterfaceNames ifIndextoname)
    (length : stack.length = 16) (followed : reply.Followed ifIndextoname)
    (spells : s.Spells g) :
    ∃ s', getRouteDumpResponseAt ifIndextoname stackIp stackAddr stack reply
          s =
        some ((getRouteDumpResponse (nameOf ifIndextoname) stackAddr reply
          g).1, s') ∧
      s'.Spells (getRouteDumpResponse (nameOf ifIndextoname) stackAddr reply
        g).2 := by
  cases reply with
  | failed status negative => exact absurd followed id
  | datagram messages =>
      exact dumpLoopAt_spells stackIp stackAddr names length _ followed spells

/-- The arrays of a caller of `get_nexthop` spell an answer, and what it reads
from them is the answer. -/
structure NexthopStrings.Spells (strings : NexthopStrings)
    (answer : NexthopAnswer) : Prop where
  ret : strings.ret = answer.ret
  nhip : Rsvpd.Spells strings.nhip (addressText answer.nhip)
  prefixLen : strings.prefixLen = answer.prefixLen
  dev : Rsvpd.Spells strings.dev (ofString answer.dev)
  ifh : strings.ifh = answer.ifh

theorem NexthopStrings.Spells.dstReached {strings : NexthopStrings}
    {answer : NexthopAnswer} (spells : strings.Spells answer) :
    dstReachedAt strings = some (dstReached answer) := by
  have same : (addressText answer.nhip == addressText none) =
      answer.nhip.isNone := by
    cases found : answer.nhip with
    | none => rfl
    | some address =>
        refine beq_eq_false_iff_ne.mpr fun equal => ?_
        exact Option.some_ne_none _ (addressText_injective equal)
  have compared := CString.strcmpEqual_holds spells.nhip.holds space_holds
  rw [same] at compared
  rw [dstReachedAt, Rsvpd.dstReached, spells.ret, compared]
  split_ifs
  · cases answer.nhip <;> rfl
  · rfl

theorem Spells.inetPton {array : List Byte} {address : Option InAddr}
    (spells : Spells array (addressText address)) :
    (CString.read array).map inetPton = some address := by
  rw [CString.read_holds spells.holds, Option.map_some, inetPton_addressText]

theorem getRouteDumpResponseAt_starts (names : InterfaceNames ifIndextoname)
    (length : stack.length = 16) (followed : reply.Followed ifIndextoname)
    (starts : reply.Starts) (arrays : s.Arrays g.destIp) :
    ∃ s', getRouteDumpResponseAt ifIndextoname stackIp stackAddr stack reply
          s =
        some ((getRouteDumpResponse (nameOf ifIndextoname) stackAddr reply
          g).1, s') ∧
      s'.Spells (getRouteDumpResponse (nameOf ifIndextoname) stackAddr reply
        g).2 := by
  match reply, starts with
  | .datagram (h :: messages), ⟨long, calm⟩ =>
      exact dumpLoopAt_starts stackIp stackAddr names length _ followed long
        calm arrays

/-- Nothing but the sizes of the arrays. -/
structure RouteStrings.Sized (s : RouteStrings) : Prop where
  destIp : s.destIp.length = 16
  srcIp : s.srcIp.length = 16
  nh : s.nh.length = 16
  dev : s.dev.length = 16

/-- What a lookup needs to find: arrays that spell, or a reply that overwrites
them. -/
def Ready (s : RouteStrings) (g : RouteGlobals) (reply : DumpReply) : Prop :=
  s.Spells g ∨ s.Sized ∧ reply.Starts

theorem lookup_spells (names : InterfaceNames ifIndextoname)
    (length : stack.length = 16) (followed : reply.Followed ifIndextoname)
    (ready : Ready s g reply) {dstIp : List Byte} {address : InAddr}
    (holds : Holds dstIp (addressText (some address))) :
    ∃ destIp s', strcpy s.destIp dstIp = some destIp ∧
      getRouteDumpResponseAt ifIndextoname stackIp stackAddr stack reply
          { s with destIp } =
        some ((getRouteDumpResponse (nameOf ifIndextoname) stackAddr reply
          { g with destIp := address }).1, s') ∧
      s'.Spells (getRouteDumpResponse (nameOf ifIndextoname) stackAddr reply
        { g with destIp := address }).2 := by
  have short := length_addressText_lt (some address)
  rcases ready with spells | ⟨sized, starts⟩
  · obtain ⟨destIp, copied, spelled⟩ :=
      strcpy_spells spells.destIp.length holds short
    have spells' : RouteStrings.Spells { s with destIp }
        { g with destIp := address } := { spells with destIp := spelled }
    obtain ⟨s', run, after⟩ := getRouteDumpResponseAt_spells stackIp stackAddr
      names length followed spells'
    exact ⟨destIp, s', copied, run, after⟩
  · obtain ⟨destIp, copied, spelled⟩ :=
      strcpy_spells sized.destIp holds short
    have arrays : RouteStrings.Arrays { s with destIp } address :=
      ⟨spelled, sized.srcIp, sized.nh, sized.dev⟩
    obtain ⟨s', run, after⟩ := @getRouteDumpResponseAt_starts ifIndextoname
      stackIp stackAddr stack { s with destIp } { g with destIp := address }
      reply names length followed starts arrays
    exact ⟨destIp, s', copied, run, after⟩

theorem getNexthopAt_spells (names : InterfaceNames ifIndextoname)
    (length : stack.length = 16) (followed : reply.Followed ifIndextoname)
    (ready : Ready s g reply) {dstIp : List Byte} {address : InAddr}
    (holds : Holds dstIp (addressText (some address)))
    (caller : NexthopStrings) (nhip : caller.nhip.length = 16)
    (dev : caller.dev.length = 16) (before : NexthopAnswer) :
    ∃ strings s', getNexthopAt ifIndextoname stackIp stackAddr stack reply
          caller dstIp s = some (strings, s') ∧
      strings.Spells (getNexthop (nameOf ifIndextoname) stackAddr (.reply reply)
        before address g).1 ∧
      s'.Spells (getNexthop (nameOf ifIndextoname) stackAddr (.reply reply)
        before address g).2 := by
  obtain ⟨destIp, s', copied, run, spells⟩ :=
    lookup_spells stackIp stackAddr names length followed ready holds
  obtain ⟨nhip', nhCopied, nhSpells⟩ := strcpy_spells nhip spells.nh.holds
    (length_addressText_lt _)
  have devShort := spells.dev.holds.length_lt
  rw [spells.dev.length] at devShort
  obtain ⟨dev', devCopied, devSpells⟩ :=
    strcpy_spells dev spells.dev.holds devShort
  let temp := (getRouteDumpResponse (nameOf ifIndextoname) stackAddr reply
    { g with destIp := address }).1
  refine ⟨⟨if temp ≠ 0 then 1 else 0, nhip', s'.prefixLen, dev', s'.ifh⟩, s',
    ?_, ⟨rfl, nhSpells, spells.prefixLen, devSpells, spells.ifh⟩, spells⟩
  simp only [getNexthopAt, copied, run, nhCopied, devCopied, temp,
    Option.bind_eq_bind, Option.bind_some, Option.pure_def]

structure SrcipStrings.Spells (strings : SrcipStrings)
    (answer : SrcipAnswer) : Prop where
  ret : strings.ret = answer.ret
  srcip : Rsvpd.Spells strings.srcip (addressText answer.srcip)
  ifh : strings.ifh = answer.ifh

theorem getSrcipAt_spells (names : InterfaceNames ifIndextoname)
    (length : stack.length = 16) (followed : reply.Followed ifIndextoname)
    (ready : Ready s g reply) {nhip : List Byte} {address : InAddr}
    (holds : Holds nhip (addressText (some address)))
    (caller : SrcipStrings) (srcip : caller.srcip.length = 16)
    (before : SrcipAnswer) :
    ∃ strings s', getSrcipAt ifIndextoname stackIp stackAddr stack reply
          caller nhip s = some (strings, s') ∧
      strings.Spells (getSrcip (nameOf ifIndextoname) stackAddr (.reply reply)
        before address g).1 ∧
      s'.Spells (getSrcip (nameOf ifIndextoname) stackAddr (.reply reply) before
        address g).2 := by
  obtain ⟨destIp, s', copied, run, spells⟩ :=
    lookup_spells stackIp stackAddr names length followed ready holds
  obtain ⟨srcip', srcCopied, srcSpells⟩ := strcpy_spells srcip
    spells.srcIp.holds (length_addressText_lt _)
  let temp := (getRouteDumpResponse (nameOf ifIndextoname) stackAddr reply
    { g with destIp := address }).1
  refine ⟨⟨if temp ≠ 0 then 1 else 0, srcip', s'.ifh⟩, s', ?_,
    ⟨rfl, srcSpells, spells.ifh⟩, spells⟩
  simp only [getSrcipAt, copied, run, srcCopied, temp, Option.bind_eq_bind,
    Option.bind_some, Option.pure_def]

end Lookups

/-- A call of `get_nexthop` or of `get_srcip`, with the reply to its dump. -/
structure Lookup (ifIndextoname : U32 → Option String) where
  nexthop : Bool
  address : InAddr
  reply : DumpReply
  followed : reply.Followed ifIndextoname

section Runs

variable {ifIndextoname : U32 → Option String} (stackIp stackAddr : InAddr)
  (stack : List Byte)

def Lookup.run (g : RouteGlobals) (lookup : Lookup ifIndextoname) :
    RouteGlobals :=
  if lookup.nexthop then
    (getNexthop (nameOf ifIndextoname) stackAddr (.reply lookup.reply)
      ⟨0, none, 0, "", 0⟩ lookup.address g).2
  else
    (getSrcip (nameOf ifIndextoname) stackAddr (.reply lookup.reply)
      ⟨0, none, 0⟩ lookup.address g).2

def zeros : List Byte := List.replicate 16 0

def Lookup.runAt (s : RouteStrings) (lookup : Lookup ifIndextoname) :
    Option RouteStrings :=
  if lookup.nexthop then
    (getNexthopAt ifIndextoname stackIp stackAddr stack lookup.reply
      ⟨0, zeros, 0, zeros, 0⟩ (ntopString lookup.address) s).map Prod.snd
  else
    (getSrcipAt ifIndextoname stackIp stackAddr stack lookup.reply
      ⟨0, zeros, 0⟩ (ntopString lookup.address) s).map Prod.snd

def RouteStrings.start : RouteStrings := ⟨zeros, zeros, zeros, zeros, 0, 0⟩

variable {stack} {s : RouteStrings} {g : RouteGlobals}
  (names : InterfaceNames ifIndextoname) (length : stack.length = 16)

include names length

theorem Lookup.runAt_spells (lookup : Lookup ifIndextoname)
    (ready : Ready s g lookup.reply) :
    ∃ s', lookup.runAt stackIp stackAddr stack s = some s' ∧
      s'.Spells (lookup.run stackAddr g) := by
  unfold Lookup.runAt Lookup.run
  split_ifs
  · obtain ⟨strings, s', called, _, spells⟩ := getNexthopAt_spells stackIp
      stackAddr names length lookup.followed ready
      (ntopString_holds lookup.address) ⟨0, zeros, 0, zeros, 0⟩ rfl rfl
      ⟨0, none, 0, "", 0⟩
    exact ⟨s', by rw [called, Option.map_some], spells⟩
  · obtain ⟨strings, s', called, _, spells⟩ := getSrcipAt_spells stackIp
      stackAddr names length lookup.followed ready
      (ntopString_holds lookup.address) ⟨0, zeros, 0⟩ rfl ⟨0, none, 0⟩
    exact ⟨s', by rw [called, Option.map_some], spells⟩

theorem runEvents_spells (lookups : List (Lookup ifIndextoname))
    (spells : s.Spells g) :
    ∃ s', Transition.runEvents (Lookup.runAt stackIp stackAddr stack) s
          lookups = some s' ∧
      s'.Spells (lookups.foldl (Lookup.run stackAddr) g) := by
  induction lookups generalizing s g with
  | nil => exact ⟨s, rfl, spells⟩
  | cons lookup lookups ih =>
      obtain ⟨next, taken, spells'⟩ :=
        lookup.runAt_spells stackIp stackAddr names length (.inl spells)
      obtain ⟨s', run, after⟩ := ih spells'
      exact ⟨s', Transition.runEvents_cons.mpr ⟨next, taken, run⟩, after⟩

omit names length in
theorem start_ready {reply : DumpReply} (starts : reply.Starts)
    (g : RouteGlobals) : Ready RouteStrings.start g reply :=
  .inr ⟨⟨rfl, rfl, rfl, rfl⟩, starts⟩

end Runs

/-- What a lookup through the arrays tells its callers is the answer: the
result, what `dst_reached` makes of it, and the address that `inet_pton`
reads. -/
structure Answered (strings : NexthopStrings) (answer : NexthopAnswer) :
    Prop where
  ret : strings.ret = answer.ret
  reached : dstReachedAt strings = some (dstReached answer)
  nhip : (CString.read strings.nhip).map inetPton = some answer.nhip
  prefixLen : strings.prefixLen = answer.prefixLen
  dev : CString.read strings.dev = some (ofString answer.dev)
  ifh : strings.ifh = answer.ifh

theorem NexthopStrings.Spells.answered {strings : NexthopStrings}
    {answer : NexthopAnswer} (spells : strings.Spells answer) :
    Answered strings answer :=
  { ret := spells.ret
    reached := spells.dstReached
    nhip := spells.nhip.inetPton
    prefixLen := spells.prefixLen
    dev := CString.read_holds spells.dev.holds
    ifh := spells.ifh }

/-- From the first datagram on, whatever datagrams the later lookups read, both
lookups through the arrays answer what they answer on addresses. -/
theorem lookups_spelled {ifIndextoname : U32 → Option String}
    (names : InterfaceNames ifIndextoname) (stackIp stackAddr : InAddr)
    {stack : List Byte} (length : stack.length = 16)
    {first : Lookup ifIndextoname} (starts : first.reply.Starts)
    (later : List (Lookup ifIndextoname)) (g : RouteGlobals)
    (next : Lookup ifIndextoname) :
    ∃ s, Transition.runEvents (Lookup.runAt stackIp stackAddr stack)
          RouteStrings.start (first :: later) = some s ∧
      let g := (first :: later).foldl (Lookup.run stackAddr) g
      (∃ strings s', getNexthopAt ifIndextoname stackIp stackAddr stack
            next.reply ⟨0, zeros, 0, zeros, 0⟩ (ntopString next.address) s =
          some (strings, s') ∧
        ∀ before, Answered strings (getNexthop (nameOf ifIndextoname) stackAddr
          (.reply next.reply) before next.address g).1) ∧
      ∃ strings s', getSrcipAt ifIndextoname stackIp stackAddr stack
            next.reply ⟨0, zeros, 0⟩ (ntopString next.address) s =
          some (strings, s') ∧
        ∀ before, strings.ret = (getSrcip (nameOf ifIndextoname) stackAddr
            (.reply next.reply) before next.address g).1.ret ∧
          (CString.read strings.srcip).map inetPton =
            some (getSrcip (nameOf ifIndextoname) stackAddr
              (.reply next.reply) before next.address g).1.srcip := by
  obtain ⟨s₁, taken, spells₁⟩ := first.runAt_spells stackIp stackAddr names
    length (start_ready starts g)
  obtain ⟨s, run, spells⟩ :=
    runEvents_spells stackIp stackAddr names length later spells₁
  refine ⟨s, Transition.runEvents_cons.mpr ⟨s₁, taken, run⟩, ?_, ?_⟩
  · obtain ⟨strings, s', called, answer, _⟩ := getNexthopAt_spells stackIp
      stackAddr names length next.followed (.inl spells)
      (ntopString_holds next.address) ⟨0, zeros, 0, zeros, 0⟩ rfl rfl
      ⟨0, none, 0, "", 0⟩
    exact ⟨strings, s', called, fun _ => answer.answered⟩
  · obtain ⟨strings, s', called, answer, _⟩ := getSrcipAt_spells stackIp
      stackAddr names length next.followed (.inl spells)
      (ntopString_holds next.address) ⟨0, zeros, 0⟩ rfl ⟨0, none, 0⟩
    exact ⟨strings, s', called, fun _ => ⟨answer.ret, answer.srcip.inetPton⟩⟩

theorem sampleNames_short : InterfaceNames sampleNames := by
  intro ifidx name named
  rw [sampleNames, Option.mem_def] at named
  split_ifs at named <;> cases named <;> decide

theorem tenNetworks_followed :
    DumpReply.Followed sampleNames
      (.datagram [tenOneNetwork, tenNetwork]) := by
  refine List.forall_mem_cons.mpr ⟨⟨by decide, rfl, by decide, ?_⟩,
    List.forall_mem_singleton.mpr ⟨by decide, rfl, by decide, ?_⟩⟩
  · rintro ifidx ⟨⟩
    rfl
  · rintro ifidx ⟨⟩
    rfl

def sampleRouteLookup : Lookup sampleNames :=
  { nexthop := true
    address := ⟨htonl 0x0A010101⟩
    reply := .datagram [tenOneNetwork, tenNetwork]
    followed := tenNetworks_followed }

def emptyLookup : Lookup sampleNames :=
  { nexthop := false
    address := ⟨htonl 0x0A000002⟩
    reply := .datagram []
    followed := List.forall_mem_nil _ }

theorem sampleRouteLookup_spelled :
    ∃ s, Transition.runEvents (Lookup.runAt .any .any zeros)
          RouteStrings.start [sampleRouteLookup, emptyLookup] = some s ∧
      let g := [sampleRouteLookup, emptyLookup].foldl
        (Lookup.run .any) staleGlobals
      (∃ strings s', getNexthopAt sampleNames .any .any zeros
            sampleRouteLookup.reply ⟨0, zeros, 0, zeros, 0⟩
            (ntopString sampleRouteLookup.address) s = some (strings, s') ∧
        ∀ before, Answered strings (getNexthop (nameOf sampleNames) .any
          (.reply sampleRouteLookup.reply) before sampleRouteLookup.address
          g).1) ∧
      ∃ strings s', getSrcipAt sampleNames .any .any zeros
            sampleRouteLookup.reply ⟨0, zeros, 0⟩
            (ntopString sampleRouteLookup.address) s = some (strings, s') ∧
        ∀ before, strings.ret = (getSrcip (nameOf sampleNames) .any
            (.reply sampleRouteLookup.reply) before
            sampleRouteLookup.address g).1.ret ∧
          (CString.read strings.srcip).map inetPton =
            some (getSrcip (nameOf sampleNames) .any
              (.reply sampleRouteLookup.reply) before
              sampleRouteLookup.address g).1.srcip :=
  @lookups_spelled sampleNames sampleNames_short .any .any zeros rfl
    sampleRouteLookup ⟨by decide, by decide⟩ [emptyLookup] staleGlobals
    sampleRouteLookup

end Rsvpd
