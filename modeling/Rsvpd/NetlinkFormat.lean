import Rsvpd.FirstMatch
import Rsvpd.Lib.Blocks
import Rsvpd.NetlinkRoutes
import Rsvpd.PacketMemory

/-!
# Dump datagrams as the kernel writes them

IPv4 route messages with their attributes, laid out as the macros of the Linux
headers lay them out.  What the walks of `route_dump.c` read from such a
datagram are the messages that were written, so that a lookup over the bytes
is the lookup over the routes.
-/

namespace Rsvpd.Netlink

open Framing

/-- The attribute types whose values `print_route` reads: `RTA_DST`,
`RTA_OIF`, `RTA_GATEWAY`, `RTA_PREFSRC` and `RTA_TABLE`. -/
def slotsRead : List Nat := [1, 4, 5, 7, 15]

/-- `struct rtattr` with the value behind it. -/
structure RtAttr where
  rtaType : U16
  data : List U8
  fits : 4 + data.length < 2 ^ 16

namespace RtAttr

variable (a : RtAttr)

def rtaLen : Nat := 4 + a.data.length

/-- `RTA_ALIGN` fills up with zeros. -/
def padding : List U8 :=
  List.replicate ((a.rtaLen + 3) / 4 * 4 - a.rtaLen) 0

def bytes : List U8 :=
  bytes16 (BitVec.ofNat 16 a.rtaLen) ++ bytes16 a.rtaType ++ a.data ++
    a.padding

/-- The value as `*(__u32 *)RTA_DATA` and as an address. -/
def word : U32 := load32 (fun i => a.data.getD i 0) 0

theorem length_bytes : a.bytes.length = (a.rtaLen + 3) / 4 * 4 := by
  have covers : a.rtaLen ≤ (a.rtaLen + 3) / 4 * 4 := by omega
  have header : (4 + a.data.length) = a.rtaLen := rfl
  simp only [bytes, padding, List.length_append, length_bytes16,
    List.length_replicate]
  omega

end RtAttr

/-- An `RTM_NEWROUTE` of the family `AF_INET` with its attributes; the values
that are read as words or addresses are whole. -/
structure RtMessage where
  nlmsgFlags : U16
  nlmsgSeq : U32
  nlmsgPid : U32
  rtmDstLen : U8
  rtmSrcLen : U8
  rtmTos : U8
  rtmTable : U8
  rtmProtocol : U8
  rtmScope : U8
  rtmType : U8
  rtmFlags : U32
  attributes : List RtAttr
  lengthLe : rtmDstLen.toNat ≤ 32
  words : ∀ a ∈ attributes, a.rtaType.toNat ∈ slotsRead →
    4 ≤ a.data.length

namespace RtMessage

variable (m : RtMessage)

def payload : List U8 := m.attributes.flatMap RtAttr.bytes

def nlmsgLen : Nat := nlmsgLengthRtmsg + m.payload.length

/-- The 28 bytes in front of the attributes. -/
def header : List U8 :=
  bytes32 (BitVec.ofNat 32 m.nlmsgLen) ++ bytes16 rtmNewroute ++
    bytes16 m.nlmsgFlags ++ bytes32 m.nlmsgSeq ++ bytes32 m.nlmsgPid ++
    [afInet, m.rtmDstLen, m.rtmSrcLen, m.rtmTos, m.rtmTable,
      m.rtmProtocol, m.rtmScope, m.rtmType] ++ bytes32 m.rtmFlags

def bytes : List U8 := m.header ++ m.payload

/-- The word that the last attribute of a type holds. -/
def wordOf (slot : Nat) : Option U32 :=
  (lastOfKind (fun a : RtAttr => a.rtaType.toNat) slot m.attributes).map
    RtAttr.word

theorem length_bytes : m.bytes.length = m.nlmsgLen :=
  List.length_append

theorem nlmsgLen_aligned : m.nlmsgLen % 4 = 0 := by
  have payload (attributes : List RtAttr) :
      (attributes.flatMap RtAttr.bytes).length % 4 = 0 := by
    induction attributes with
    | nil => rfl
    | cons a attributes ih =>
        rw [List.flatMap_cons, List.length_append, a.length_bytes]
        omega
  have whole := payload m.attributes
  have header : nlmsgLengthRtmsg = 28 := rfl
  rw [nlmsgLen, RtMessage.payload, header]
  omega

/-- The route that the message tells. -/
def route : NlMsg :=
  { nlmsgLen := m.nlmsgLen
    headerFits := by
      have long : nlmsgLengthRtmsg = 28 := rfl
      rw [nlmsgLen, long]
      omega
    nlmsgType := rtmNewroute
    nlmsgFlags := m.nlmsgFlags
    rtmFamily := afInet
    rtmDstLen := m.rtmDstLen
    rtmTable := m.rtmTable
    rtmType := m.rtmType
    rtaDst := (m.wordOf 1).map InAddr.mk
    rtaOif := m.wordOf 4
    rtaGateway := (m.wordOf 5).map InAddr.mk
    rtaPrefsrc := (m.wordOf 7).map InAddr.mk
    rtaTable := m.wordOf 15 }

end RtMessage

/-- A datagram of a dump. -/
def datagram (routes : List RtMessage) : List U8 :=
  routes.flatMap RtMessage.bytes

section Loads

variable {buffer : Buffer} {at' : Nat}

theorem load32_of_shows_data {data : List U8} (shows : Shows buffer at' data)
    (whole : 4 ≤ data.length) :
    load32 buffer at' = load32 (fun i => data.getD i 0) 0 := by
  match data, whole with
  | first :: second :: third :: fourth :: _, _ =>
      obtain ⟨h₀, h₁, h₂, h₃, _⟩ := shows
      simp only [Nat.add_assoc, Nat.reduceAdd] at h₁ h₂ h₃
      simp [load32, h₀, h₁, h₂, h₃]

end Loads

section Attributes

variable {buffer : Buffer} {rta : Nat} {a : RtAttr}
  (shows : Shows buffer rta a.bytes)

include shows

theorem RtAttr.load_len : load16 buffer rta = BitVec.ofNat 16 a.rtaLen := by
  simp only [RtAttr.bytes, List.append_assoc, shows_append] at shows
  exact load16_of_shows shows.1

theorem RtAttr.load_type : load16 buffer (rta + 2) = a.rtaType := by
  simp only [RtAttr.bytes, List.append_assoc, shows_append] at shows
  exact load16_of_shows shows.2.1

theorem RtAttr.load_data (whole : 4 ≤ a.data.length) :
    load32 buffer (rta + 4) = a.word := by
  simp only [RtAttr.bytes, List.append_assoc, shows_append] at shows
  exact load32_of_shows_data shows.2.2.1 whole

end Attributes

/-- The fields of a message in memory. -/
structure RtMessage.Loads (buffer : Buffer) (h : Nat) (m : RtMessage) :
    Prop where
  nlmsgLen : load32 buffer h = BitVec.ofNat 32 m.nlmsgLen
  nlmsgType : load16 buffer (h + 4) = rtmNewroute
  nlmsgFlags : load16 buffer (h + 6) = m.nlmsgFlags
  rtmFamily : buffer (h + 16) = afInet
  rtmDstLen : buffer (h + 17) = m.rtmDstLen
  rtmTable : buffer (h + 20) = m.rtmTable
  rtmType : buffer (h + 23) = m.rtmType
  payload : Shows buffer (h + nlmsgLengthRtmsg) m.payload

theorem RtMessage.loads_of_shows {buffer : Buffer} {h : Nat} {m : RtMessage}
    (shows : Shows buffer h m.bytes) : m.Loads buffer h := by
  simp only [RtMessage.bytes, RtMessage.header, List.append_assoc,
    shows_append] at shows
  obtain ⟨length, type, flags, _, _, fields, _, payload⟩ := shows
  obtain ⟨family, dstLen, _, _, table, _, _, kind, _⟩ := fields
  exact
    { nlmsgLen := load32_of_shows length
      nlmsgType := load16_of_shows type
      nlmsgFlags := load16_of_shows flags
      rtmFamily := family
      rtmDstLen := dstLen
      rtmTable := table
      rtmType := kind
      payload }

section Walks

variable {bytes : List U8} (beyond : Buffer) {h : Nat} {m : RtMessage}
  (short : m.nlmsgLen < 2 ^ 31) (shows : Shows (received bytes) h m.bytes)

include short shows

theorem nlmsgLengthAt_eq : nlmsgLengthAt bytes h = m.nlmsgLen := by
  rw [nlmsgLengthAt, (RtMessage.loads_of_shows shows).nlmsgLen,
    BitVec.toNat_ofNat, Nat.mod_eq_of_lt (by omega)]

theorem attributes_eq :
    rtaLayout.records (rtaLengthAt bytes) (h + nlmsgLengthAt bytes h)
        (h + nlmsgLengthRtmsg) =
      (places RtAttr.bytes (h + nlmsgLengthRtmsg) m.attributes).map
        Prod.fst := by
  have payload := (RtMessage.loads_of_shows shows).payload
  have stop : h + nlmsgLengthAt bytes h = h + nlmsgLengthRtmsg +
      (m.attributes.flatMap RtAttr.bytes).length := by
    rw [nlmsgLengthAt_eq short shows, RtMessage.nlmsgLen, Nat.add_assoc]
    rfl
  rw [stop]
  refine rtaLayout.records_eq_places fun place member => ?_
  have stated : rtaLengthAt bytes place.1 = place.2.rtaLen := by
    have fits : place.2.rtaLen < 2 ^ 16 := place.2.fits
    rw [rtaLengthAt, RtAttr.load_len (payload.at_places member),
      BitVec.toNat_ofNat, Nat.mod_eq_of_lt fits]
  rw [stated]
  exact ⟨Nat.le_add_right 4 _, place.2.length_bytes⟩

theorem tableAt_eq {slot : Nat} (known : slot ≤ rtaMax) :
    ((tableAt bytes h)[slot]?.join) =
      (lastOfKind (fun place : Nat × RtAttr => place.2.rtaType.toNat) slot
        (places RtAttr.bytes (h + nlmsgLengthRtmsg) m.attributes)).map
          Prod.fst := by
  have payload := (RtMessage.loads_of_shows shows).payload
  have types : ∀ place ∈ places RtAttr.bytes (h + nlmsgLengthRtmsg)
      m.attributes, rtaTypeAt bytes place.1 = place.2.rtaType.toNat := by
    intro place member
    rw [rtaTypeAt, RtAttr.load_type (payload.at_places member)]
  rw [tableAt, attributesIn, getElem?_foldl_note _ (Nat.lt_succ_of_le known),
    Option.join_some, attributes_eq short shows, lastOfKind_map,
    lastOfKind_congr types]

theorem rtaData_eq (further : Shows (memory bytes beyond) h m.bytes)
    {slot : Nat} (read : slot ∈ slotsRead) :
    (((tableAt bytes h)[slot]?.join).map (rtaData bytes beyond)) =
      m.wordOf slot := by
  have payload := (RtMessage.loads_of_shows further).payload
  have known : slot ≤ rtaMax := by
    revert read slot
    decide
  rw [tableAt_eq short shows known, Option.map_map, RtMessage.wordOf,
    ← @places_items _ _ RtAttr.bytes (h + nlmsgLengthRtmsg) m.attributes,
    lastOfKind_map, Option.map_map, places_items]
  refine Option.map_congr fun place last => ?_
  obtain ⟨member, kind⟩ := mem_of_lastOfKind last
  refine RtAttr.load_data (payload.at_places member) ?_
  refine m.words place.2 (item_mem_of_mem_places member) ?_
  rwa [kind]

theorem message?_eq (further : Shows (memory bytes beyond) h m.bytes) :
    message? bytes beyond h (tableAt bytes h) = some m.route := by
  have loads := RtMessage.loads_of_shows shows
  have loads' := RtMessage.loads_of_shows further
  have length := nlmsgLengthAt_eq short shows
  have long : 16 ≤ nlmsgLengthAt bytes h := by
    rw [length]
    exact m.route.headerFits
  have value (slot : Nat) (read : slot ∈ slotsRead) :=
    rtaData_eq beyond short shows further read
  rw [message?, dif_pos long]
  simp only [value 1 (by decide), value 4 (by decide), value 5 (by decide),
    value 7 (by decide), value 15 (by decide), length, loads.nlmsgType,
    loads.nlmsgFlags, loads'.rtmFamily, loads'.rtmDstLen, loads'.rtmTable,
    loads'.rtmType]
  rfl

end Walks

theorem length_datagram (routes : List RtMessage) :
    (datagram routes).length =
      ((routes.map RtMessage.route).map NlMsg.alignedLen).sum := by
  induction routes with
  | nil => rfl
  | cons m routes ih =>
      have whole := m.nlmsgLen_aligned
      have here : m.route.alignedLen = m.nlmsgLen := by
        have stated : m.route.nlmsgLen = m.nlmsgLen := rfl
        rw [NlMsg.alignedLen, stated]
        omega
      have split : datagram (m :: routes) = m.bytes ++ datagram routes :=
        List.flatMap_cons
      rw [split, List.length_append, ih, List.map_cons, List.map_cons,
        List.sum_cons, here, m.length_bytes]

section Datagrams

variable {routes : List RtMessage}
  (short : (datagram routes).length < 2 ^ 31) (beyond : Buffer)

include short

theorem nlmsgLen_lt {place : Nat × RtMessage}
    (member : place ∈ places RtMessage.bytes 0 routes) :
    place.2.nlmsgLen < 2 ^ 31 := by
  have inside := (place_inside member).2
  rw [RtMessage.length_bytes, Nat.zero_add] at inside
  exact Nat.lt_of_le_of_lt (Nat.le_trans (Nat.le_add_left _ _) inside) short

theorem messages_eq :
    nlmsgLayout.records (nlmsgLengthAt (datagram routes))
        (datagram routes).length 0 =
      (places RtMessage.bytes 0 routes).map Prod.fst := by
  have shows : Shows (received (datagram routes)) 0 (datagram routes) :=
    shows_getD [] (datagram routes) fun _ => 0
  rw [← Nat.zero_add (datagram routes).length]
  refine nlmsgLayout.records_eq_places fun place member => ?_
  rw [nlmsgLengthAt_eq (nlmsgLen_lt short member) (shows.at_places member)]
  refine ⟨place.2.route.headerFits, ?_⟩
  rw [RtMessage.length_bytes, aligned_advance]
  have whole := place.2.nlmsgLen_aligned
  omega

theorem messagesAt_datagram :
    messagesAt (datagram routes) beyond
        (nlmsgLayout.records (nlmsgLengthAt (datagram routes))
          (datagram routes).length 0) =
      routes.map RtMessage.route := by
  have shows : Shows (received (datagram routes)) 0 (datagram routes) :=
    shows_getD [] (datagram routes) fun _ => 0
  have further : Shows (memory (datagram routes) beyond) 0
      (datagram routes) := shows_getD [] (datagram routes) beyond
  have decoded : ∀ place ∈ places RtMessage.bytes 0 routes,
      message? (datagram routes) beyond place.1
        (tableAt (datagram routes) place.1) = some place.2.route :=
    fun place member => message?_eq beyond (nlmsgLen_lt short member)
      (shows.at_places member) (further.at_places member)
  rw [messages_eq short, messagesAt, List.filterMap_map]
  calc (places RtMessage.bytes 0 routes).filterMap _
      = (places RtMessage.bytes 0 routes).filterMap
          fun place => some place.2.route := List.filterMap_congr decoded
    _ = ((places RtMessage.bytes 0 routes).map Prod.snd).map
          RtMessage.route := by
        rw [List.map_map, ← List.filterMap_eq_map]
        rfl
    _ = routes.map RtMessage.route := by rw [places_items]

variable (ifIndextoname : U32 → Option String) (stackAddr : InAddr)
  (g : RouteGlobals)
  (named : ∀ m ∈ routes, ∀ ifidx ∈ m.wordOf 4, (ifIndextoname ifidx).isSome)

include named

omit short in
theorem followed_of_named {message : NlMsg}
    (member : message ∈ routes.map RtMessage.route) :
    message.Followed ifIndextoname := by
  obtain ⟨m, written, rfl⟩ := List.mem_map.mp member
  have route : rtmNewroute ≠ nlmsgError := by decide
  exact ⟨route, rfl, m.lengthLe, named m written⟩

/-- A dump over the bytes ends like a dump over the routes. -/
theorem getRouteDumpResponse_datagram :
    ∃ dump, getRouteDumpResponse
        (readRoute (datagram routes) beyond ifIndextoname stackAddr)
        (.datagram (datagram routes)) g = some dump ∧
      (dump.ret, dump.state) = Rsvpd.getRouteDumpResponse
        (nameOf ifIndextoname) stackAddr
        (.datagram (routes.map RtMessage.route)) g := by
  have status : (recvStatus (datagram routes)).toInt =
      (datagram routes).length := by
    rw [recvStatus, BitVec.toInt_eq_toNat_of_lt] <;>
      rw [BitVec.toNat_ofNat, Nat.mod_eq_of_lt (by omega)]
    omega
  have stop : endOf 0 (recvStatus (datagram routes)) =
      (datagram routes).length := by
    rw [endOf, status]
    omega
  have read : messagesAt (datagram routes) beyond
      (messagesIn (datagram routes)) = routes.map RtMessage.route := by
    rw [messagesIn, stop, messagesAt_datagram short]
  have told : 0 ≤ (recvStatus (datagram routes)).toInt := by omega
  obtain ⟨dump, walked, same⟩ := getRouteDumpResponse_eq_dumpLoop beyond
    ifIndextoname stackAddr g told (by
      rw [read]
      exact fun message => followed_of_named ifIndextoname named)
  refine ⟨dump, walked, same.trans ?_⟩
  rw [status, read, Rsvpd.getRouteDumpResponse, length_datagram]

end Datagrams

section Lookups

variable (beyond : Buffer) (ifIndextoname : U32 → Option String)
  (stackAddr : InAddr) (bytes : List U8)

/-- `get_nexthop` behind a request that was sent and a datagram that was
received. -/
def getNexthop (dstIp : InAddr) (g : RouteGlobals) :
    Option (NexthopAnswer × RouteGlobals) := do
  let g := { g with destIp := dstIp }
  let temp ← getRouteDumpResponse
    (readRoute bytes beyond ifIndextoname stackAddr) (.datagram bytes) g
  let g := temp.state
  return ({ ret := if temp.ret ≠ 0 then 1 else 0
            nhip := g.nh
            prefixLen := g.prefixLen
            dev := g.dev
            ifh := g.ifh }, g)

/-- `get_srcip` behind a request that was sent and a datagram that was
received. -/
def getSrcip (nhip : InAddr) (g : RouteGlobals) :
    Option (SrcipAnswer × RouteGlobals) := do
  let g := { g with destIp := nhip }
  let temp ← getRouteDumpResponse
    (readRoute bytes beyond ifIndextoname stackAddr) (.datagram bytes) g
  let g := temp.state
  return ({ ret := if temp.ret ≠ 0 then 1 else 0
            srcip := g.srcIp
            ifh := g.ifh }, g)

end Lookups

/-- Both lookups over the bytes of a datagram answer as they do over the routes
that were written into it, whatever memory holds behind it. -/
theorem lookups_read_routes {routes : List RtMessage}
    (short : (datagram routes).length < 2 ^ 31)
    (ifIndextoname : U32 → Option String)
    (named : ∀ m ∈ routes, ∀ ifidx ∈ m.wordOf 4,
      (ifIndextoname ifidx).isSome)
    (beyond : Buffer) (stackAddr dstIp : InAddr) (g : RouteGlobals) :
    (∀ caller, getNexthop beyond ifIndextoname stackAddr (datagram routes)
        dstIp g =
      some (Rsvpd.getNexthop (nameOf ifIndextoname) stackAddr
        (.reply (.datagram (routes.map RtMessage.route))) caller dstIp g)) ∧
    ∀ caller, getSrcip beyond ifIndextoname stackAddr (datagram routes)
        dstIp g =
      some (Rsvpd.getSrcip (nameOf ifIndextoname) stackAddr
        (.reply (.datagram (routes.map RtMessage.route))) caller dstIp g) := by
  obtain ⟨dump, walked, same⟩ := getRouteDumpResponse_datagram short beyond
    ifIndextoname stackAddr { g with destIp := dstIp } named
  constructor
  · intro caller
    simp only [getNexthop, Rsvpd.getNexthop, walked, ← same,
      Option.bind_eq_bind, Option.bind_some]
    rfl
  · intro caller
    simp only [getSrcip, Rsvpd.getSrcip, walked, ← same, Option.bind_eq_bind,
      Option.bind_some]
    rfl

/-- A word or an address as the value of an attribute. -/
def RtAttr.ofWord (rtaType : U16) (word : U32) : RtAttr :=
  { rtaType, data := bytes32 word
    fits := by
      rw [length_bytes32]
      decide }

/-- `10.1.0.0/16 via 10.0.0.2`, with a priority that nobody reads, in the main
table. -/
def tenOneMessage : RtMessage :=
  { nlmsgFlags := 2, nlmsgSeq := 7, nlmsgPid := 9
    rtmDstLen := 16, rtmSrcLen := 0, rtmTos := 0
    rtmTable := 254, rtmProtocol := 3, rtmScope := 0, rtmType := rtnUnicast
    rtmFlags := 0
    attributes := [.ofWord 15 rtTableMain, .ofWord 1 (htonl 0x0A010000),
      .ofWord 6 100, .ofWord 5 (htonl 0x0A000002), .ofWord 4 3]
    lengthLe := by decide
    words := by decide }

/-- `10.0.0.0/8` on a link. -/
def tenMessage : RtMessage :=
  { tenOneMessage with
    rtmDstLen := 8
    attributes := [.ofWord 15 rtTableMain, .ofWord 1 (htonl 0x0A000000),
      .ofWord 4 2]
    lengthLe := by decide
    words := by decide }

theorem sampleNames_named : ∀ m ∈ [tenOneMessage, tenMessage],
    ∀ ifidx ∈ m.wordOf 4, (sampleNames ifidx).isSome := by
  have gateway : tenOneMessage.wordOf 4 = some 3 := by decide +kernel
  have link : tenMessage.wordOf 4 = some 2 := by decide +kernel
  rw [List.forall_mem_cons, List.forall_mem_singleton, gateway, link]
  constructor
  · rintro ifidx ⟨⟩
    rfl
  · rintro ifidx ⟨⟩
    rfl

theorem tenMessages_read :
    (∀ caller, getNexthop (fun _ => 0xFF) sampleNames .any
        (datagram [tenOneMessage, tenMessage]) ⟨htonl 0x0A010101⟩
        staleGlobals =
      some (Rsvpd.getNexthop (nameOf sampleNames) .any
        (.reply (.datagram [tenOneMessage.route, tenMessage.route])) caller
        ⟨htonl 0x0A010101⟩ staleGlobals)) ∧
    ∀ caller, getSrcip (fun _ => 0xFF) sampleNames .any
        (datagram [tenOneMessage, tenMessage]) ⟨htonl 0x0A010101⟩
        staleGlobals =
      some (Rsvpd.getSrcip (nameOf sampleNames) .any
        (.reply (.datagram [tenOneMessage.route, tenMessage.route])) caller
        ⟨htonl 0x0A010101⟩ staleGlobals) :=
  @lookups_read_routes [tenOneMessage, tenMessage] (by decide +kernel)
    sampleNames sampleNames_named (fun _ => 0xFF) .any ⟨htonl 0x0A010101⟩
    staleGlobals

end Rsvpd.Netlink
