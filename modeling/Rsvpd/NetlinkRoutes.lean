import Rsvpd.NetlinkWalk
import Rsvpd.RouteWalk

/-!
# The routes in a dump datagram

The messages of `Route` are what the byte loops read: run over received bytes
whose messages can be followed, `get_route_dump_response` gives the outcome of
`dumpLoop` on the messages that fit, each with the last attribute of a type.
-/

namespace Rsvpd.Netlink

open Framing

section Routes

-- What lies in memory around the received bytes; `print_route` does not check
-- that the value of an attribute is whole.
variable (bytes : List U8) (beyond : Buffer)

def memory : Buffer := fun i => bytes.getD i (beyond i)

def rtaData (rta : Nat) : U32 := load32 (memory bytes beyond) (rta + 4)

/-- The message at a position, with its attributes in `tb`. -/
def message? (h : Nat) (tb : List (Option Nat)) : Option NlMsg :=
  let value slot := (tb[slot]?.join).map (rtaData bytes beyond)
  if headerFits : 16 ≤ nlmsgLengthAt bytes h then
    some
      { nlmsgLen := nlmsgLengthAt bytes h
        headerFits
        nlmsgType := load16 (received bytes) (h + 4)
        nlmsgFlags := load16 (received bytes) (h + 6)
        rtmFamily := memory bytes beyond (h + 16)
        rtmDstLen := memory bytes beyond (h + 17)
        rtmTable := memory bytes beyond (h + 20)
        rtmType := memory bytes beyond (h + 23)
        rtaDst := (value 1).map InAddr.mk
        rtaOif := value 4
        rtaGateway := (value 5).map InAddr.mk
        rtaPrefsrc := (value 7).map InAddr.mk
        rtaTable := value 15 }
  else none

/-- The table that `print_route` fills for the message at a position. -/
def tableAt (h : Nat) : List (Option Nat) :=
  (attributesIn bytes rtaMax (h + nlmsgLengthRtmsg)
    (h + nlmsgLengthAt bytes h)).tb

def messagesAt (positions : List Nat) : List NlMsg :=
  positions.filterMap fun h => message? bytes beyond h (tableAt bytes h)

variable (ifIndextoname : U32 → Option String) (stackAddr : InAddr)

/-- What `print_route` makes of a message behind its call of
`parse_rtattr`. -/
def readMessage (message : NlMsg) (g : RouteGlobals) :
    Option (Int × RouteGlobals) := do
  let g := { g with nh := none, srcIp := none, dev := " ",
                    prefixLen := 0, ifh := 0 }
  if message.rtmFamily ≠ afInet ∧ rtmGetTable message ≠ rtTableMain then
    return (0, g)
  else if message.rtmType ≠ rtnLocal ∧ message.rtmType ≠ rtnUnicast then
    return (0, g)
  -- `route` and `nh` have no room for an address of another family.
  else if message.rtmFamily ≠ afInet then
    none
  else
    let g := { g with prefixLen := routePrefixLen message,
                      nh := message.rtaGateway }
    let g ← match message.rtaOif with
      | some ifidx =>
          -- `strcpy` reads from `NULL` when the interface has no name.
          (ifIndextoname ifidx).map fun dev => { g with ifh := ifidx, dev }
      | none => some g
    let g := { g with srcIp := message.rtaPrefsrc }
    let subnet := (routeText message).getD stackAddr
    return (if isIpInSubnet g.destIp subnet g.prefixLen = 1 then 1 else 0, g)

def readRoute (h : Nat) (tb : List (Option Nat)) (g : RouteGlobals) :
    Option (Int × RouteGlobals) := do
  let message ← message? bytes beyond h tb
  readMessage ifIndextoname stackAddr message g

variable {bytes} {h : Nat} (g : RouteGlobals)

theorem message?_of_fits (tb : List (Option Nat))
    (long : 16 ≤ nlmsgLengthAt bytes h) :
    ∃ message, message? bytes beyond h tb = some message ∧
      message.nlmsgLen = nlmsgLengthAt bytes h ∧
      message.nlmsgType = typeAt bytes h ∧
      message.nlmsgFlags = flagsAt bytes h :=
  ⟨_, dif_pos long, rfl, rfl, rfl⟩

theorem readMessage_eq {message : NlMsg}
    (followed : message.Followed ifIndextoname)
    (long : ¬message.nlmsgLen < nlmsgLengthRtmsg) :
    readMessage ifIndextoname stackAddr message g =
      some (Rsvpd.printRoute (nameOf ifIndextoname) stackAddr message g) := by
  have inet : ¬message.rtmFamily ≠ afInet := not_not.mpr followed.family
  by_cases kind : message.rtmType ≠ rtnLocal ∧ message.rtmType ≠ rtnUnicast
  · simp only [readMessage, Rsvpd.printRoute, inet, if_neg long, if_pos kind,
      false_and, if_false]
    rfl
  · rw [printRoute_eq_routeRead stackAddr long followed.family kind,
      routeRead, NlMsg.device]
    simp only [readMessage, inet, if_neg kind, false_and, if_false]
    cases out : message.rtaOif with
    | none => rfl
    | some ifidx =>
        obtain ⟨dev, named⟩ :=
          Option.isSome_iff_exists.mp (followed.named ifidx out)
        simp only [named, nameOf, Option.map_some, Option.getD_some]
        rfl

theorem printed_eq {message : NlMsg}
    (decoded : message? bytes beyond h (tableAt bytes h) = some message)
    (stated : message.nlmsgLen = nlmsgLengthAt bytes h)
    (followed : message.Followed ifIndextoname) :
    printed (readRoute bytes beyond ifIndextoname stackAddr) bytes h g =
      some (Rsvpd.printRoute (nameOf ifIndextoname) stackAddr message g) := by
  unfold printed attributesAt
  by_cases room : nlmsgLengthAt bytes h < nlmsgLengthRtmsg
  · rw [if_pos room, Rsvpd.printRoute, if_pos (by omega)]
  · rw [if_neg room]
    have read : readRoute bytes beyond ifIndextoname stackAddr h
        (tableAt bytes h) g =
          readMessage ifIndextoname stackAddr message g := by
      rw [readRoute, decoded]
      rfl
    exact read.trans (readMessage_eq ifIndextoname stackAddr g followed
      (by omega))

theorem visitAll_eq_dumpLoop (status : Int) {positions : List Nat}
    (fits : ∀ h ∈ positions,
      nlmsgLayout.Fits (nlmsgLengthAt bytes) bytes.length h)
    (short : ∀ h ∈ positions, nlmsgLengthAt bytes h < 2 ^ 31)
    (followed : ∀ message ∈ messagesAt bytes beyond positions,
      message.Followed ifIndextoname) (visits : List Visit) :
    ∃ dump, visitAll (readRoute bytes beyond ifIndextoname stackAddr) bytes
        status positions visits g = some dump ∧
      (dump.ret, dump.state) = dumpLoop (nameOf ifIndextoname) stackAddr
        status (messagesAt bytes beyond positions) g := by
  induction positions generalizing visits g with
  | nil => exact ⟨_, rfl, rfl⟩
  | cons h positions ih =>
      obtain ⟨fitsHere, fits⟩ := List.forall_mem_cons.mp fits
      obtain ⟨shortHere, short⟩ := List.forall_mem_cons.mp short
      obtain ⟨message, decoded, stated, typed, flagged⟩ :=
        message?_of_fits beyond (tableAt bytes h)
          (aligned_fits_iff.mp fitsHere).2.1
      have messages : messagesAt bytes beyond (h :: positions) =
          message :: messagesAt bytes beyond positions := by
        rw [messagesAt, List.filterMap_cons, decoded, messagesAt]
      rw [messages] at followed ⊢
      obtain ⟨here, followed⟩ := List.forall_mem_cons.mp followed
      have prints := printed_eq beyond ifIndextoname stackAddr g decoded
        stated here
      have route : typeAt bytes h ≠ nlmsgError := typed ▸ here.type
      rw [visitAll, dumpLoop, visitMessage_eq _ _ fitsHere shortHere,
        if_neg route, flagged, prints]
      by_cases interrupted : flagsAt bytes h &&& nlmFDumpIntr ≠ 0
      · rw [if_pos interrupted, if_pos interrupted]
        exact ⟨_, rfl, rfl⟩
      · rw [if_neg interrupted, if_neg interrupted, Option.map_some]
        dsimp only
        split_ifs with found
        · exact ⟨_, rfl, rfl⟩
        · exact ih _ fits short followed _

/-- A lookup over the received bytes ends like one over their messages. -/
theorem getRouteDumpResponse_eq_dumpLoop (told : 0 ≤ (recvStatus bytes).toInt)
    (followed : ∀ message ∈ messagesAt bytes beyond (messagesIn bytes),
      message.Followed ifIndextoname) :
    ∃ dump, getRouteDumpResponse
        (readRoute bytes beyond ifIndextoname stackAddr) (.datagram bytes) g =
          some dump ∧
      (dump.ret, dump.state) = dumpLoop (nameOf ifIndextoname) stackAddr
        (recvStatus bytes).toInt
        (messagesAt bytes beyond (messagesIn bytes)) g := by
  obtain ⟨dump, walked, same⟩ := visitAll_eq_dumpLoop beyond ifIndextoname
    stackAddr g (recvStatus bytes).toInt
    (fun h member => (fits_of_mem_messagesIn member).1)
    (fun h member => (fits_of_mem_messagesIn member).2) followed []
  refine ⟨dump, ?_, same⟩
  rw [getRouteDumpResponse_eq, if_neg (Int.not_lt.mpr told), walked]

end Routes

end Rsvpd.Netlink
