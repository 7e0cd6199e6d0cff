import Rsvpd.RouteWalk

/-!
# What a lookup takes from the first match

`print_route` clears five file-level variables before it reads a message and
fills them from the attributes that the message has.  A lookup that ends at a
match therefore answers with the fields of that one message, whatever an
earlier route or an earlier lookup left behind.
-/

namespace Rsvpd

/-- The answer of `get_srcip` that a route stands for. -/
def NlMsg.srcipAnswer (h : NlMsg) : SrcipAnswer :=
  { ret := 1, srcip := h.rtaPrefsrc, ifh := h.rtaOif.getD 0 }

/-- Both lookups answer with the fields of one message, whatever the caller's
variables hold. -/
def AnswersWith (ifIndextoname : U32 → String) (stackAddr dstIp : InAddr)
    (messages : List NlMsg) (g : RouteGlobals) (h : NlMsg) : Prop :=
  (∀ caller, (getNexthop ifIndextoname stackAddr (.reply (.datagram messages))
    caller dstIp g).1 = h.answer ifIndextoname) ∧
  ∀ caller, (getSrcip ifIndextoname stackAddr (.reply (.datagram messages))
    caller dstIp g).1 = h.srcipAnswer

/-- The first match decides both lookups; the messages behind it are never
looked at. -/
theorem lookups_answerWith_first (ifIndextoname : U32 → String)
    (stackAddr dstIp : InAddr) (front : List NlMsg) (h : NlMsg)
    (back : List NlMsg) (g : RouteGlobals)
    (routes : ∀ m ∈ front ++ [h], m.Ipv4Route)
    (calm : ∀ m ∈ front ++ [h], m.Calm)
    (missed : ∀ m ∈ front, ¬m.Matches dstIp) (matched : h.Matches dstIp) :
    AnswersWith ifIndextoname stackAddr dstIp (front ++ h :: back) g h := by
  obtain ⟨routesFront, route⟩ := List.forall_mem_append.mp routes
  obtain ⟨calmFront, calmHere⟩ := List.forall_mem_append.mp calm
  have response := dumpLoop_first ifIndextoname stackAddr
    (((front ++ h :: back).map NlMsg.alignedLen).sum : Nat)
    { g with destIp := dstIp } calmFront
    (NlMsg.Ipv4Route.not_routeCovers routesFront missed stackAddr)
    (route h List.mem_cons_self) (calmHere h List.mem_cons_self) matched back
  constructor
  · intro caller
    simp only [getNexthop, getRouteDumpResponse, response]
    rfl
  · intro caller
    simp only [getSrcip, getRouteDumpResponse, response]
    rfl

def staleGlobals : RouteGlobals :=
  { destIp := ⟨htonl 0x0A010101⟩
    srcIp := some ⟨htonl 0x0A000009⟩
    nh := some ⟨htonl 0x0A000002⟩
    dev := "eth7"
    ifh := 7
    prefixLen := 16 }

theorem tenNetwork_matches :
    tenNetwork.Matches ⟨htonl 0x0A050505⟩ := by decide

theorem tenNetwork_ipv4Route : tenNetwork.Ipv4Route :=
  tenNetwork_wellFormed.ipv4Route

/-- `10.1.0.0/16` is passed over on the way to `10.0.0.0/8`, which has neither
a gateway nor a preferred source address. -/
theorem tenNetwork_answered :
    AnswersWith (fun _ => "eth0") .any ⟨htonl 0x0A050505⟩
      [tenOneNetwork, tenNetwork] staleGlobals tenNetwork := by
  refine lookups_answerWith_first (fun _ => "eth0") .any ⟨htonl 0x0A050505⟩
    [tenOneNetwork] tenNetwork [] staleGlobals ?_ ?_ ?_ tenNetwork_matches
  · intro m member
    simp only [List.cons_append, List.nil_append, List.mem_cons,
      List.not_mem_nil, or_false] at member
    rcases member with rfl | rfl
    · exact tenOneNetwork_wellFormed.ipv4Route
    · exact tenNetwork_ipv4Route
  · decide
  · decide

def interruptedNetwork : NlMsg :=
  { tenNetwork with nlmsgFlags := 2 ||| nlmFDumpIntr }

/-- The walk gives up at a marked message before it reads it, and the answer
is made of what the earlier lookup left. -/
theorem interruptedNetwork_not_answered :
    interruptedNetwork.Ipv4Route ∧
      interruptedNetwork.Matches ⟨htonl 0x0A050505⟩ ∧
      ¬AnswersWith (fun _ => "eth0") .any ⟨htonl 0x0A050505⟩
        [interruptedNetwork] staleGlobals interruptedNetwork := by
  refine ⟨⟨by decide, by decide, by decide, by decide, by decide⟩,
    by decide, ?_⟩
  rintro ⟨_, source⟩
  have same := congrArg SrcipAnswer.ifh (source ⟨0, none, 0⟩)
  revert same
  decide

end Rsvpd
