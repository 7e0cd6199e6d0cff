import Rsvpd.Handlers
import Rsvpd.Lib.Overlay

/-!
# What the packets show of the stack

The senders assemble a packet in a local array that nothing clears.  The two
reserved fields and the session name that no store reaches are sent as the
stack held them.
-/

namespace Rsvpd

open Overlay

def LabelReqObject.load (buffer : Buffer) (at' : Nat) : LabelReqObject :=
  { classObj := ClassObj.load buffer at'
    reserved := load16 buffer (at' + 4)
    l3pid := load16 buffer (at' + 6) }

def SenderTempObject.load (buffer : Buffer) (at' : Nat) : SenderTempObject :=
  { classObj := ClassObj.load buffer at'
    srcIp := ⟨load32 buffer (at' + 4)⟩
    reserved := load16 buffer (at' + 8)
    lspId := load16 buffer (at' + 10) }

/-- `path_packet` at the start of the buffer, through the object pointers. -/
def PathPacket.load (buffer : Buffer) : PathPacket :=
  { path := RsvpHeader.load buffer 0
    sessionObj := SessionObject.load buffer startSentSessionObj
    hopObj := HopObject.load buffer startSentHopObj
    timeObj := TimeObject.load buffer startSentTimeObj
    labelReqObj := LabelReqObject.load buffer startSentLabelReq
    sessionAttrObj := SessionAttrObject.load buffer startSentSessionAttrObj
    senderTempObj := SenderTempObject.load buffer startSentSenderTempObj }

def ResvPacket.load (buffer : Buffer) : ResvPacket :=
  { resv := RsvpHeader.load buffer 0
    sessionObj := SessionObject.load buffer startSentSessionObj
    hopObj := HopObject.load buffer startSentHopObj
    timeObj := TimeObject.load buffer startSentTimeObj
    specObj := SenderTempObject.load buffer startSentFilterSpecObj
    labelObj := LabelObject.load buffer startSentLabel }

/-- The environment with the given contents in the local arrays. -/
def Env.withStack (env : Env) (stack : Buffer) : Env :=
  { env with
    pathStack := PathPacket.load stack
    resvStack := ResvPacket.load stack }

section Load

variable (buffer : Buffer) (at' : Nat)

theorem bytes16_load16 :
    bytes16 (load16 buffer at') = window buffer at' 2 := by
  rw [bytes16, load16, BitVec.extractLsb'_append_eq_right,
    BitVec.extractLsb'_append_eq_left]
  rfl

end Load

/-- The offsets of a PATH that no store reaches: the two reserved fields and
the session name. -/
def pathUnstored : List Nat :=
  List.range' (startSentSessionObj + 8) 2 ++
    List.range' (startSentLabelReq + 4) 2 ++
    List.range' (startSentSessionAttrObj + 8) 32

def resvUnstored : List Nat := List.range' (startSentSessionObj + 8) 2

/-- A PATH as a buffer whose reserved fields and name are kept. -/
def PathPacket.pieces (packet : PathPacket) : List (Piece U8) :=
  [.stored (packet.path.bytes ++ packet.sessionObj.classObj.bytes ++
      bytes32 packet.sessionObj.dstIp.sAddr),
    .kept 2,
    .stored (bytes16 packet.sessionObj.tunnelId ++
      bytes32 packet.sessionObj.srcIp.sAddr ++ packet.hopObj.bytes ++
      packet.timeObj.bytes ++ packet.labelReqObj.classObj.bytes),
    .kept 2,
    .stored (bytes16 packet.labelReqObj.l3pid ++
      packet.sessionAttrObj.classObj.bytes ++
      [packet.sessionAttrObj.setupPrio, packet.sessionAttrObj.holdPrio,
        packet.sessionAttrObj.flags, packet.sessionAttrObj.nameLen]),
    .kept 32,
    .stored packet.senderTempObj.bytes]

def ResvPacket.pieces (packet : ResvPacket) : List (Piece U8) :=
  [.stored (packet.resv.bytes ++ packet.sessionObj.classObj.bytes ++
      bytes32 packet.sessionObj.dstIp.sAddr),
    .kept 2,
    .stored (bytes16 packet.sessionObj.tunnelId ++
      bytes32 packet.sessionObj.srcIp.sAddr ++ packet.hopObj.bytes ++
      packet.timeObj.bytes ++ packet.specObj.bytes ++
      packet.labelObj.bytes)]

theorem PathPacket.keptAt_pieces (packet : PathPacket) :
    keptAt 0 packet.pieces = pathUnstored := by
  simp only [pieces, keptAt, List.length_append, length_bytes16,
    length_bytes32, ClassObj.length_bytes, RsvpHeader.length_bytes,
    HopObject.length_bytes, TimeObject.length_bytes]
  rfl

theorem ResvPacket.keptAt_pieces (packet : ResvPacket) :
    keptAt 0 packet.pieces = resvUnstored := by
  simp only [pieces, keptAt, List.length_append, length_bytes32,
    ClassObj.length_bytes, RsvpHeader.length_bytes]
  rfl

theorem PathPacket.size_pieces (packet : PathPacket) :
    size packet.pieces = pathPacketSize := by
  simp [pieces, size, Piece.size, pathPacketSize, startSentSenderTempObj,
    startSentSessionAttrObj, startSentLabelReq, startSentTimeObj,
    startSentHopObj, startSentSessionObj]

theorem ResvPacket.size_pieces (packet : ResvPacket) :
    size packet.pieces = resvPacketSize := by
  simp [pieces, size, Piece.size, resvPacketSize, startSentLabel,
    startSentFilterSpecObj, startSentTimeObj, startSentHopObj,
    startSentSessionObj]

theorem PathPacket.bytes_eq_contents {packet : PathPacket} {memory : Buffer}
    (session : bytes16 packet.sessionObj.reserved = window memory 16 2)
    (labelReq : bytes16 packet.labelReqObj.reserved = window memory 48 2)
    (name : packet.sessionAttrObj.name.toList = window memory 60 32) :
    packet.bytes = contents memory 0 packet.pieces := by
  simp only [PathPacket.bytes, SessionObject.bytes, LabelReqObject.bytes,
    SessionAttrObject.bytes, session, labelReq, name, PathPacket.pieces,
    contents, Piece.contents, List.append_assoc, List.append_nil]
  rfl

theorem ResvPacket.bytes_eq_contents {packet : ResvPacket} {memory : Buffer}
    (session : bytes16 packet.sessionObj.reserved = window memory 16 2) :
    packet.bytes = contents memory 0 packet.pieces := by
  simp only [ResvPacket.bytes, SessionObject.bytes, session,
    ResvPacket.pieces, contents, Piece.contents, List.append_assoc,
    List.append_nil]
  rfl

theorem pathSend_bytes (env : Env) (stack : Buffer) (p : PathMsg) :
    (pathSend (env.withStack stack) p).2.bytes =
      contents stack 0 (fillPathPacket default p).pieces :=
  PathPacket.bytes_eq_contents (bytes16_load16 stack 16)
    (bytes16_load16 stack 48) Vector.toList_ofFn

theorem resvSend_bytes (env : Env) (stack : Buffer) (r : ResvMsg) :
    (resvSend (env.withStack stack) r).2.bytes =
      contents stack 0 (fillResvPacket default r).pieces :=
  ResvPacket.bytes_eq_contents (bytes16_load16 stack 16)

theorem pathSend_leaks (env : Env) (stack : Buffer) (p : PathMsg) {i : Nat}
    (unstored : i ∈ pathUnstored) :
    (pathSend (env.withStack stack) p).2.bytes[i]? = some (stack i) := by
  rw [pathSend_bytes, getElem?_contents, Nat.zero_add]
  rwa [PathPacket.keptAt_pieces, Nat.zero_add]

theorem resvSend_leaks (env : Env) (stack : Buffer) (r : ResvMsg) {i : Nat}
    (unstored : i ∈ resvUnstored) :
    (resvSend (env.withStack stack) r).2.bytes[i]? = some (stack i) := by
  rw [resvSend_bytes, getElem?_contents, Nat.zero_add]
  rwa [ResvPacket.keptAt_pieces, Nat.zero_add]

/-- A sender sends its full packet, and two stacks give the same bytes exactly
when they agree at the offsets that no store reaches. -/
theorem packets_same_iff (env : Env) (p : PathMsg) (r : ResvMsg)
    (first second : Buffer) :
    ((pathSend (env.withStack first) p).2.bytes.length = pathPacketSize ∧
      ((pathSend (env.withStack first) p).2.bytes =
          (pathSend (env.withStack second) p).2.bytes ↔
        ∀ i ∈ pathUnstored, first i = second i)) ∧
    (resvSend (env.withStack first) r).2.bytes.length = resvPacketSize ∧
      ((resvSend (env.withStack first) r).2.bytes =
          (resvSend (env.withStack second) r).2.bytes ↔
        ∀ i ∈ resvUnstored, first i = second i) := by
  rw [pathSend_bytes, pathSend_bytes, resvSend_bytes, resvSend_bytes,
    contents_eq_iff, contents_eq_iff, length_contents, length_contents,
    PathPacket.keptAt_pieces, ResvPacket.keptAt_pieces, PathPacket.size_pieces,
    ResvPacket.size_pieces]
  exact ⟨⟨rfl, .rfl⟩, rfl, .rfl⟩

/-- A byte of the stack differs, and so do both packets. -/
theorem packets_differ :
    (pathSend ((Env.isolated 0).withStack fun _ => 0) default).2.bytes ≠
        (pathSend ((Env.isolated 0).withStack fun _ => 255)
          default).2.bytes ∧
      (resvSend ((Env.isolated 0).withStack fun _ => 0) default).2.bytes ≠
        (resvSend ((Env.isolated 0).withStack fun _ => 255)
          default).2.bytes := by
  decide +kernel

end Rsvpd
