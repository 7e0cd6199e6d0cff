import Rsvpd.Lib.Blocks
import Rsvpd.Record
import Mathlib.Data.List.Basic

/-!
# RSVP packets

The objects of `rsvp_msg.h`, the packets that the two senders assemble from
them, and the reading of objects at byte offsets of a received datagram.
Multi-byte fields hold what a little-endian host loads from memory.
-/

namespace Rsvpd

open Framing

def pathMsgType : U8 := 1
def resvMsgType : U8 := 2

structure RsvpHeader where
  versionFlags : U8
  msgType : U8
  checksum : U16
  ttl : U8
  reserved : U8
  length : U16
deriving DecidableEq, Inhabited

structure ClassObj where
  length : U16
  classNum : U8
  cType : U8
deriving DecidableEq, Inhabited

structure SessionObject where
  classObj : ClassObj
  dstIp : InAddr
  reserved : U16
  tunnelId : U16
  srcIp : InAddr
deriving DecidableEq, Inhabited

structure HopObject where
  classObj : ClassObj
  nextHop : InAddr
  ifh : U32
deriving DecidableEq, Inhabited

structure TimeObject where
  classObj : ClassObj
  interval : U32
deriving DecidableEq, Inhabited

structure LabelReqObject where
  classObj : ClassObj
  reserved : U16
  l3pid : U16
deriving DecidableEq, Inhabited

structure SessionAttrObject where
  classObj : ClassObj
  setupPrio : U8
  holdPrio : U8
  flags : U8
  nameLen : U8
  name : Vector U8 32
deriving DecidableEq, Inhabited

/-- `sender_temp_object` and `Filter_spec_object` have the same fields. -/
structure SenderTempObject where
  classObj : ClassObj
  srcIp : InAddr
  reserved : U16
  lspId : U16
deriving DecidableEq, Inhabited

abbrev FilterSpecObject := SenderTempObject

structure LabelObject where
  classObj : ClassObj
  label : U32
deriving DecidableEq, Inhabited

/-- `IP`: the receivers assume an IP header without options. -/
def ipHeaderLen : Nat := 20

def startSentSessionObj : Nat := 8
def startSentHopObj : Nat := startSentSessionObj + 16
def startSentTimeObj : Nat := startSentHopObj + 12
def startSentLabelReq : Nat := startSentTimeObj + 8
def startSentSessionAttrObj : Nat := startSentLabelReq + 8
def startSentSenderTempObj : Nat := startSentSessionAttrObj + 40
def pathPacketSize : Nat := startSentSenderTempObj + 12
def startSentFilterSpecObj : Nat := startSentTimeObj + 8
def startSentLabel : Nat := startSentFilterSpecObj + 12
def resvPacketSize : Nat := startSentLabel + 8

/-- `char buffer[512]` as the handlers read it. -/
abbrev Buffer := Nat → U8

/-- The zero-filled receive buffer after `recvfrom`. -/
def recvBuffer (datagram : List U8) : Buffer := fun i =>
  (datagram.take 512).getD i 0

def load16 (buffer : Buffer) (at' : Nat) : U16 :=
  buffer (at' + 1) ++ buffer at'

def load32 (buffer : Buffer) (at' : Nat) : U32 :=
  buffer (at' + 3) ++ buffer (at' + 2) ++ buffer (at' + 1) ++ buffer at'

def bytes16 (x : U16) : List U8 := [x.extractLsb' 0 8, x.extractLsb' 8 8]

def bytes32 (x : U32) : List U8 :=
  [x.extractLsb' 0 8, x.extractLsb' 8 8, x.extractLsb' 16 8,
    x.extractLsb' 24 8]

def ClassObj.bytes (obj : ClassObj) : List U8 :=
  bytes16 obj.length ++ [obj.classNum, obj.cType]

def ClassObj.load (buffer : Buffer) (at' : Nat) : ClassObj :=
  { length := load16 buffer at'
    classNum := buffer (at' + 2)
    cType := buffer (at' + 3) }

def RsvpHeader.bytes (obj : RsvpHeader) : List U8 :=
  [obj.versionFlags, obj.msgType] ++ bytes16 obj.checksum ++
    [obj.ttl, obj.reserved] ++ bytes16 obj.length

def RsvpHeader.load (buffer : Buffer) (at' : Nat) : RsvpHeader :=
  { versionFlags := buffer at'
    msgType := buffer (at' + 1)
    checksum := load16 buffer (at' + 2)
    ttl := buffer (at' + 4)
    reserved := buffer (at' + 5)
    length := load16 buffer (at' + 6) }

def SessionObject.bytes (obj : SessionObject) : List U8 :=
  obj.classObj.bytes ++ bytes32 obj.dstIp.sAddr ++ bytes16 obj.reserved ++
    bytes16 obj.tunnelId ++ bytes32 obj.srcIp.sAddr

def SessionObject.load (buffer : Buffer) (at' : Nat) : SessionObject :=
  { classObj := ClassObj.load buffer at'
    dstIp := ⟨load32 buffer (at' + 4)⟩
    reserved := load16 buffer (at' + 8)
    tunnelId := load16 buffer (at' + 10)
    srcIp := ⟨load32 buffer (at' + 12)⟩ }

def HopObject.bytes (obj : HopObject) : List U8 :=
  obj.classObj.bytes ++ bytes32 obj.nextHop.sAddr ++ bytes32 obj.ifh

def HopObject.load (buffer : Buffer) (at' : Nat) : HopObject :=
  { classObj := ClassObj.load buffer at'
    nextHop := ⟨load32 buffer (at' + 4)⟩
    ifh := load32 buffer (at' + 8) }

def TimeObject.bytes (obj : TimeObject) : List U8 :=
  obj.classObj.bytes ++ bytes32 obj.interval

def TimeObject.load (buffer : Buffer) (at' : Nat) : TimeObject :=
  { classObj := ClassObj.load buffer at'
    interval := load32 buffer (at' + 4) }

def LabelReqObject.bytes (obj : LabelReqObject) : List U8 :=
  obj.classObj.bytes ++ bytes16 obj.reserved ++ bytes16 obj.l3pid

def SessionAttrObject.bytes (obj : SessionAttrObject) : List U8 :=
  obj.classObj.bytes ++
    [obj.setupPrio, obj.holdPrio, obj.flags, obj.nameLen] ++ obj.name.toList

def SessionAttrObject.load (buffer : Buffer) (at' : Nat) :
    SessionAttrObject :=
  { classObj := ClassObj.load buffer at'
    setupPrio := buffer (at' + 4)
    holdPrio := buffer (at' + 5)
    flags := buffer (at' + 6)
    nameLen := buffer (at' + 7)
    name := Vector.ofFn fun i => buffer (at' + 8 + i) }

def SenderTempObject.bytes (obj : SenderTempObject) : List U8 :=
  obj.classObj.bytes ++ bytes32 obj.srcIp.sAddr ++ bytes16 obj.reserved ++
    bytes16 obj.lspId

def LabelObject.bytes (obj : LabelObject) : List U8 :=
  obj.classObj.bytes ++ bytes32 obj.label

def LabelObject.load (buffer : Buffer) (at' : Nat) : LabelObject :=
  { classObj := ClassObj.load buffer at'
    label := load32 buffer (at' + 4) }

/-- `path_packet` seen through the object pointers of `send_path_message`. -/
structure PathPacket where
  path : RsvpHeader
  sessionObj : SessionObject
  hopObj : HopObject
  timeObj : TimeObject
  labelReqObj : LabelReqObject
  sessionAttrObj : SessionAttrObject
  senderTempObj : SenderTempObject
deriving DecidableEq, Inhabited

/-- `resv_packet` seen through the object pointers of `send_resv_message`. -/
structure ResvPacket where
  resv : RsvpHeader
  sessionObj : SessionObject
  hopObj : HopObject
  timeObj : TimeObject
  specObj : FilterSpecObject
  labelObj : LabelObject
deriving DecidableEq, Inhabited

def PathPacket.bytes (packet : PathPacket) : List U8 :=
  packet.path.bytes ++ packet.sessionObj.bytes ++ packet.hopObj.bytes ++
    packet.timeObj.bytes ++ packet.labelReqObj.bytes ++
    packet.sessionAttrObj.bytes ++ packet.senderTempObj.bytes

def ResvPacket.bytes (packet : ResvPacket) : List U8 :=
  packet.resv.bytes ++ packet.sessionObj.bytes ++ packet.hopObj.bytes ++
    packet.timeObj.bytes ++ packet.specObj.bytes ++ packet.labelObj.bytes

/-- The stores of `send_path_message` into its local array, whose initial
contents are `stack`. -/
def fillPathPacket (stack : PathPacket) (p : PathMsg) : PathPacket :=
  { path :=
      { versionFlags := 0x10, msgType := pathMsgType
        length := htons (BitVec.ofNat 16 pathPacketSize)
        checksum := 0, ttl := 255, reserved := 0 }
    sessionObj :=
      { stack.sessionObj with
        classObj := { classNum := 1, cType := 7, length := htons 16 }
        dstIp := p.destIp
        tunnelId := htons p.tunnelId
        srcIp := p.srcIp }
    hopObj :=
      { classObj := { classNum := 3, cType := 1, length := htons 12 }
        nextHop := p.eSrcip
        ifh := htonl p.ifh }
    timeObj :=
      { classObj := { classNum := 5, cType := 1, length := htons 8 }
        interval := htonl p.interval }
    labelReqObj :=
      { stack.labelReqObj with
        classObj := { classNum := 19, cType := 1, length := htons 8 }
        l3pid := htons 0x0800 }
    sessionAttrObj :=
      { stack.sessionAttrObj with
        classObj := { classNum := 207, cType := 7, length := htons 40 }
        setupPrio := p.setupPriority
        holdPrio := p.holdPriority
        flags := p.flags
        nameLen := 4 }
    senderTempObj :=
      { classObj := { classNum := 11, cType := 7, length := htons 12 }
        srcIp := p.srcIp
        reserved := 0
        lspId := htons p.lspId } }

/-- The stores of `send_resv_message` into its local array. -/
def fillResvPacket (stack : ResvPacket) (p : ResvMsg) : ResvPacket :=
  { resv :=
      { versionFlags := 0x10, msgType := resvMsgType
        length := htons (BitVec.ofNat 16 resvPacketSize)
        checksum := 0, ttl := 255, reserved := 0 }
    sessionObj :=
      { stack.sessionObj with
        classObj := { classNum := 1, cType := 7, length := htons 16 }
        dstIp := p.destIp
        tunnelId := htons p.tunnelId
        srcIp := p.srcIp }
    hopObj :=
      { classObj := { classNum := 3, cType := 1, length := htons 12 }
        nextHop := p.eSrcip
        ifh := htonl p.ifh }
    timeObj :=
      { classObj := { classNum := 5, cType := 1, length := htons 8 }
        interval := htonl p.interval }
    specObj :=
      { classObj := { classNum := 16, cType := 1, length := htons 12 }
        srcIp := p.srcIp
        reserved := 0
        lspId := 1 }
    labelObj :=
      { classObj := { classNum := 16, cType := 1, length := htons 8 }
        label := htonl p.inLabel } }

/-- A packet on the wire. -/
inductive Packet where
  | path (packet : PathPacket)
  | resv (packet : ResvPacket)
deriving DecidableEq

def Packet.bytes : Packet → List U8
  | .path packet => packet.bytes
  | .resv packet => packet.bytes

def Packet.sessionObj : Packet → SessionObject
  | .path packet => packet.sessionObj
  | .resv packet => packet.sessionObj

def Packet.msgType : Packet → U8
  | .path packet => packet.path.msgType
  | .resv packet => packet.resv.msgType

def Packet.hopObj : Packet → HopObject
  | .path packet => packet.hopObj
  | .resv packet => packet.hopObj

@[simp] theorem length_bytes16 (x : U16) : (bytes16 x).length = 2 := rfl

@[simp] theorem length_bytes32 (x : U32) : (bytes32 x).length = 4 := rfl

@[simp] theorem ClassObj.length_bytes (obj : ClassObj) :
    obj.bytes.length = 4 := rfl

@[simp] theorem RsvpHeader.length_bytes (obj : RsvpHeader) :
    obj.bytes.length = 8 := rfl

@[simp] theorem HopObject.length_bytes (obj : HopObject) :
    obj.bytes.length = 12 := rfl

@[simp] theorem TimeObject.length_bytes (obj : TimeObject) :
    obj.bytes.length = 8 := rfl

@[simp] theorem SenderTempObject.length_bytes (obj : SenderTempObject) :
    obj.bytes.length = 12 := rfl

@[simp] theorem LabelObject.length_bytes (obj : LabelObject) :
    obj.bytes.length = 8 := rfl

@[simp] theorem SessionObject.length_bytes (obj : SessionObject) :
    obj.bytes.length = 16 := rfl

@[simp] theorem LabelReqObject.length_bytes (obj : LabelReqObject) :
    obj.bytes.length = 8 := rfl

@[simp] theorem SessionAttrObject.length_bytes (obj : SessionAttrObject) :
    obj.bytes.length = 40 := by
  simp [SessionAttrObject.bytes]

section Fields

variable {buffer : Buffer} {at' : Nat}

theorem load16_of_shows {x : U16} (shows : Shows buffer at' (bytes16 x)) :
    load16 buffer at' = x := by
  obtain ⟨low, high, _⟩ := shows
  rw [load16, low, high, append_bytes16]

theorem load32_of_shows {x : U32} (shows : Shows buffer at' (bytes32 x)) :
    load32 buffer at' = x := by
  obtain ⟨first, second, third, fourth, _⟩ := shows
  simp only [Nat.add_assoc, Nat.reduceAdd] at second third fourth
  rw [load32, first, second, third, fourth, append_bytes32]

theorem RsvpHeader.load_of_shows {obj : RsvpHeader}
    (shows : Shows buffer at' obj.bytes) :
    RsvpHeader.load buffer at' = obj := by
  simp only [RsvpHeader.bytes, shows_append, Shows, List.length_append,
    List.length_cons, List.length_nil, length_bytes16, and_true,
    Nat.add_assoc, Nat.reduceAdd] at shows
  obtain ⟨⟨⟨⟨versionFlags, msgType⟩, checksum⟩, ttl, reserved⟩, length⟩ :=
    shows
  rw [RsvpHeader.load, versionFlags, msgType, load16_of_shows checksum, ttl,
    reserved, load16_of_shows length]

theorem ClassObj.load_of_shows {obj : ClassObj}
    (shows : Shows buffer at' obj.bytes) : ClassObj.load buffer at' = obj := by
  simp only [ClassObj.bytes, shows_append, Shows, length_bytes16, and_true,
    Nat.add_assoc, Nat.reduceAdd] at shows
  obtain ⟨length, classNum, cType⟩ := shows
  rw [ClassObj.load, load16_of_shows length, classNum, cType]

theorem SessionObject.load_of_shows {obj : SessionObject}
    (shows : Shows buffer at' obj.bytes) :
    SessionObject.load buffer at' = obj := by
  simp only [SessionObject.bytes, shows_append, List.length_append,
    ClassObj.length_bytes, length_bytes16, length_bytes32,
    Nat.reduceAdd] at shows
  obtain ⟨⟨⟨⟨classObj, dstIp⟩, reserved⟩, tunnelId⟩, srcIp⟩ := shows
  rw [SessionObject.load, ClassObj.load_of_shows classObj,
    load32_of_shows dstIp, load16_of_shows reserved,
    load16_of_shows tunnelId, load32_of_shows srcIp]

theorem HopObject.load_of_shows {obj : HopObject}
    (shows : Shows buffer at' obj.bytes) :
    HopObject.load buffer at' = obj := by
  simp only [HopObject.bytes, shows_append, List.length_append,
    ClassObj.length_bytes, length_bytes32, Nat.reduceAdd] at shows
  obtain ⟨⟨classObj, nextHop⟩, ifh⟩ := shows
  rw [HopObject.load, ClassObj.load_of_shows classObj, load32_of_shows nextHop,
    load32_of_shows ifh]

theorem TimeObject.load_of_shows {obj : TimeObject}
    (shows : Shows buffer at' obj.bytes) :
    TimeObject.load buffer at' = obj := by
  simp only [TimeObject.bytes, shows_append, ClassObj.length_bytes] at shows
  obtain ⟨classObj, interval⟩ := shows
  rw [TimeObject.load, ClassObj.load_of_shows classObj,
    load32_of_shows interval]

theorem LabelObject.load_of_shows {obj : LabelObject}
    (shows : Shows buffer at' obj.bytes) :
    LabelObject.load buffer at' = obj := by
  simp only [LabelObject.bytes, shows_append, ClassObj.length_bytes] at shows
  obtain ⟨classObj, label⟩ := shows
  rw [LabelObject.load, ClassObj.load_of_shows classObj, load32_of_shows label]

theorem SessionAttrObject.load_of_shows {obj : SessionAttrObject}
    (shows : Shows buffer at' obj.bytes) :
    SessionAttrObject.load buffer at' = obj := by
  simp only [SessionAttrObject.bytes, shows_append, Shows,
    List.length_append, List.length_cons, List.length_nil,
    ClassObj.length_bytes, and_true, Nat.add_assoc, Nat.reduceAdd] at shows
  obtain ⟨⟨classObj, setupPrio, holdPrio, flags, nameLen⟩, name⟩ := shows
  have copied : (Vector.ofFn fun i : Fin 32 => buffer (at' + 8 + i)) =
      obj.name := by
    apply Vector.ext
    intro i inRange
    rw [Vector.getElem_ofFn, name.get (by simpa using inRange)]
    simp
  rw [SessionAttrObject.load, ClassObj.load_of_shows classObj, setupPrio,
    holdPrio, flags, nameLen, copied]

/-- Memory holds a PATH from a position on, each object at its offset. -/
structure PathPacket.Placed (packet : PathPacket) (buffer : Buffer)
    (start : Nat) : Prop where
  path : Shows buffer start packet.path.bytes
  sessionObj : Shows buffer (start + startSentSessionObj)
    packet.sessionObj.bytes
  hopObj : Shows buffer (start + startSentHopObj) packet.hopObj.bytes
  timeObj : Shows buffer (start + startSentTimeObj) packet.timeObj.bytes
  labelReqObj : Shows buffer (start + startSentLabelReq)
    packet.labelReqObj.bytes
  sessionAttrObj : Shows buffer (start + startSentSessionAttrObj)
    packet.sessionAttrObj.bytes
  senderTempObj : Shows buffer (start + startSentSenderTempObj)
    packet.senderTempObj.bytes

structure ResvPacket.Placed (packet : ResvPacket) (buffer : Buffer)
    (start : Nat) : Prop where
  resv : Shows buffer start packet.resv.bytes
  sessionObj : Shows buffer (start + startSentSessionObj)
    packet.sessionObj.bytes
  hopObj : Shows buffer (start + startSentHopObj) packet.hopObj.bytes
  timeObj : Shows buffer (start + startSentTimeObj) packet.timeObj.bytes
  specObj : Shows buffer (start + startSentFilterSpecObj)
    packet.specObj.bytes
  labelObj : Shows buffer (start + startSentLabel) packet.labelObj.bytes

theorem PathPacket.placed {packet : PathPacket} {start : Nat}
    (shows : Shows buffer start packet.bytes) :
    packet.Placed buffer start := by
  simp only [PathPacket.bytes, shows_append, List.length_append,
    RsvpHeader.length_bytes, SessionObject.length_bytes,
    HopObject.length_bytes, TimeObject.length_bytes,
    LabelReqObject.length_bytes, SessionAttrObject.length_bytes] at shows
  obtain ⟨⟨⟨⟨⟨⟨path, sessionObj⟩, hopObj⟩, timeObj⟩, labelReqObj⟩,
    sessionAttrObj⟩, senderTempObj⟩ := shows
  exact
    { path, sessionObj, hopObj, timeObj, labelReqObj, sessionAttrObj,
      senderTempObj }

theorem ResvPacket.placed {packet : ResvPacket} {start : Nat}
    (shows : Shows buffer start packet.bytes) :
    packet.Placed buffer start := by
  simp only [ResvPacket.bytes, shows_append, List.length_append,
    RsvpHeader.length_bytes, SessionObject.length_bytes,
    HopObject.length_bytes, TimeObject.length_bytes,
    SenderTempObject.length_bytes] at shows
  obtain ⟨⟨⟨⟨⟨resv, sessionObj⟩, hopObj⟩, timeObj⟩, specObj⟩, labelObj⟩ :=
    shows
  exact { resv, sessionObj, hopObj, timeObj, specObj, labelObj }

end Fields

def Packet.timeObj : Packet → TimeObject
  | .path packet => packet.timeObj
  | .resv packet => packet.timeObj

/-- The bytes of a packet as memory. -/
def Packet.memory (packet : Packet) : Buffer := fun i => packet.bytes.getD i 0

theorem Packet.shows_memory (packet : Packet) :
    Shows packet.memory 0 packet.bytes :=
  shows_getD [] packet.bytes fun _ => 0

theorem Packet.length_bytes_le (packet : Packet) :
    packet.bytes.length ≤ 104 := by
  cases packet with
  | path packet => simp [Packet.bytes, PathPacket.bytes]
  | resv packet => simp [Packet.bytes, ResvPacket.bytes]

/-- Behind a 20-byte IP header the receivers find the packet itself. -/
theorem Packet.shows_recvBuffer {ipHeader : List U8}
    (headerLen : ipHeader.length = ipHeaderLen) (packet : Packet) :
    Shows (recvBuffer (ipHeader ++ packet.bytes)) ipHeaderLen
      packet.bytes := by
  have bound := packet.length_bytes_le
  have whole : (ipHeader ++ packet.bytes).take 512 =
      ipHeader ++ packet.bytes := by
    apply List.take_of_length_le
    rw [List.length_append, headerLen, ipHeaderLen]
    omega
  have shows := shows_getD ipHeader packet.bytes fun _ => 0
  rw [headerLen] at shows
  unfold recvBuffer
  rwa [whole]

section Decode

variable {buffer : Buffer} {start : Nat}

theorem Packet.load_msgType {packet : Packet}
    (shows : Shows buffer start packet.bytes) :
    (RsvpHeader.load buffer start).msgType = packet.msgType := by
  cases packet with
  | path packet =>
      rw [RsvpHeader.load_of_shows (PathPacket.placed shows).path]
      rfl
  | resv packet =>
      rw [RsvpHeader.load_of_shows (ResvPacket.placed shows).resv]
      rfl

theorem Packet.load_sessionObj {packet : Packet}
    (shows : Shows buffer start packet.bytes) :
    SessionObject.load buffer (start + startSentSessionObj) =
      packet.sessionObj := by
  cases packet with
  | path packet =>
      exact SessionObject.load_of_shows (PathPacket.placed shows).sessionObj
  | resv packet =>
      exact SessionObject.load_of_shows (ResvPacket.placed shows).sessionObj

theorem Packet.load_hopObj {packet : Packet}
    (shows : Shows buffer start packet.bytes) :
    HopObject.load buffer (start + startSentHopObj) = packet.hopObj := by
  cases packet with
  | path packet =>
      exact HopObject.load_of_shows (PathPacket.placed shows).hopObj
  | resv packet =>
      exact HopObject.load_of_shows (ResvPacket.placed shows).hopObj

theorem Packet.load_timeObj {packet : Packet}
    (shows : Shows buffer start packet.bytes) :
    TimeObject.load buffer (start + startSentTimeObj) = packet.timeObj := by
  cases packet with
  | path packet =>
      exact TimeObject.load_of_shows (PathPacket.placed shows).timeObj
  | resv packet =>
      exact TimeObject.load_of_shows (ResvPacket.placed shows).timeObj

end Decode

end Rsvpd
