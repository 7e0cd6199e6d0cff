import Rsvpd.PacketMemory
import Rsvpd.Lib.Framing

/-!
# Walking a packet object by object

A receiver that does not know the fixed offsets starts behind the common
header and goes from object to object by the lengths and classes it reads.
The walk through either packet ends where the header says.  A RESV shows its
filter spec under the class of a label, so no walk finds the sender in it.
-/

namespace Rsvpd

open Framing

def filterSpec : U8 := 10
def rsvpLabel : U8 := 16

/-- The length of a packet as its header states it. -/
def headerLength (buffer : Buffer) : Nat :=
  (ntohs (RsvpHeader.load buffer 0).length).toNat

/-- The length that the object at a position states. -/
def objectLength (buffer : Buffer) (at' : Nat) : Nat :=
  (ntohs (ClassObj.load buffer at').length).toNat

/-- The objects of one class. -/
def ofClass (buffer : Buffer) (classNum : U8) (objects : List Nat) :
    List Nat :=
  objects.filter fun at' => (ClassObj.load buffer at').classNum = classNum

/-- Source address and LSP id agree byte for byte. -/
def SameSender (spec : FilterSpecObject) (template : SenderTempObject) :
    Prop :=
  spec.srcIp = template.srcIp ∧ spec.lspId = template.lspId

/-- The walk through a RESV ends where its header says and meets one label,
that of the record, and one filter spec, which names the sender of the
PATH. -/
def SelfDescribing (r : ResvMsg) (resv path : Buffer) : Prop :=
  ∃ objects label spec,
    Walk (objectLength resv) (headerLength resv) startSentSessionObj
      objects ∧
    ofClass resv rsvpLabel objects = [label] ∧
    ntohl (LabelObject.load resv label).label = r.inLabel ∧
    ofClass resv filterSpec objects = [spec] ∧
    SameSender (SenderTempObject.load resv spec)
      (SenderTempObject.load path startSentSenderTempObj)

theorem SenderTempObject.load_of_shows {obj : SenderTempObject}
    {buffer : Buffer} {at' : Nat} (shows : Shows buffer at' obj.bytes) :
    SenderTempObject.load buffer at' = obj := by
  simp only [SenderTempObject.bytes, shows_append, List.length_append,
    ClassObj.length_bytes, length_bytes16, length_bytes32,
    Nat.reduceAdd] at shows
  obtain ⟨⟨⟨classObj, srcIp⟩, reserved⟩, lspId⟩ := shows
  rw [SenderTempObject.load, ClassObj.load_of_shows classObj,
    load32_of_shows srcIp, load16_of_shows reserved, load16_of_shows lspId]

theorem LabelReqObject.load_classObj {obj : LabelReqObject}
    {buffer : Buffer} {at' : Nat} (shows : Shows buffer at' obj.bytes) :
    ClassObj.load buffer at' = obj.classObj := by
  simp only [LabelReqObject.bytes, shows_append] at shows
  exact ClassObj.load_of_shows shows.1.1

theorem Packet.load_length (packet : Packet) :
    (RsvpHeader.load packet.memory 0).length =
      match packet with
      | .path packet => packet.path.length
      | .resv packet => packet.resv.length := by
  cases packet with
  | path packet =>
      have placed := PathPacket.placed (Packet.path packet).shows_memory
      rw [RsvpHeader.load_of_shows placed.path]
  | resv packet =>
      have placed := ResvPacket.placed (Packet.resv packet).shows_memory
      rw [RsvpHeader.load_of_shows placed.resv]

def resvSizes : List Nat := [16, 12, 8, 12, 8]
def pathSizes : List Nat := [16, 12, 8, 8, 40, 12]

theorem ResvPacket.classObjs (packet : ResvPacket) :
    (starts startSentSessionObj resvSizes).map
        (ClassObj.load (Packet.resv packet).memory) =
      [packet.sessionObj.classObj, packet.hopObj.classObj,
        packet.timeObj.classObj, packet.specObj.classObj,
        packet.labelObj.classObj] := by
  have placed := ResvPacket.placed (Packet.resv packet).shows_memory
  have session := SessionObject.load_of_shows placed.sessionObj
  have hop := HopObject.load_of_shows placed.hopObj
  have time := TimeObject.load_of_shows placed.timeObj
  have spec := SenderTempObject.load_of_shows placed.specObj
  have label := LabelObject.load_of_shows placed.labelObj
  exact congrArg₂ List.cons (congrArg SessionObject.classObj session)
    (congrArg₂ List.cons (congrArg HopObject.classObj hop)
      (congrArg₂ List.cons (congrArg TimeObject.classObj time)
        (congrArg₂ List.cons (congrArg SenderTempObject.classObj spec)
          (congrArg₂ List.cons (congrArg LabelObject.classObj label) rfl))))

theorem PathPacket.classObjs (packet : PathPacket) :
    (starts startSentSessionObj pathSizes).map
        (ClassObj.load (Packet.path packet).memory) =
      [packet.sessionObj.classObj, packet.hopObj.classObj,
        packet.timeObj.classObj, packet.labelReqObj.classObj,
        packet.sessionAttrObj.classObj, packet.senderTempObj.classObj] := by
  have placed := PathPacket.placed (Packet.path packet).shows_memory
  have session := SessionObject.load_of_shows placed.sessionObj
  have hop := HopObject.load_of_shows placed.hopObj
  have time := TimeObject.load_of_shows placed.timeObj
  have request := LabelReqObject.load_classObj placed.labelReqObj
  have attributes := SessionAttrObject.load_of_shows placed.sessionAttrObj
  have template := SenderTempObject.load_of_shows placed.senderTempObj
  exact congrArg₂ List.cons (congrArg SessionObject.classObj session)
    (congrArg₂ List.cons (congrArg HopObject.classObj hop)
      (congrArg₂ List.cons (congrArg TimeObject.classObj time)
        (congrArg₂ List.cons request
          (congrArg₂ List.cons
            (congrArg SessionAttrObject.classObj attributes)
            (congrArg₂ List.cons
              (congrArg SenderTempObject.classObj template) rfl)))))

theorem walk_of_classObjs {buffer : Buffer} {sizes : List Nat}
    {classObjs : List ClassObj}
    (loaded : (starts startSentSessionObj sizes).map (ClassObj.load buffer) =
      classObjs)
    (stated : classObjs.map (fun obj => (ntohs obj.length).toNat) = sizes)
    (positive : ∀ size ∈ sizes, 0 < size)
    (header : headerLength buffer = finish startSentSessionObj sizes) :
    Walk (objectLength buffer) (headerLength buffer) startSentSessionObj
      (starts startSentSessionObj sizes) := by
  rw [header]
  refine Walk.of_sizes ?_ positive
  calc
    (starts startSentSessionObj sizes).map (objectLength buffer) =
        ((starts startSentSessionObj sizes).map (ClassObj.load buffer)).map
          fun obj => (ntohs obj.length).toNat := by
      rw [List.map_map]
      rfl
    _ = classObjs.map fun obj => (ntohs obj.length).toNat := by rw [loaded]
    _ = sizes := stated

theorem resvSend_walk (env : Env) (r : ResvMsg) :
    Walk (objectLength (resvSend env r).2.memory)
      (headerLength (resvSend env r).2.memory) startSentSessionObj
      (starts startSentSessionObj resvSizes) := by
  apply walk_of_classObjs (ResvPacket.classObjs (fillResvPacket _ r))
  · simp [fillResvPacket, resvSizes]
  · decide
  · rw [headerLength, Packet.load_length]
    simp [fillResvPacket]
    rfl

theorem pathSend_walk (env : Env) (p : PathMsg) :
    Walk (objectLength (pathSend env p).2.memory)
      (headerLength (pathSend env p).2.memory) startSentSessionObj
      (starts startSentSessionObj pathSizes) := by
  apply walk_of_classObjs (PathPacket.classObjs (fillPathPacket _ p))
  · simp [fillPathPacket, pathSizes]
  · decide
  · rw [headerLength, Packet.load_length]
    simp [fillPathPacket]
    rfl

theorem ofClass_map (buffer : Buffer) (classNum : U8) (objects : List Nat) :
    (ofClass buffer classNum objects).map (ClassObj.load buffer) =
      (objects.map (ClassObj.load buffer)).filter fun obj =>
        obj.classNum = classNum := by
  rw [ofClass, List.filter_map]
  rfl

/-- Both the filter spec and the label of a RESV carry the class of a
label. -/
theorem resvSend_classes (env : Env) (r : ResvMsg) :
    (ofClass (resvSend env r).2.memory filterSpec
        (starts startSentSessionObj resvSizes)).length = 0 ∧
      (ofClass (resvSend env r).2.memory rsvpLabel
        (starts startSentSessionObj resvSizes)).length = 2 := by
  have loaded := ResvPacket.classObjs (fillResvPacket env.resvStack r)
  constructor
  · rw [← List.length_map (f := ClassObj.load _), ofClass_map, resvSend,
      loaded]
    rfl
  · rw [← List.length_map (f := ClassObj.load _), ofClass_map, resvSend,
      loaded]
    rfl

theorem sameSender_iff (resvStack : ResvPacket) (pathStack : PathPacket)
    (r : ResvMsg) (p : PathMsg) :
    SameSender (fillResvPacket resvStack r).specObj
        (fillPathPacket pathStack p).senderTempObj ↔
      r.srcIp = p.srcIp ∧ p.lspId = 0x0100 := by
  have swapped : 1 = htons p.lspId ↔ p.lspId = 0x0100 := by
    constructor
    · intro same
      rw [← ntohs_htons p.lspId, ← same]
      decide
    · intro same
      rw [same]
      decide
  exact and_congr Iff.rfl swapped

theorem ofClass_filterSpec {env : Env} {r : ResvMsg} {objects : List Nat}
    (walk : Walk (objectLength (resvSend env r).2.memory)
      (headerLength (resvSend env r).2.memory) startSentSessionObj
      objects) :
    ofClass (resvSend env r).2.memory filterSpec objects = [] := by
  rw [walk.unique (resvSend_walk env r)]
  exact List.length_eq_zero_iff.mp (resvSend_classes env r).1

/-- A RESV never describes itself: the walk meets two labels and no filter
spec. -/
theorem resv_not_selfDescribing (env pathEnv : Env) (r : ResvMsg)
    (p : PathMsg) :
    ¬SelfDescribing r (resvSend env r).2.memory
      (pathSend pathEnv p).2.memory := by
  rintro ⟨objects, label, spec, walk, _, _, specs, _⟩
  rw [ofClass_filterSpec walk] at specs
  cases specs

/-- The RESV of tunnel 1 from 10.0.0.1 with label 16. -/
theorem resv_without_filterSpec :
    let r : ResvMsg :=
      { (default : ResvMsg) with
        tunnelId := 1, srcIp := ⟨0x0100000a⟩, inLabel := 16 }
    let p : PathMsg :=
      { (default : PathMsg) with
        tunnelId := 1, srcIp := ⟨0x0100000a⟩, lspId := 1 }
    ¬SelfDescribing r (resvSend (.isolated 0) r).2.memory
      (pathSend (.isolated 0) p).2.memory := by
  rintro r p ⟨objects, label, spec, walk, _, _, specs, _⟩
  rw [ofClass_filterSpec walk] at specs
  cases specs

end Rsvpd
