import Rsvpd.Label
import Rsvpd.Packet
import Rsvpd.RecordTree
import Rsvpd.Route
import Rsvpd.SessionList

/-!
# The state of the daemon and its message handlers

`Daemon` holds the shared variables of `rsvpd` and a trace of what the
handlers do: lock operations, assignments to the shared pointers, packets
sent, and commands run.  `Env` is what one run of a handler gets from outside:
the clock, the answers of its route lookups, the outcomes of its node
allocations, and the previous contents of uninitialised memory.
-/

namespace Rsvpd

/-- The four mutexes, each named after the pointer it guards. -/
inductive Mutex where
  | pathTree
  | resvTree
  | pathList
  | resvList
deriving DecidableEq

/-- A route as an `ip route` command names it. -/
inductive KernelRoute where
  | push (network : InAddr) (prefixLen : U8) (outLabel : U32) (via : InAddr)
      (dev : String)
  | pop (inLabel : U32) (via : InAddr) (dev : String)
  | swap (inLabel outLabel : U32) (via : InAddr)
deriving DecidableEq

/-- A command line given to `system`. -/
inductive Command where
  | add (route : KernelRoute)
  | del (route : KernelRoute)
deriving DecidableEq

inductive Effect where
  | lock (mutex : Mutex)
  | unlock (mutex : Mutex)
  /-- An assignment to the pointer that the mutex guards. -/
  | assign (pointer : Mutex)
  | send (dest : InAddr) (packet : Packet)
  | system (command : Command)
deriving DecidableEq

namespace Effect

@[simp] def sent? : Effect → Option (InAddr × Packet)
  | .send dest packet => some (dest, packet)
  | _ => none

@[simp] def command? : Effect → Option Command
  | .system command => some command
  | _ => none

end Effect

/-- The shared variables and the trace, oldest effect first. -/
structure Daemon where
  pathTree : RecordTree PathMsg
  resvTree : RecordTree ResvMsg
  pathHead : List Session
  resvHead : List Session
  labelBitmap : LabelBitmap
  trace : List Effect

/-- What one run of a handler gets from outside.  `reachRoute` answers the
lookup of `dst_reached`, `insertRoute` the one of `path_tree_insert`. -/
structure Env where
  now : Int
  reachRoute : InAddr → NexthopAnswer
  insertRoute : InAddr → NexthopAnswer
  srcipRoute : InAddr → SrcipAnswer
  pathMalloc : Bool
  resvMalloc : Bool
  pathHeap : PathMsg
  resvHeap : ResvMsg
  pathStack : PathPacket
  resvStack : ResvPacket

/-- An environment without routes: every lookup fails, every allocation
succeeds, and uninitialised memory is zero. -/
def Env.isolated (now : Int) : Env :=
  { now
    reachRoute := fun _ => { ret := 0, nhip := none, prefixLen := 0,
                             dev := "", ifh := 0 }
    insertRoute := fun _ => { ret := 0, nhip := none, prefixLen := 0,
                              dev := "", ifh := 0 }
    srcipRoute := fun _ => { ret := 0, srcip := none, ifh := 0 }
    pathMalloc := true
    resvMalloc := true
    pathHeap := default
    resvHeap := default
    pathStack := default
    resvStack := default }

namespace Daemon

/-- The zero-initialised variables before `main` runs. -/
@[simps -fullyApplied] def init : Daemon :=
  { pathTree := .null, resvTree := .null, pathHead := [], resvHead := [],
    labelBitmap := .empty, trace := [] }

@[simps -fullyApplied] def emit (effect : Effect) (d : Daemon) : Daemon :=
  { d with trace := d.trace ++ [effect] }

/-- Several effects at once. -/
@[simps -fullyApplied] def emits (effects : List Effect) (d : Daemon) :
    Daemon :=
  { d with trace := d.trace ++ effects }

@[simps! -fullyApplied] def lock (mutex : Mutex) (d : Daemon) : Daemon :=
  d.emit (.lock mutex)

@[simps! -fullyApplied] def unlock (mutex : Mutex) (d : Daemon) : Daemon :=
  d.emit (.unlock mutex)

@[simps! -fullyApplied] def setPathTree (tree : RecordTree PathMsg)
    (d : Daemon) : Daemon :=
  { d with pathTree := tree }.emit (.assign .pathTree)

@[simps! -fullyApplied] def setResvTree (tree : RecordTree ResvMsg)
    (d : Daemon) : Daemon :=
  { d with resvTree := tree }.emit (.assign .resvTree)

@[simps! -fullyApplied] def setPathHead (head : List Session)
    (d : Daemon) : Daemon :=
  { d with pathHead := head }.emit (.assign .pathList)

@[simps! -fullyApplied] def setResvHead (head : List Session)
    (d : Daemon) : Daemon :=
  { d with resvHead := head }.emit (.assign .resvList)

/-- The packets sent so far, each with its destination. -/
def sent (d : Daemon) : List (InAddr × Packet) :=
  d.trace.filterMap Effect.sent?

/-- The commands run so far. -/
def commands (d : Daemon) : List Command :=
  d.trace.filterMap Effect.command?

@[simp] theorem init_sent : init.sent = [] := rfl

@[simp] theorem init_commands : init.commands = [] := rfl

section Trace

variable (d : Daemon) (mutex : Mutex) (head : List Session)

@[simp] theorem emit_sent (effect : Effect) :
    (d.emit effect).sent = d.sent ++ effect.sent?.toList := by
  cases effect <;> simp [sent, Effect.sent?]

@[simp] theorem emit_commands (effect : Effect) :
    (d.emit effect).commands = d.commands ++ effect.command?.toList := by
  cases effect <;> simp [commands, Effect.command?]

@[simp] theorem emits_sent (effects : List Effect) :
    (d.emits effects).sent = d.sent ++ effects.filterMap Effect.sent? := by
  simp [sent]

@[simp] theorem emits_commands (effects : List Effect) :
    (d.emits effects).commands =
      d.commands ++ effects.filterMap Effect.command? := by
  simp [commands]

@[simp] theorem lock_sent : (d.lock mutex).sent = d.sent := by
  simp [lock, Effect.sent?]

@[simp] theorem lock_commands : (d.lock mutex).commands = d.commands := by
  simp [lock, Effect.command?]

@[simp] theorem unlock_sent : (d.unlock mutex).sent = d.sent := by
  simp [unlock, Effect.sent?]

@[simp] theorem unlock_commands : (d.unlock mutex).commands = d.commands := by
  simp [unlock, Effect.command?]

@[simp] theorem setPathTree_sent (tree : RecordTree PathMsg) :
    (d.setPathTree tree).sent = d.sent := by
  simp [sent, Effect.sent?]

@[simp] theorem setPathTree_commands (tree : RecordTree PathMsg) :
    (d.setPathTree tree).commands = d.commands := by
  simp [commands, Effect.command?]

@[simp] theorem setResvTree_sent (tree : RecordTree ResvMsg) :
    (d.setResvTree tree).sent = d.sent := by
  simp [sent, Effect.sent?]

@[simp] theorem setResvTree_commands (tree : RecordTree ResvMsg) :
    (d.setResvTree tree).commands = d.commands := by
  simp [commands, Effect.command?]

@[simp] theorem setPathHead_sent : (d.setPathHead head).sent = d.sent := by
  simp [sent, Effect.sent?]

@[simp] theorem setPathHead_commands :
    (d.setPathHead head).commands = d.commands := by
  simp [commands, Effect.command?]

@[simp] theorem setResvHead_sent : (d.setResvHead head).sent = d.sent := by
  simp [sent, Effect.sent?]

@[simp] theorem setResvHead_commands :
    (d.setResvHead head).commands = d.commands := by
  simp [commands, Effect.command?]

end Trace

end Daemon

def sendPathMessage (env : Env) (tunnelId : U16) (d : Daemon) : Daemon :=
  let d := (d.lock .pathTree).unlock .pathTree
  match d.pathTree.find tunnelId with
  | none => d
  | some p =>
      d.emit (.send p.nexthopIp (.path (fillPathPacket env.pathStack p)))

def sendResvMessage (env : Env) (tunnelId : U16) (d : Daemon) : Daemon :=
  let d := (d.lock .resvTree).unlock .resvTree
  match d.resvTree.find tunnelId with
  | none => d
  | some p =>
      d.emit (.send p.nexthopIp (.resv (fillResvPacket env.resvStack p)))

def recvHeader (buffer : Buffer) : RsvpHeader :=
  RsvpHeader.load buffer ipHeaderLen

def recvSessionObj (buffer : Buffer) : SessionObject :=
  SessionObject.load buffer (ipHeaderLen + startSentSessionObj)

def recvHopObj (buffer : Buffer) : HopObject :=
  HopObject.load buffer (ipHeaderLen + startSentHopObj)

def recvTimeObj (buffer : Buffer) : TimeObject :=
  TimeObject.load buffer (ipHeaderLen + startSentTimeObj)

def recvSessionAttrObj (buffer : Buffer) : SessionAttrObject :=
  SessionAttrObject.load buffer (ipHeaderLen + startSentSessionAttrObj)

def recvLabelObj (buffer : Buffer) : LabelObject :=
  LabelObject.load buffer (ipHeaderLen + startSentLabel)

/-- The tunnel id as every receiver reads it. -/
def recvTunnelId (buffer : Buffer) : U16 :=
  ntohs (recvSessionObj buffer).tunnelId

/-- The receive buffer for a packet; the handlers skip its IP header. -/
def Packet.received (packet : Packet) : Buffer :=
  recvBuffer (List.replicate ipHeaderLen 0 ++ packet.bytes)

section Received

variable {ipHeader : List U8} (headerLen : ipHeader.length = ipHeaderLen)
  (packet : Packet)

include headerLen

theorem recvHeader_recvBuffer :
    (recvHeader (recvBuffer (ipHeader ++ packet.bytes))).msgType =
      packet.msgType :=
  Packet.load_msgType (packet.shows_recvBuffer headerLen)

theorem recvSessionObj_recvBuffer :
    recvSessionObj (recvBuffer (ipHeader ++ packet.bytes)) =
      packet.sessionObj :=
  Packet.load_sessionObj (packet.shows_recvBuffer headerLen)

theorem recvHopObj_recvBuffer :
    recvHopObj (recvBuffer (ipHeader ++ packet.bytes)) = packet.hopObj :=
  Packet.load_hopObj (packet.shows_recvBuffer headerLen)

theorem recvTimeObj_recvBuffer :
    recvTimeObj (recvBuffer (ipHeader ++ packet.bytes)) = packet.timeObj :=
  Packet.load_timeObj (packet.shows_recvBuffer headerLen)

theorem recvSessionAttrObj_recvBuffer (packet : PathPacket) :
    recvSessionAttrObj (recvBuffer (ipHeader ++ packet.bytes)) =
      packet.sessionAttrObj := by
  have shows := (Packet.path packet).shows_recvBuffer headerLen
  exact SessionAttrObject.load_of_shows
    (PathPacket.placed shows).sessionAttrObj

theorem recvLabelObj_recvBuffer (packet : ResvPacket) :
    recvLabelObj (recvBuffer (ipHeader ++ packet.bytes)) =
      packet.labelObj := by
  have shows := (Packet.resv packet).shows_recvBuffer headerLen
  exact LabelObject.load_of_shows (ResvPacket.placed shows).labelObj

end Received

@[simp] theorem recvHeader_received (packet : Packet) :
    (recvHeader packet.received).msgType = packet.msgType :=
  recvHeader_recvBuffer List.length_replicate packet

@[simp] theorem recvSessionObj_received (packet : Packet) :
    recvSessionObj packet.received = packet.sessionObj :=
  recvSessionObj_recvBuffer List.length_replicate packet

@[simp] theorem recvHopObj_received (packet : Packet) :
    recvHopObj packet.received = packet.hopObj :=
  recvHopObj_recvBuffer List.length_replicate packet

@[simp] theorem recvLabelObj_received (packet : ResvPacket) :
    recvLabelObj (Packet.resv packet).received = packet.labelObj :=
  recvLabelObj_recvBuffer List.length_replicate packet

/-- `strncpy(p->name, Name, 31)` followed by `p->name[31] = '\0'`. -/
def strncpyName (name : Vector U8 32) : Vector U8 32 :=
  let copied := (name.toList.take 31).takeWhile (· ≠ 0)
  Vector.ofFn fun i => copied.getD i 0

/-- The record that `path_tree_insert` builds; `none` without a route. -/
def newPathMsg (env : Env) (buffer : Buffer) : Option PathMsg :=
  let sessionObj := recvSessionObj buffer
  let sessionAttrObj := recvSessionAttrObj buffer
  let p : PathMsg :=
    { env.pathHeap with
      tunnelId := htons sessionObj.tunnelId
      srcIp := sessionObj.srcIp
      destIp := sessionObj.dstIp
      pSrcip := (recvHopObj buffer).nextHop
      interval := (recvTimeObj buffer).interval
      setupPriority := sessionAttrObj.setupPrio
      holdPriority := sessionAttrObj.holdPrio
      flags := sessionAttrObj.flags
      lspId := 1
      name := strncpyName sessionAttrObj.name }
  let answer := env.insertRoute p.destIp
  if answer.ret ≠ 0 then
    let p := { p with dev := answer.dev, prefixLen := answer.prefixLen }
    match answer.nhip with
    | none =>
        some { p with nexthopIp := .any, eSrcip := .any, ifh := 0 }
    | some nhip =>
        let p := { p with nexthopIp := nhip }
        let source := env.srcipRoute nhip
        if source.ret ≠ 0 then
          some { p with eSrcip := source.srcip.getD p.eSrcip,
                        ifh := source.ifh }
        else
          some p
  else
    none

/-- `path_tree_insert`; its `NULL` result is the empty tree. -/
def pathTreeInsert (env : Env) (tree : RecordTree PathMsg) (buffer : Buffer) :
    RecordTree PathMsg :=
  match newPathMsg env buffer with
  | none => .null
  | some p => tree.insert env.pathMalloc p

def implicitNull : U32 := 3

/-- The record that `resv_tree_insert` builds, with the bitmap after a
possible `allocate_label`. -/
def newResvMsg (env : Env) (buffer : Buffer) (pNhip : InAddr)
    (pathDstReach : Bool) (bitmap : LabelBitmap) : ResvMsg × LabelBitmap :=
  let sessionObj := recvSessionObj buffer
  let p : ResvMsg :=
    { env.resvHeap with
      tunnelId := ntohs sessionObj.tunnelId
      srcIp := sessionObj.srcIp
      destIp := sessionObj.dstIp
      nexthopIp := pNhip
      pSrcip := (recvHopObj buffer).nextHop
      interval := (recvTimeObj buffer).interval }
  let source := env.srcipRoute pNhip
  let withSource (p : ResvMsg) : ResvMsg :=
    if source.ret ≠ 0 then
      { p with eSrcip := source.srcip.getD p.eSrcip, ifh := source.ifh }
    else p
  if pathDstReach then
    (withSource { p with inLabel := implicitNull, outLabel := -1 }, bitmap)
  else
    let p := { p with outLabel := ntohl (recvLabelObj buffer).label }
    if pNhip = .any then
      ({ p with inLabel := -1, eSrcip := .any, ifh := 0 }, bitmap)
    else
      let (label, bitmap) := allocateLabel bitmap
      (withSource { p with inLabel := label }, bitmap)

/-- `resv_tree_insert` with its assignment to `resv_tree` left to the caller:
the new root and the bitmap. -/
def resvTreeInsert (env : Env) (tree : RecordTree ResvMsg) (buffer : Buffer)
    (pNhip : InAddr) (pathDstReach : Bool) (bitmap : LabelBitmap) :
    RecordTree ResvMsg × LabelBitmap :=
  let (p, bitmap) := newResvMsg env buffer pNhip pathDstReach bitmap
  (tree.insert env.resvMalloc p, bitmap)

/-- The first half of `receive_path_message`: look the record up, and insert
it when it is missing.  The record is `none` when the node stays `NULL`. -/
def receivePathRecord (env : Env) (buffer : Buffer) (d : Daemon) :
    Daemon × Option PathMsg :=
  let tunnelId := recvTunnelId buffer
  let d := (d.lock .pathTree).unlock .pathTree
  let result : Daemon × Option PathMsg :=
    match d.pathTree.find tunnelId with
    | some p => (d, some p)
    | none =>
        let temp := pathTreeInsert env d.pathTree buffer
        if temp.isNull then (d, none)
        else (d.setPathTree temp, temp.find tunnelId)
  (result.1.unlock .pathTree, result.2)

/-- The egress branch of `receive_path_message` up to the answer: insert a
reservation unless one is there. -/
def receivePathEgress (env : Env) (buffer : Buffer) (p : PathMsg)
    (d : Daemon) : Daemon :=
  let d := d.lock .resvTree
  let d :=
    match d.resvTree.find (recvTunnelId buffer) with
    | some _ => d
    | none =>
        let (temp, bitmap) :=
          resvTreeInsert env d.resvTree buffer p.pSrcip true d.labelBitmap
        let d := { d with labelBitmap := bitmap }
        if temp.isNull then d else d.setResvTree temp
  d.unlock .resvTree

def receivePathMessage (env : Env) (buffer : Buffer) (d : Daemon) : Daemon :=
  let tunnelId := recvTunnelId buffer
  let (d, pathNode) := receivePathRecord env buffer d
  match pathNode with
  | none => d
  | some p =>
      if p.nexthopIp = .any then
        sendResvMessage env tunnelId (receivePathEgress env buffer p d)
      else
        sendPathMessage env tunnelId d

/-- `insert`: look up or create the reservation session. -/
def insert (env : Env) (buffer : Buffer) (d : Daemon) : Daemon :=
  let sessionObj := recvSessionObj buffer
  let tunnelId := recvTunnelId buffer
  let reached := dstReached (env.reachRoute sessionObj.srcIp)
  if reached = -1 then d
  else
    let d := d.lock .resvList
    let (temp, list) := searchSession env.now tunnelId d.resvHead
    let d := { d with resvHead := list }.unlock .resvList
    match temp with
    | some _ => d
    | none =>
        ((d.lock .resvList).setResvHead
          (insertSession env.now tunnelId sessionObj.srcIp sessionObj.dstIp
            (BitVec.ofInt 8 reached) d.resvHead)).unlock .resvList

/-- The route that `receive_resv_message` adds for a new record.  Its `via`
address is the `p_srcip` of the record. -/
def addedRoute (pa : PathMsg) (p : ResvMsg) : KernelRoute :=
  let net : InAddr := ⟨p.destIp.sAddr &&& prefixMask pa.prefixLen⟩
  if p.nexthopIp = .any then
    .push net pa.prefixLen p.outLabel p.pSrcip pa.dev
  else if p.outLabel = 3 then
    .pop p.inLabel p.pSrcip pa.dev
  else
    .swap p.inLabel p.outLabel p.pSrcip

/-- The middle of `receive_resv_message`: look the record up, and insert it
when it is missing.  The record is `some` only for a new insertion. -/
def receiveResvRecord (env : Env) (buffer : Buffer) (pa : PathMsg)
    (d : Daemon) : Daemon × Option ResvMsg :=
  let tunnelId := recvTunnelId buffer
  let d := d.lock .resvTree
  let result : Daemon × Option ResvMsg :=
    match d.resvTree.find tunnelId with
    | some _ => (d, none)
    | none =>
        let (temp, bitmap) :=
          resvTreeInsert env d.resvTree buffer pa.pSrcip false d.labelBitmap
        let d := { d with labelBitmap := bitmap }
        if temp.isNull then (d, none)
        else (d.setResvTree temp, temp.find tunnelId)
  (result.1.unlock .resvTree, result.2)

/-- The last part of `receive_resv_message`, for a record that was inserted:
install its route and, unless this is the ingress, send the label on. -/
def installResv (env : Env) (tunnelId : U16) (pa : PathMsg) (p : ResvMsg)
    (d : Daemon) : Daemon :=
  let d := d.emit (.system (.add (addedRoute pa p)))
  if p.nexthopIp = .any then d
  else sendResvMessage env tunnelId d

def receiveResvMessage (env : Env) (buffer : Buffer) (d : Daemon) : Daemon :=
  let tunnelId := recvTunnelId buffer
  let d := (d.lock .pathTree).unlock .pathTree
  match d.pathTree.find tunnelId with
  | none => d
  | some pa =>
      let d := insert env buffer d
      let (d, resvNode) := receiveResvRecord env buffer pa d
      match resvNode with
      | none => d
      | some p => installResv env tunnelId pa p d

/-- The session part of the `PATH_MSG_TYPE` case of `main`. -/
def mainPathSession (env : Env) (buffer : Buffer) (reached : Int)
    (d : Daemon) : Daemon :=
  let sessionObj := recvSessionObj buffer
  let tunnelId := recvTunnelId buffer
  let d := d.lock .pathList
  let (temp, list) := searchSession env.now tunnelId d.pathHead
  let d := { d with pathHead := list }.unlock .pathList
  match temp with
  | some _ => d
  | none =>
      ((d.lock .pathList).setPathHead
        (insertSession env.now tunnelId sessionObj.srcIp sessionObj.dstIp
          (BitVec.ofInt 8 reached) d.pathHead)).unlock .pathList

/-- The `PATH_MSG_TYPE` case of `main`; `none` when `main` returns. -/
def mainPath (env : Env) (buffer : Buffer) (d : Daemon) : Option Daemon :=
  let reached := dstReached (env.reachRoute (recvSessionObj buffer).dstIp)
  if reached = -1 then none
  else some (receivePathMessage env buffer
    (mainPathSession env buffer reached d))

/-- One datagram through the loop of `main`; `none` when `main` returns. -/
def mainReceive (env : Env) (buffer : Buffer) (d : Daemon) : Option Daemon :=
  if (recvHeader buffer).msgType = pathMsgType then mainPath env buffer d
  else if (recvHeader buffer).msgType = resvMsgType then
    some (receiveResvMessage env buffer d)
  else some d

/-- The tunnel typed in at start-up. -/
structure TunnelConfig where
  tunnelId : U16
  srcip : InAddr
  dstip : InAddr

/-- The record that `main` builds for its tunnel; `none` without a route. -/
def configuredPathMsg (env : Env) (config : TunnelConfig) : Option PathMsg :=
  let answer := env.insertRoute config.dstip
  if answer.ret ≠ 0 then
    let p : PathMsg :=
      { env.pathHeap with
        dev := answer.dev
        prefixLen := answer.prefixLen
        tunnelId := config.tunnelId
        srcIp := config.srcip
        destIp := config.dstip
        interval := 30
        setupPriority := 7
        holdPriority := 7
        flags := 0
        lspId := 1
        name := strncpyName (Vector.ofFn fun i =>
          [0x50, 0x61, 0x74, 0x68, 0x31].getD i 0) }
    match answer.nhip with
    | none => some { p with nexthopIp := .any, ifh := answer.ifh }
    | some nhip =>
        let p := { p with nexthopIp := nhip, pSrcip := .any }
        let source := env.srcipRoute nhip
        let p := { p with ifh := source.ifh }
        if source.ret ≠ 0 then
          some { p with eSrcip := source.srcip.getD p.eSrcip }
        else
          some p
  else
    none

/-- The state in which `main` enters its receive loop. -/
def startup (env : Env) (config : TunnelConfig) : Daemon :=
  match configuredPathMsg env config with
  | none => .init
  | some path =>
      let d := Daemon.init.setPathTree
        (Daemon.init.pathTree.insert env.pathMalloc path)
      let d := d.setResvHead (insertSession env.now config.tunnelId
        config.srcip config.dstip 1 d.resvHead)
      sendPathMessage env path.tunnelId d

end Rsvpd
