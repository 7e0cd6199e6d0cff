import Rsvpd.Lib.Backlog
import Rsvpd.ReceiveLoop
import Rsvpd.SoftState

/-!
# Sessions that are due and stay

The reservation sweep passes over an expired session when it deletes the one
in front of it.  What is left of a backlog is halved by each sweep as long as
nothing else falls due.  A single session can stay as long as others fall due
in front of it.
-/

namespace Rsvpd

open Sweep Transition

/-- What one event makes of the path list. -/
def pathHeadStep (head : List Session) : Event → List Session
  | .datagram env buffer =>
      if (recvHeader buffer).msgType = pathMsgType then
        noteSession env.now (recvTunnelId buffer)
          (recvSessionObj buffer).srcIp (recvSessionObj buffer).dstIp
          (BitVec.ofInt 8
            (dstReached (env.reachRoute (recvSessionObj buffer).dstIp))) head
      else head
  | .pathTimer _ => head
  | .resvTimer env => remaining (Expired env.now) [] head

theorem step_pathHead {d d' : Daemon} {event : Event}
    (taken : step d event = some d') :
    d'.pathHead = pathHeadStep d.pathHead event := by
  cases event with
  | datagram env buffer =>
      rw [pathHeadStep]
      cases mainReceive_cases env buffer d taken with
      | path isPath routed result =>
          rw [if_pos isPath, result]
          simp only [receivePathMessage_frame, mainPathSession_pathHead]
      | resv isResv result =>
          rw [if_neg (by rw [isResv]; decide), result]
          simp
      | other notPath notResv result => rw [if_neg notPath, result]
  | pathTimer env =>
      cases taken
      simp [pathHeadStep]
  | resvTimer env =>
      cases taken
      exact resvTimerHandler_pathHead env d

theorem runEvents_pathHead {d d' : Daemon} {events : List Event}
    (run : runEvents step d events = some d') :
    d'.pathHead = events.foldl pathHeadStep d.pathHead := by
  induction events generalizing d with
  | nil =>
      cases run
      rfl
  | cons event events ih =>
      obtain ⟨next, taken, rest⟩ := runEvents_cons.mp run
      rw [ih rest, step_pathHead taken, List.foldl_cons]

/-- The number of reservation sweeps. -/
def resvSweeps (events : List Event) : Nat :=
  events.countP fun
    | .resvTimer _ => true
    | _ => false

/-- The PATH of a tunnel that passes through. -/
def transitPath (tunnelId : U16) (now : Int) : Event :=
  .datagram (.toward (some ⟨3⟩) now)
    (samplePath tunnelId ⟨1⟩ ⟨9⟩ ⟨2⟩).received

def transitSession (tunnelId : U16) (now : Int) : Session :=
  { sender := ⟨1⟩, receiver := ⟨9⟩, tunnelId, dest := 0, del := 0,
    lastPathTime := now }

/-- Three tunnels that nobody refreshes, and a later one in front. -/
def backlogEvents : List Event :=
  [transitPath 1 0, transitPath 2 0, transitPath 3 0, transitPath 4 100]

def backlogSweeps : List Event :=
  [.resvTimer (.isolated 120), .pathTimer (.isolated 130),
   .resvTimer (.isolated 150)]

/-- The path sessions that are due at a time. -/
def due (now : Int) (d : Daemon) : Nat :=
  d.pathHead.countP fun temp => Expired now temp

/-- What was due stays unrefreshed, and nothing else falls due. -/
def Settled (now : Int) (d : Daemon) : Event → Prop
  | .datagram env buffer => now ≤ env.now ∧
      ((recvHeader buffer).msgType = pathMsgType →
        ∀ temp ∈ d.pathHead, temp.tunnelId = recvTunnelId buffer →
          ¬Expired now temp)
  | .pathTimer _ => True
  | .resvTimer env => now ≤ env.now ∧
      ∀ temp ∈ d.pathHead, Expired env.now temp → Expired now temp

instance (now : Int) (d : Daemon) : DecidablePred (Settled now d)
  | .datagram _ _ => inferInstanceAs (Decidable (_ ∧ _))
  | .pathTimer _ => .isTrue trivial
  | .resvTimer _ => inferInstanceAs (Decidable (_ ∧ _))

theorem Expired.later {now later : Int} {temp : Session}
    (expired : Expired now temp) (after : now ≤ later) :
    Expired later temp :=
  lt_of_lt_of_le expired (Int.sub_le_sub_right after temp.lastPathTime)

theorem not_expired_of_refreshed {now refreshed : Int} {temp : Session}
    (after : now ≤ refreshed) (time : temp.lastPathTime = refreshed) :
    ¬Expired now temp := by
  unfold Expired timeout
  omega

theorem countP_searchSession {now later : Int} (after : now ≤ later)
    {tunnelId : U16} {sess : List Session}
    (live : ∀ temp ∈ sess, temp.tunnelId = tunnelId → ¬Expired now temp) :
    (searchSession later tunnelId sess).2.countP
        (fun temp => Expired now temp) =
      sess.countP fun temp => Expired now temp := by
  induction sess with
  | nil => rfl
  | cons temp rest ih =>
      obtain ⟨here, behind⟩ := List.forall_mem_cons.mp live
      rw [searchSession]
      split
      case isTrue same =>
        have refreshed : ¬Expired now { temp with lastPathTime := later } :=
          not_expired_of_refreshed after rfl
        simp [refreshed, here same]
      case isFalse =>
        simp only [List.countP_cons, ih behind]

theorem countP_noteSession {now later : Int} (after : now ≤ later)
    {tunnelId : U16} (sender receiver : InAddr) (dest : U8)
    {sess : List Session}
    (live : ∀ temp ∈ sess, temp.tunnelId = tunnelId → ¬Expired now temp) :
    (noteSession later tunnelId sender receiver dest sess).countP
        (fun temp => Expired now temp) =
      sess.countP fun temp => Expired now temp := by
  cases found : findSession tunnelId sess with
  | some temp =>
      rw [noteSession_found found]
      exact countP_searchSession after live
  | none =>
      rw [noteSession_missing found, insertSession, List.countP_cons_of_neg]
      simpa using not_expired_of_refreshed after rfl

theorem countP_expired_congr {now later : Int} {sess : List Session}
    (same : ∀ temp ∈ sess, Expired later temp ↔ Expired now temp) :
    (sess.countP fun temp => Expired later temp) =
      sess.countP fun temp => Expired now temp :=
  List.countP_congr fun temp member => by simpa using same temp member

/-- A sweep leaves at most half of what is due. -/
theorem due_step {now : Int} {d d' : Daemon} {event : Event}
    (settled : Settled now d event) (taken : step d event = some d') :
    2 ^ resvSweeps [event] * due now d' ≤ due now d := by
  unfold due
  rw [step_pathHead taken]
  cases event with
  | datagram env buffer =>
      obtain ⟨after, live⟩ := settled
      rw [pathHeadStep]
      by_cases isPath : (recvHeader buffer).msgType = pathMsgType
      · rw [if_pos isPath, countP_noteSession after _ _ _ (live isPath)]
        simp [resvSweeps]
      · rw [if_neg isPath]
        simp [resvSweeps]
  | pathTimer env => simp [resvSweeps, pathHeadStep]
  | resvTimer env =>
      obtain ⟨after, nothingElse⟩ := settled
      have same (temp : Session) (member : temp ∈ d.pathHead) :
          Expired env.now temp ↔ Expired now temp :=
        ⟨nothingElse temp member, fun expired => expired.later after⟩
      have halved := countP_remaining_le (Expired env.now) [] d.pathHead
      rw [countP_expired_congr same, countP_expired_congr fun temp member =>
        same temp (mem_of_remaining member)] at halved
      simpa [resvSweeps, pathHeadStep] using halved

theorem resvSweeps_cons (event : Event) (events : List Event) :
    resvSweeps (event :: events) =
      resvSweeps [event] + resvSweeps events := by
  rw [resvSweeps, ← List.singleton_append, List.countP_append]
  rfl

/-- Each reservation sweep halves a settled backlog, whatever comes between
the sweeps. -/
theorem due_halves {now : Int} {d d' : Daemon} {events : List Event}
    (run : runEvents (guarded step (Settled now)) d events = some d') :
    2 ^ resvSweeps events * due now d' ≤ due now d ∧
      (due now d < 2 ^ resvSweeps events →
        ∀ temp ∈ d'.pathHead, ¬Expired now temp) := by
  have halved : 2 ^ resvSweeps events * due now d' ≤ due now d := by
    induction events generalizing d with
    | nil =>
        cases run
        simp [resvSweeps]
    | cons event events ih =>
        obtain ⟨next, taken, rest⟩ := runEvents_cons.mp run
        rw [guarded] at taken
        split at taken
        case isFalse => cases taken
        case isTrue settled =>
          rw [resvSweeps_cons, pow_add, mul_assoc]
          exact (Nat.mul_le_mul_left _ (ih rest)).trans
            (due_step settled taken)
  refine ⟨halved, fun enough temp member expired => ?_⟩
  have some : 0 < due now d' :=
    List.countP_pos_iff.mpr ⟨temp, member, decide_eq_true expired⟩
  exact absurd (halved.trans_lt enough)
    (not_lt.mpr (Nat.le_mul_of_pos_right _ some))

theorem backlogSweeps_halve :
    ∃ d d', runEvents step (startup (.isolated 0) ⟨1, .any, .any⟩)
        backlogEvents = some d ∧
      runEvents (guarded step (Settled 120)) d backlogSweeps = some d' ∧
      due 120 d = 3 ∧
      (2 ^ resvSweeps backlogSweeps * due 120 d' ≤ due 120 d ∧
        (due 120 d < 2 ^ resvSweeps backlogSweeps →
          ∀ temp ∈ d'.pathHead, ¬Expired 120 temp)) := by
  have executed : ((runEvents step (startup (.isolated 0) ⟨1, .any, .any⟩)
      backlogEvents).bind fun d =>
        (runEvents (guarded step (Settled 120)) d backlogSweeps).map fun _ =>
          due 120 d) = some 3 := by
    decide +kernel
  obtain ⟨d, start, rest⟩ := Option.bind_eq_some_iff.mp executed
  obtain ⟨d', run, three⟩ := Option.map_eq_some_iff.mp rest
  exact ⟨d, d', start, run, three, due_halves run⟩

/-- Nobody refreshes the tunnel. -/
def Silent (tunnelId : U16) : Event → Prop
  | .datagram _ buffer => (recvHeader buffer).msgType = pathMsgType →
      recvTunnelId buffer ≠ tunnelId
  | _ => True

instance (tunnelId : U16) : DecidablePred (Silent tunnelId)
  | .datagram _ _ => inferInstanceAs (Decidable (_ → _))
  | .pathTimer _ | .resvTimer _ => .isTrue trivial

/-- The number of reservation sweeps that find the session late. -/
def lateSweeps (temp : Session) (events : List Event) : Nat :=
  events.countP fun
    | .resvTimer env => Expired env.now temp
    | _ => false

theorem lateSweeps_cons (temp : Session) (event : Event)
    (events : List Event) :
    lateSweeps temp (event :: events) =
      lateSweeps temp [event] + lateSweeps temp events := by
  rw [lateSweeps, ← List.singleton_append, List.countP_append]
  rfl

/-- A PATH of a tunnel without a path session. -/
def NewTunnel (d : Daemon) : Event → Prop
  | .datagram _ buffer => (recvHeader buffer).msgType = pathMsgType ∧
      findSession (recvTunnelId buffer) d.pathHead = none
  | _ => False

instance (d : Daemon) : DecidablePred (NewTunnel d)
  | .datagram _ _ => inferInstanceAs (Decidable (_ ∧ _))
  | .pathTimer _ | .resvTimer _ => .isFalse id

/-- The sessions that a run inserts in front of those it starts with. -/
def newcomers (d : Daemon) : List Event → Nat
  | [] => 0
  | event :: events =>
      (if NewTunnel d event then 1 else 0) +
        match step d event with
        | none => 0
        | some next => newcomers next events

/-- The session is in the path list with at most so many others in front. -/
def Behind (temp : Session) (ahead : Nat) (d : Daemon) : Prop :=
  ∃ front post, d.pathHead = front ++ temp :: post ∧ front.length ≤ ahead

/-- The tunnel has neither a path session nor a path record. -/
def Gone (temp : Session) (d : Daemon) : Prop :=
  findSession temp.tunnelId d.pathHead = none ∧
    d.pathTree.find temp.tunnelId = none

section Late

variable {temp : Session} {event : Event} {d d' : Daemon}

theorem searchSession_behind (now : Int) {tunnelId : U16}
    (other : tunnelId ≠ temp.tunnelId) (front post : List Session) :
    ∃ front' post',
      (searchSession now tunnelId (front ++ temp :: post)).2 =
          front' ++ temp :: post' ∧
        front'.length = front.length := by
  induction front with
  | nil =>
      rw [List.nil_append, searchSession, if_neg other.symm]
      exact ⟨[], _, rfl, rfl⟩
  | cons first front ih =>
      rw [List.cons_append, searchSession]
      split
      case isTrue => exact ⟨_ :: front, post, rfl, rfl⟩
      case isFalse =>
        obtain ⟨front', post', shape, same⟩ := ih
        exact ⟨first :: front', post', congrArg (first :: ·) shape,
          congrArg Nat.succ same⟩

theorem Behind.noteSession {ahead : Nat} {env : Env} {buffer : Buffer}
    (behind : Behind temp ahead d)
    (isPath : (recvHeader buffer).msgType = pathMsgType)
    (other : recvTunnelId buffer ≠ temp.tunnelId)
    (taken : step d (.datagram env buffer) = some d') :
    Behind temp
      (ahead + if NewTunnel d (.datagram env buffer) then 1 else 0) d' := by
  obtain ⟨front, post, shape, few⟩ := behind
  have head := step_pathHead taken
  rw [pathHeadStep, if_pos isPath] at head
  cases found : findSession (recvTunnelId buffer) d.pathHead with
  | some known =>
      rw [noteSession_found found, shape] at head
      obtain ⟨front', post', shape', same⟩ :=
        searchSession_behind env.now other front post
      exact ⟨front', post', head.trans shape', by omega⟩
  | none =>
      rw [noteSession_missing found, shape] at head
      have new : NewTunnel d (.datagram env buffer) := ⟨isPath, found⟩
      rw [if_pos new]
      exact ⟨_ :: front, post, head, Nat.succ_le_succ few⟩

theorem Behind.resvTimer {ahead : Nat} {env : Env}
    (distinct : DistinctIds d.pathHead) (behind : Behind temp ahead d) :
    Gone temp (resvTimerHandler env d) ∨
      ∃ ahead', Behind temp ahead' (resvTimerHandler env d) ∧
        ahead' + (if Expired env.now temp then 1 else 0) ≤ ahead := by
  obtain ⟨front, post, shape, few⟩ := behind
  have member : temp ∈ d.pathHead := shape ▸ List.mem_append_cons_self
  rcases mem_deletions_or (Expired env.now) member with deleted | left
  · left
    have removed : temp.tunnelId ∈ (resvVisits env d).filterMap pathRemoves :=
      mem_pathRemoves.mpr ⟨temp, deleted, rfl⟩
    constructor
    · rw [resvTimerHandler_findSession env distinct, if_pos removed]
    · rw [resvTimerHandler_findPath, if_pos removed]
  · right
    have nodup : ([] ++ d.pathHead).Nodup := List.Nodup.of_map _ distinct
    obtain ⟨front', post', shape', near⟩ :=
      nearer_of_remaining nodup shape left
    rw [← resvTimerHandler_pathHead] at shape'
    rw [List.length_nil, Nat.zero_add] at near
    exact ⟨front'.length, ⟨front', post', shape', Nat.le_refl _⟩,
      near.trans few⟩

/-- What is gone stays gone without a PATH of the tunnel. -/
theorem Gone.step (gone : Gone temp d) (silent : Silent temp.tunnelId event)
    (distinct : DistinctIds d.pathHead)
    (taken : Rsvpd.step d event = some d') : Gone temp d' := by
  constructor
  · cases step_sessionStep temp.tunnelId distinct taken with
    | heard isPath _ _ _ _ =>
        cases event with
        | datagram env buffer => exact absurd isPath.2 (silent isPath.1)
        | pathTimer env => cases isPath
        | resvTimer env => cases isPath
    | kept _ session _ => rw [session, gone.1]
    | expired _ temp' session _ _ => cases gone.1.symm.trans session
  · cases event with
    | datagram env buffer =>
        cases mainReceive_cases env buffer d taken with
        | path isPath routed result =>
            rw [result, receivePathMessage_findPath_of_ne _ _ _
              (silent isPath).symm]
            simpa using gone.2
        | resv isResv result =>
            rw [result]
            simpa using gone.2
        | other notPath notResv result =>
            rw [result]
            exact gone.2
    | pathTimer env =>
        cases taken
        simpa using gone.2
    | resvTimer env =>
        cases taken
        rw [resvTimerHandler_findPath, gone.2, ite_self]

/-- One step of a silent run: the tunnel goes, or a sweep has brought its
session nearer to the head. -/
theorem Behind.step {ahead : Nat} (distinct : DistinctIds d.pathHead)
    (behind : Behind temp ahead d) (silent : Silent temp.tunnelId event)
    (taken : Rsvpd.step d event = some d') :
    Gone temp d' ∨ ∃ ahead', Behind temp ahead' d' ∧
      ahead' + lateSweeps temp [event] ≤
        ahead + if NewTunnel d event then 1 else 0 := by
  cases event with
  | datagram env buffer =>
      right
      by_cases isPath : (recvHeader buffer).msgType = pathMsgType
      · exact ⟨_, behind.noteSession isPath (silent isPath) taken,
          by simp [lateSweeps]⟩
      · have head := step_pathHead taken
        rw [pathHeadStep, if_neg isPath] at head
        refine ⟨ahead, ?_, by simp [lateSweeps]⟩
        rwa [Behind, head]
  | pathTimer env =>
      cases taken
      refine .inr ⟨ahead, ?_, by simp [lateSweeps]⟩
      simpa [Behind] using behind
  | resvTimer env =>
      cases taken
      refine (behind.resvTimer distinct).imp_right ?_
      rintro ⟨ahead', nearer, less⟩
      refine ⟨ahead', nearer, ?_⟩
      rw [if_neg (by exact id)]
      simpa [lateSweeps, List.countP_singleton] using less

theorem Gone.run {events : List Event} (gone : Gone temp d)
    (distinct : DistinctIds d.pathHead)
    (silent : ∀ event ∈ events, Silent temp.tunnelId event)
    (run : runEvents Rsvpd.step d events = some d') : Gone temp d' := by
  induction events generalizing d with
  | nil =>
      cases run
      exact gone
  | cons event events ih =>
      obtain ⟨next, taken, rest⟩ := runEvents_cons.mp run
      obtain ⟨here, later⟩ := List.forall_mem_cons.mp silent
      exact ih (gone.step here distinct taken)
        (step_distinct distinct taken) later rest

theorem Behind.run {events : List Event} {ahead : Nat}
    (behind : Behind temp ahead d) (distinct : DistinctIds d.pathHead)
    (silent : ∀ event ∈ events, Silent temp.tunnelId event)
    (run : runEvents Rsvpd.step d events = some d') :
    Gone temp d' ∨ ∃ ahead', Behind temp ahead' d' ∧
      ahead' + lateSweeps temp events ≤ ahead + newcomers d events := by
  induction events generalizing d ahead with
  | nil =>
      cases run
      exact .inr ⟨ahead, behind, Nat.le_refl _⟩
  | cons event events ih =>
      obtain ⟨next, taken, rest⟩ := runEvents_cons.mp run
      obtain ⟨here, later⟩ := List.forall_mem_cons.mp silent
      have distinct' := step_distinct distinct taken
      rcases behind.step distinct here taken with gone | ⟨mid, nearer, first⟩
      · exact .inl (gone.run distinct' later rest)
      · refine (ih nearer distinct' later rest).imp_right ?_
        rintro ⟨ahead', nearest, others⟩
        refine ⟨ahead', nearest, ?_⟩
        rw [lateSweeps_cons, newcomers, taken]
        dsimp only
        omega

theorem Behind.goes {front post : List Session} {events : List Event}
    (shape : d.pathHead = front ++ temp :: post)
    (distinct : DistinctIds d.pathHead)
    (silent : ∀ event ∈ events, Silent temp.tunnelId event)
    (run : runEvents Rsvpd.step d events = some d')
    (enough : front.length + newcomers d events < lateSweeps temp events) :
    Gone temp d' := by
  have behind : Behind temp front.length d :=
    ⟨front, post, shape, Nat.le_refl _⟩
  rcases behind.run distinct silent run with gone | ⟨_, _, bound⟩
  · exact gone
  · omega

/-- A session that nobody refreshes goes, with its path record, once the sweeps
that find it late outnumber the sessions in front of it, newcomers
included. -/
theorem late_session_goes {guard : Daemon → Event → Prop} {env : Env}
    {config : TunnelConfig} (reached : Reaches guard env config d)
    {front post : List Session} (shape : d.pathHead = front ++ temp :: post)
    {events : List Event}
    (silent : ∀ event ∈ events, Silent temp.tunnelId event)
    (run : runEvents Rsvpd.step d events = some d')
    (enough : front.length + newcomers d events < lateSweeps temp events) :
    (∀ other ∈ d'.pathHead, other.tunnelId ≠ temp.tunnelId) ∧
      d'.pathTree.find temp.tunnelId = none := by
  have gone := Behind.goes shape reached.distinct silent run enough
  exact ⟨findSession_eq_none.mp gone.1, gone.2⟩

end Late

/-- A sweep passes over tunnel 2, and the next ones reach it. -/
theorem backlogSweeps_reach :
    ∃ d d', runEvents step (startup (.isolated 0) ⟨1, .any, .any⟩)
        (backlogEvents ++ [.resvTimer (.isolated 110)]) = some d ∧
      d.pathHead = [transitSession 4 100] ++ [transitSession 2 0] ∧
      runEvents step d backlogSweeps = some d' ∧
      ((∀ other ∈ d'.pathHead, other.tunnelId ≠ 2) ∧
        d'.pathTree.find 2 = none) := by
  have executed : ((runEvents step (startup (.isolated 0) ⟨1, .any, .any⟩)
      (backlogEvents ++ [.resvTimer (.isolated 110)])).bind fun d =>
        (runEvents step d backlogSweeps).map fun _ =>
          (d.pathHead, newcomers d backlogSweeps)) =
      some ([transitSession 4 100] ++ [transitSession 2 0], 0) := by
    decide +kernel
  obtain ⟨d, start, rest⟩ := Option.bind_eq_some_iff.mp executed
  obtain ⟨d', run, state⟩ := Option.map_eq_some_iff.mp rest
  obtain ⟨head, nobody⟩ := Prod.mk.inj state
  have reached : Reaches (fun _ _ => True) (.isolated 0) ⟨1, .any, .any⟩ d :=
    .of_runEvents (fun _ _ _ => trivial) start
  have silent : ∀ event ∈ backlogSweeps,
      Silent 2 event := by
    decide
  refine ⟨d, d', start, head, run, ?_⟩
  exact late_session_goes reached head silent run
    (by rw [nobody]; decide)

/-- The times of the reservation sweeps. -/
def sweepTimes (events : List Event) : List Int :=
  events.filterMap fun
    | .resvTimer env => some env.now
    | _ => none

/-- The tunnels that come one after another, with five ids in turn. -/
def passingId (round : Nat) : U16 := BitVec.ofNat 16 (round % 5 + 1)

/-- A new tunnel, and the sweep behind it. -/
def passingRound (round : Nat) : List Event :=
  [transitPath (passingId round) (30 * round),
   .resvTimer (.isolated (30 * round))]

/-- Tunnel 0 and the first passing one, then as many rounds. -/
def passingEvents (rounds : Nat) : List Event :=
  transitPath 0 0 :: transitPath (passingId 0) 0 ::
    (List.range rounds).flatMap fun round => passingRound (round + 1)

theorem recvTunnelId_samplePath (tunnelId : U16) (srcIp destIp hop : InAddr) :
    recvTunnelId (samplePath tunnelId srcIp destIp hop).received =
      tunnelId := by
  rw [recvTunnelId, recvSessionObj_received]
  exact ntohs_htons tunnelId

theorem pathHeadStep_transitPath (head : List Session) (tunnelId : U16)
    (now : Int) (missing : findSession tunnelId head = none) :
    pathHeadStep head (transitPath tunnelId now) =
      transitSession tunnelId now :: head := by
  have isPath : (recvHeader
      (samplePath tunnelId ⟨1⟩ ⟨9⟩ ⟨2⟩).received).msgType = pathMsgType :=
    recvHeader_received _
  have session : recvSessionObj (samplePath tunnelId ⟨1⟩ ⟨9⟩ ⟨2⟩).received =
      (samplePath tunnelId ⟨1⟩ ⟨9⟩ ⟨2⟩).sessionObj :=
    recvSessionObj_received _
  rw [transitPath, pathHeadStep, if_pos isPath, recvTunnelId_samplePath,
    noteSession_missing missing, session]
  rfl

/-- The session of the passing tunnel of a round. -/
def passing (round : Nat) : Session :=
  transitSession (passingId round) (30 * round)

/-- Tunnel 0 is in the list behind the four tunnels that came last. -/
structure Starving (rounds : Nat) (d : Daemon) : Prop where
  distinct : DistinctIds d.pathHead
  head : d.pathHead =
    [passing (rounds + 3), passing (rounds + 2), passing (rounds + 1),
      passing rounds, transitSession 0 0]
  record : d.pathTree.find 0 ≠ none

theorem passingId_ne {first second : Nat}
    (apart : first % 5 ≠ second % 5) : passingId first ≠ passingId second := by
  intro same
  have numbers := congrArg BitVec.toNat same
  simp only [passingId, BitVec.toNat_ofNat] at numbers
  omega

theorem passingId_ne_zero (round : Nat) : passingId round ≠ 0 := by
  intro same
  have numbers := congrArg BitVec.toNat same
  simp only [passingId, BitVec.toNat_ofNat] at numbers
  simp at numbers
  omega

section Round

variable {rounds : Nat} {d : Daemon}

theorem record_stays {tunnelId : U16} {event : Event} {d' : Daemon}
    (distinct : DistinctIds d.pathHead) (taken : step d event = some d')
    (record : d.pathTree.find tunnelId ≠ none)
    (session : ∃ temp ∈ d'.pathHead, temp.tunnelId = tunnelId) :
    d'.pathTree.find tunnelId ≠ none := by
  obtain ⟨p, found⟩ := Option.ne_none_iff_exists'.mp record
  cases step_sessionStep tunnelId distinct taken with
  | heard _ _ _ _ record => simp [record p found]
  | kept _ _ record => simp [record p found]
  | expired _ _ _ _ gone =>
      obtain ⟨temp, member, same⟩ := session
      exact absurd same (findSession_eq_none.mp gone temp member)

theorem expired_passing {now round : Nat} :
    Expired (30 * now) (passing round) ↔ round + 4 ≤ now := by
  simp only [Expired, timeout, passing, transitSession]
  omega

theorem remaining_starving (rounds : Nat) :
    remaining (Expired (30 * (rounds + 4 : Nat)))
        [] [passing (rounds + 4), passing (rounds + 3), passing (rounds + 2),
          passing (rounds + 1), passing rounds, transitSession 0 0] =
      [passing (rounds + 4), passing (rounds + 3), passing (rounds + 2),
        passing (rounds + 1), transitSession 0 0] := by
  have live (round : Nat) (young : rounds < round) :
      ¬Expired (30 * (rounds + 4 : Nat)) (passing round) :=
    fun expired => by have := expired_passing.mp expired; omega
  rw [remaining_keep _ _ (live _ (by omega)),
    remaining_keep _ _ (live _ (by omega)),
    remaining_keep _ _ (live _ (by omega)),
    remaining_keep _ _ (live _ (by omega)),
    remaining_pull _ (by simp) (expired_passing.mpr (Nat.le_refl _)),
    remaining_nil]
  rfl

theorem Starving.round (starving : Starving rounds d) :
    ∃ d', runEvents step d (passingRound (rounds + 4)) = some d' ∧
      Starving (rounds + 1) d' := by
  have missing : findSession (passingId (rounds + 4)) d.pathHead = none := by
    rw [findSession_eq_none, starving.head]
    simp only [List.forall_mem_cons]
    refine ⟨?_, ?_, ?_, ?_, (passingId_ne_zero _).symm, nofun⟩
    all_goals exact passingId_ne (by omega)
  have routed : ∀ event ∈ passingRound (rounds + 4), ¬NoRoutePath event := by
    intro event member
    simp only [passingRound, List.mem_cons, List.not_mem_nil, or_false]
      at member
    rcases member with rfl | rfl
    · rintro ⟨_, unrouted⟩
      cases unrouted
    · exact id
  obtain ⟨d', run⟩ := Option.isSome_iff_exists.mp
    ((runEvents_iff_routed d _).mpr routed)
  obtain ⟨heard, path, sweep⟩ := runEvents_cons.mp run
  obtain ⟨swept, taken, final⟩ := runEvents_cons.mp sweep
  cases final
  have arrived := step_pathHead path
  rw [pathHeadStep_transitPath _ _ _ missing, starving.head] at arrived
  have left := step_pathHead taken
  rw [arrived] at left
  have head := left.trans (remaining_starving rounds)
  have distinct := step_distinct starving.distinct path
  have record := record_stays starving.distinct path starving.record
    ⟨transitSession 0 0, by simp [arrived], rfl⟩
  have swept := record_stays distinct taken record
    ⟨transitSession 0 0, by simp [head], rfl⟩
  exact ⟨_, run, step_distinct distinct taken, head, swept⟩

theorem starving_of_rounds (rounds : Nat) :
    ∃ d, runEvents step (startup (.isolated 0) ⟨1, .any, .any⟩)
        (passingEvents (rounds + 3)) = some d ∧ Starving rounds d := by
  induction rounds with
  | zero =>
      have first : ((runEvents step (startup (.isolated 0) ⟨1, .any, .any⟩)
          (passingEvents 3)).map fun d => decide (d.pathHead =
            [passing 3, passing 2, passing 1, passing 0,
              transitSession 0 0] ∧ d.pathTree.find 0 ≠ none)) =
          some true := by
        decide +kernel
      obtain ⟨d, run, state⟩ := Option.map_eq_some_iff.mp first
      obtain ⟨head, record⟩ := of_decide_eq_true state
      have reached : Reaches (fun _ _ => True) (.isolated 0)
          ⟨1, .any, .any⟩ d := .of_runEvents (fun _ _ _ => trivial) run
      exact ⟨d, run, reached.distinct, head, record⟩
  | succ rounds ih =>
      obtain ⟨d, run, starving⟩ := ih
      obtain ⟨d', next, starving'⟩ := starving.round
      refine ⟨d', ?_, starving'⟩
      have events : passingEvents (rounds + 1 + 3) =
          passingEvents (rounds + 3) ++ passingRound (rounds + 4) := by
        rw [passingEvents, Nat.add_right_comm, List.range_succ]
        simp [passingEvents]
      rw [events]
      exact runEvents_append.mpr ⟨d, run, next⟩

theorem pathTimes_passingEvents (rounds : Nat) :
    pathTimes 0 (passingEvents rounds) = [0] := by
  have other (round : Nat) (now : Int) :
      ¬PathOf 0 (transitPath (passingId round) now) := by
    rintro ⟨_, same⟩
    rw [recvTunnelId_samplePath] at same
    exact passingId_ne_zero round same
  have own : PathOf 0 (transitPath 0 0) :=
    ⟨recvHeader_received _, recvTunnelId_samplePath _ _ _ _⟩
  have rest : ((List.range rounds).flatMap fun round =>
      passingRound (round + 1)).filter (PathOf 0) = [] := by
    rw [List.filter_eq_nil_iff]
    intro event member
    obtain ⟨round, _, inside⟩ := List.mem_flatMap.mp member
    simp only [passingRound, List.mem_cons, List.not_mem_nil, or_false]
      at inside
    rcases inside with rfl | rfl
    · simpa using other _ _
    · exact decide_eq_true_iff.not.mpr id
  rw [pathTimes, passingEvents, Lease.refreshTimes_cons_pos _ _ own,
    Lease.refreshTimes_cons_neg _ _ (other 0 0), Lease.refreshTimes, rest]
  rfl

theorem sweepTimes_passingEvents (rounds : Nat) :
    sweepTimes (passingEvents rounds) =
      (List.range rounds).map fun round : Nat => 30 * ((round : Int) + 1) := by
  induction rounds with
  | zero => rfl
  | succ rounds ih =>
      have events : passingEvents (rounds + 1) =
          passingEvents rounds ++ passingRound (rounds + 1) := by
        rw [passingEvents, List.range_succ]
        simp [passingEvents]
      rw [events, sweepTimes, List.filterMap_append]
      rw [sweepTimes] at ih
      rw [ih, List.range_succ, List.map_append]
      simp [passingRound, transitPath, Env.isolated]

/-- Soft state need not end: a tunnel heard of once, at the start, is still
there after any number of sweeps 30 seconds apart. -/
theorem late_session_stays (rounds : Nat) :
    ∃ events d, runEvents step (startup (.isolated 0) ⟨1, .any, .any⟩)
        events = some d ∧
      pathTimes 0 events = [0] ∧
      sweepTimes events =
        (List.range (rounds + 3)).map
          (fun round : Nat => 30 * ((round : Int) + 1)) ∧
      (∃ temp ∈ d.pathHead, temp.tunnelId = 0) ∧
      d.pathTree.find 0 ≠ none := by
  obtain ⟨d, run, starving⟩ := starving_of_rounds rounds
  refine ⟨_, d, run, pathTimes_passingEvents _, sweepTimes_passingEvents _,
    ⟨transitSession 0 0, ?_, rfl⟩, starving.record⟩
  rw [starving.head]
  simp

end Round

end Rsvpd
