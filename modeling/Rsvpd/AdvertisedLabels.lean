import Rsvpd.LabelAgreement
import Rsvpd.LabelCalls
import Rsvpd.Runs

/-!
# Which labels are advertised

`allocate_label` fails with the pattern that marks the record of an ingress,
and no caller looks at the result.  The failure value leaves the node in a
RESV and in a route as soon as a transit record is created without a free
label, or the node answers from a record that carries it.
-/

namespace Rsvpd

open Daemon Sweep Transition LeastFree

def LabelInRange (label : U32) : Prop :=
  labelMin ≤ label.toNat ∧ label.toNat ≤ labelMax

/-- A RESV carries the implicit null label or one of the allocator. -/
def Advertisable (label : U32) : Prop :=
  label = implicitNull ∨ LabelInRange label

/-- The incoming label that an `ip -M route add` names. -/
def KernelRoute.inLabel? : KernelRoute → Option U32
  | .push _ _ _ _ _ => none
  | .pop inLabel _ _ => some inLabel
  | .swap inLabel _ _ => some inLabel

structure LabelsAdvertised (d : Daemon) : Prop where
  sent : ∀ message ∈ d.sent, ∀ label, resvLabel message = some label →
    Advertisable label
  added : ∀ route label, .add route ∈ d.commands →
    route.inLabel? = some label → LabelInRange label

theorem not_advertisable : ¬Advertisable (-1) := by
  rintro (implicit | ⟨_, high⟩)
  · exact absurd implicit (by decide)
  · exact absurd high (by decide)

/-- The node holds a reservation whose label is the failure value. -/
def Unlabelled (d : Daemon) (tunnelId : U16) : Prop :=
  ∃ r, d.resvTree.find tunnelId = some r ∧ r.inLabel = -1

/-- Every label is taken. -/
def Exhausted (bitmap : LabelBitmap) : Prop :=
  ∀ label, LabelInRange label → isAllocated bitmap label = true

/-- A PATH is answered with a RESV: the path record that the node holds, or
the one that it builds, has no next hop. -/
def AnsweredPath (env : Env) (buffer : Buffer) (d : Daemon) : Prop :=
  match d.pathTree.find (recvTunnelId buffer) with
  | some p => p.nexthopIp = .any
  | none => env.pathMalloc = true ∧
      (env.insertRoute (recvSessionObj buffer).dstIp).ret ≠ 0 ∧
      (env.insertRoute (recvSessionObj buffer).dstIp).nhip.getD .any = .any

/-- A RESV creates a record of a tunnel that came from another router. -/
def CreatesTransit (env : Env) (buffer : Buffer) (d : Daemon) : Prop :=
  d.resvTree.find (recvTunnelId buffer) = none ∧ env.resvMalloc = true ∧
    ∃ pa, d.pathTree.find (recvTunnelId buffer) = some pa ∧
      pa.pSrcip ≠ .any

/-- No transit record is created without a free label, and nothing is answered
from a record that carries the failure value. -/
def LabelsSuffice (d : Daemon) : Event → Prop
  | .datagram env buffer =>
      ((recvHeader buffer).msgType = pathMsgType →
        AnsweredPath env buffer d → ¬Unlabelled d (recvTunnelId buffer)) ∧
      ((recvHeader buffer).msgType = resvMsgType →
        CreatesTransit env buffer d → ¬Exhausted d.labelBitmap)
  | .pathTimer _ => True
  | .resvTimer env => ∀ tunnelId, ResvRefreshed env d tunnelId →
      ¬Unlabelled d tunnelId

/-- The labels that records may hold. -/
structure LabelsHeld (d : Daemon) : Prop extends LabelsAdvertised d where
  held : ∀ tunnelId r, d.resvTree.find tunnelId = some r →
    Advertisable r.inLabel ∨ r.inLabel = -1

section Steps

variable {d d' : Daemon} {env : Env} {buffer : Buffer}

theorem LabelsHeld.answer (ok : LabelsHeld d) {tunnelId : U16} {r : ResvMsg}
    (found : d.resvTree.find tunnelId = some r)
    (labelled : ¬Unlabelled d tunnelId) : Advertisable r.inLabel := by
  rcases ok.held tunnelId r found with advertisable | failed
  · exact advertisable
  · exact absurd ⟨r, found, failed⟩ labelled

theorem LabelsHeld.mono (ok : LabelsHeld d) (new : List (InAddr × Packet))
    (sent : d'.sent = d.sent ++ new)
    (allowed : ∀ message ∈ new, ∀ label, resvLabel message = some label →
      Advertisable label)
    (commands : d'.commands = d.commands)
    (held : ∀ tunnelId r, d'.resvTree.find tunnelId = some r →
      d.resvTree.find tunnelId = some r ∨ Advertisable r.inLabel) :
    LabelsHeld d' where
  sent message member label := by
    rw [sent, List.mem_append] at member
    rcases member with old | new
    · exact ok.sent message old label
    · exact allowed message new label
  added := by
    rw [commands]
    exact ok.added
  held tunnelId r found := by
    rcases held tunnelId r found with old | advertisable
    · exact ok.held tunnelId r old
    · exact .inl advertisable

theorem answeredPath_of_held {p : PathMsg}
    (held : (receivePathMessage env buffer d).pathTree.find
      (recvTunnelId buffer) = some p)
    (egress : p.nexthopIp = .any) : AnsweredPath env buffer d := by
  rw [receivePathMessage_pathTree, receivePathRecord_find] at held
  unfold AnsweredPath
  cases receivePathRecord_cases env buffer d with
  | found p' result found pathTree =>
      cases result.symm.trans held
      rw [found]
      exact egress
  | missing result missing noRoute pathTree =>
      cases result.symm.trans held
  | built p' result missing built memory pathTree =>
      cases result.symm.trans held
      obtain ⟨routed, nexthopIp⟩ := newPathMsg_nexthopIp built
      rw [missing]
      exact ⟨memory, routed, nexthopIp ▸ egress⟩

theorem receivePathMessage_labelsHeld (ok : LabelsHeld d)
    (labelled : AnsweredPath env buffer d →
      ¬Unlabelled d (recvTunnelId buffer)) :
    LabelsHeld (receivePathMessage env buffer d) := by
  have stored (tunnelId : U16) (r : ResvMsg)
      (found : (receivePathMessage env buffer d).resvTree.find tunnelId =
        some r) :
      d.resvTree.find tunnelId = some r ∨ r.inLabel = implicitNull := by
    cases receivePathMessage_resvTree env buffer d with
    | kept resvTree => exact .inl (resvTree ▸ found)
    | created p path egress missing memory resvTree =>
        rw [resvTree] at found
        rcases RecordTree.find_insert_cases found with rfl | old
        · exact .inr (newResvMsg_egress env buffer _ _).1
        · exact .inl old
  refine ok.mono _ (receivePathMessage_sent env buffer d) ?_ (by simp) ?_
  · intro message member label carries
    cases path : (receivePathMessage env buffer d).pathTree.find
        (recvTunnelId buffer) with
    | none => simp [path] at member
    | some p =>
        by_cases egress : p.nexthopIp = .any
        · simp only [path, if_pos egress, Option.mem_toList,
            Option.map_eq_some_iff] at member
          obtain ⟨r, found, rfl⟩ := member
          rw [resvLabel_resvSend, Option.some_inj] at carries
          rw [← carries]
          rcases stored _ r found with old | implicit
          · exact ok.answer old (labelled (answeredPath_of_held path egress))
          · exact .inl implicit
        · simp only [path, if_neg egress, List.mem_singleton] at member
          rw [member, resvLabel_pathSend] at carries
          cases carries
  · intro tunnelId r found
    exact (stored tunnelId r found).imp_right .inl

theorem resvMade_labelInRange {pa : PathMsg} (transit : pa.pSrcip ≠ .any)
    (free : ¬Exhausted d.labelBitmap) :
    LabelInRange (resvMade env buffer d pa).1.inLabel := by
  have taken := newResvMsg_transit env buffer transit d.labelBitmap
  have allocates := allocateLabel_allocates d.labelBitmap
  generalize allocateLabel d.labelBitmap = result at taken allocates
  cases allocates with
  | full all => exact absurd (fun label inRange => all label inRange.1
      inRange.2) free
  | fresh label bitmap' low high _ _ _ =>
      rw [resvMade, (Prod.mk.inj taken).1]
      exact ⟨low, high⟩

theorem addedRoute_inLabel? (pa : PathMsg) (p : ResvMsg) :
    (addedRoute pa p).inLabel? =
      if p.nexthopIp = .any then none else some p.inLabel := by
  unfold addedRoute
  dsimp only
  split
  · rfl
  · split <;> rfl

theorem receiveResvMessage_labelsHeld (ok : LabelsHeld d)
    (free : CreatesTransit env buffer d → ¬Exhausted d.labelBitmap) :
    LabelsHeld (receiveResvMessage env buffer d) := by
  cases receiveResvMessage_cases env buffer d with
  | kept known resvTree labelBitmap commands sent =>
      refine ok.mono [] (by simp [sent]) (by simp) commands ?_
      intro tunnelId r found
      exact .inl (resvTree ▸ found)
  | noMemory pa path missing memory resvTree labelBitmap commands sent =>
      refine ok.mono [] (by simp [sent]) (by simp) commands ?_
      intro tunnelId r found
      exact .inl (resvTree ▸ found)
  | created pa path missing memory resvTree labelBitmap commands sent =>
      have inRange (transit : (resvMade env buffer d pa).1.nexthopIp ≠
          .any) : LabelInRange (resvMade env buffer d pa).1.inLabel := by
        rw [resvMade_nexthopIp] at transit
        exact resvMade_labelInRange transit
          (free ⟨missing, memory, pa, path, transit⟩)
      constructor
      · constructor
        · intro message member label carries
          rw [sent, List.mem_append] at member
          rcases member with old | new
          · exact ok.sent message old label carries
          · split at new
            case isTrue => cases new
            case isFalse transit =>
              rw [List.mem_singleton.mp new, resvLabel_resvSend,
                Option.some_inj] at carries
              exact .inr (carries ▸ inRange transit)
        · intro route label member names
          rw [commands, List.mem_append] at member
          rcases member with old | new
          · exact ok.added route label old names
          · cases List.mem_singleton.mp new
            rw [addedRoute_inLabel?] at names
            split at names
            case isTrue => cases names
            case isFalse transit =>
              exact Option.some_inj.mp names ▸ inRange transit
      · intro tunnelId r found
        rw [resvTree] at found
        rcases RecordTree.find_insert_cases found with rfl | old
        · rcases resvMade_label env buffer d pa with ⟨failed, _⟩ | given
          · exact .inr failed
          · exact .inl (.inr ⟨given.2.1, given.2.2.1⟩)
        · exact ok.held tunnelId r old

theorem pathTimerHandler_labelsHeld (ok : LabelsHeld d) :
    LabelsHeld (pathTimerHandler env d) := by
  obtain ⟨new, shape, allowed⟩ := pathTimerHandler_sent env d
  refine ok.mono new shape ?_ (by simp) ?_
  · intro message member label carries
    obtain ⟨_, p, _, rfl⟩ := allowed message member
    cases carries
  · intro tunnelId r found
    exact .inl (pathTimerHandler_findSome found).1

theorem resvTimerHandler_labelsHeld (ok : LabelsHeld d)
    (labelled : ∀ tunnelId, ResvRefreshed env d tunnelId →
      ¬Unlabelled d tunnelId) :
    LabelsHeld (resvTimerHandler env d) := by
  obtain ⟨new, shape, allowed⟩ := resvTimerHandler_refreshes env d
  refine ok.mono new shape ?_ (by simp) ?_
  · intro message member label carries
    obtain ⟨tunnelId, r, refreshed, found, rfl⟩ := allowed message member
    rw [resvLabel_resvSend, Option.some_inj] at carries
    exact carries ▸ ok.answer found (labelled tunnelId refreshed)
  · intro tunnelId r found
    exact .inl (resvTimerHandler_findSome found).1

end Steps

theorem startup_labelsHeld (env : Env) (config : TunnelConfig) :
    LabelsHeld (startup env config) := by
  obtain ⟨resvTree, _, _, commands⟩ := startup_frame env config
  have sent : ∀ message ∈ (startup env config).sent,
      resvLabel message = none := by
    unfold startup
    split
    · simp
    · intro message member
      simp only [sendPathMessage_sent, setResvHead_sent, setPathTree_sent,
        init_sent, List.nil_append, Option.mem_toList,
        Option.map_eq_some_iff] at member
      obtain ⟨p, _, rfl⟩ := member
      rfl
  constructor
  · constructor
    · intro message member label carries
      rw [sent message member] at carries
      cases carries
    · intro route label member
      rw [commands] at member
      cases member
  · intro tunnelId r found
    rw [resvTree, RecordTree.find_null] at found
    cases found

/-- A transit record that is created without a free label is advertised with
the failure value. -/
theorem exhausted_not_advertised {env : Env} {buffer : Buffer} {d : Daemon}
    (exhausted : Exhausted d.labelBitmap)
    (creates : CreatesTransit env buffer d) :
    ¬LabelsAdvertised (receiveResvMessage env buffer d) := by
  obtain ⟨missing, memory, pa, path, transit⟩ := creates
  intro advertised
  cases receiveResvMessage_cases env buffer d with
  | kept known resvTree labelBitmap commands sent =>
      rcases known with unknown | ⟨r, held⟩
      · cases unknown.symm.trans path
      · cases missing.symm.trans held
  | noMemory pa' path' missing noMemory =>
      rw [memory] at noMemory
      cases noMemory
  | created pa' path' missing memory resvTree labelBitmap commands sent =>
      cases path.symm.trans path'
      have failed : (resvMade env buffer d pa).1.inLabel = -1 := by
        rcases resvMade_label env buffer d pa with ⟨failed, _⟩ | given
        · exact failed
        · obtain ⟨_, low, high, free, _⟩ := given
          rw [exhausted _ ⟨low, high⟩] at free
          cases free
      rw [resvMade_nexthopIp, if_neg transit] at sent
      have answers : resvSend env (resvMade env buffer d pa).1 ∈
          (receiveResvMessage env buffer d).sent := by
        rw [sent]
        exact List.mem_append_right _ List.mem_cons_self
      have carried := advertised.sent _ answers _ (resvLabel_resvSend _ _)
      exact not_advertisable (failed ▸ carried)

/-- The node is a transit router of tunnel 1 without a reservation, and that
many labels are taken. -/
structure Leaked (taken : Nat) (d : Daemon) : Prop where
  path : ∃ pa, d.pathTree.find 1 = some pa ∧ pa.pSrcip ≠ .any
  resv : d.resvTree.find 1 = none
  sessions : d.resvHead = []
  labels : ∃ pool, Represents d.labelBitmap pool ∧ pool.taken.card = taken

/-- The RESV of tunnel 1, at a time. -/
def leakingResv (now : Int) : Event :=
  .datagram (.toward (some ⟨2⟩) now) (sampleResv 1 ⟨1⟩ ⟨9⟩ ⟨3⟩ 3).received

theorem leakingResv_step (now : Int) (d : Daemon) :
    step d (leakingResv now) =
      some (receiveResvMessage (.toward (some ⟨2⟩) now)
        (sampleResv 1 ⟨1⟩ ⟨9⟩ ⟨3⟩ 3).received d) := by
  have isResv : (recvHeader (sampleResv 1 ⟨1⟩ ⟨9⟩ ⟨3⟩ 3).received).msgType =
      resvMsgType := recvHeader_received _
  rw [leakingResv, step, mainReceive, isResv, if_neg (by decide), if_pos rfl]

theorem leakingResv_tunnelId :
    recvTunnelId (sampleResv 1 ⟨1⟩ ⟨9⟩ ⟨3⟩ 3).received = 1 := by
  rw [recvTunnelId, recvSessionObj_received]
  rfl

theorem Leaked.reserve {taken : Nat} {d d' : Daemon}
    (leaked : Leaked taken d) (room : taken < labelRange.card) {now : Int}
    (reserved : step d (leakingResv now) = some d') :
    d'.pathTree = d.pathTree ∧
      (∃ temp, d'.resvHead = [temp] ∧ temp.tunnelId = 1 ∧ temp.dest = 0 ∧
        temp.lastPathTime = now) ∧
      ∃ pool, Represents d'.labelBitmap pool ∧
        pool.taken.card = taken + 1 := by
  rw [leakingResv_step, Option.some_inj] at reserved
  obtain ⟨pa, path, transit⟩ := leaked.path
  obtain ⟨pool, represents, card⟩ := leaked.labels
  rw [← leakingResv_tunnelId] at path
  rw [← reserved]
  refine ⟨(receiveResvMessage_frame _ _ d).1, ?_, ?_⟩
  · have reached (ip : InAddr) :
        dstReached ((Env.toward (some ⟨2⟩) now).reachRoute ip) = 0 := rfl
    rw [receiveResvMessage_resvHead, path]
    simp only [insert_resvHead, leaked.sessions, reached]
    rw [if_neg (by decide), noteSession_missing rfl, leakingResv_tunnelId]
    exact ⟨_, rfl, rfl, rfl, rfl⟩
  · cases receiveResvMessage_cases (.toward (some ⟨2⟩) now)
      (sampleResv 1 ⟨1⟩ ⟨9⟩ ⟨3⟩ 3).received d with
    | kept known resvTree labelBitmap commands sent =>
        rw [path, leakingResv_tunnelId, leaked.resv] at known
        rcases known with unknown | ⟨r, held⟩
        · cases unknown
        · cases held
    | noMemory pa' path' missing memory => cases memory
    | created pa' path' missing memory resvTree labelBitmap =>
        cases path.symm.trans path'
        have made := newResvMsg_transit (.toward (some ⟨2⟩) now)
          (sampleResv 1 ⟨1⟩ ⟨9⟩ ⟨3⟩ 3).received transit d.labelBitmap
        rw [labelBitmap, resvMade, (Prod.mk.inj made).2]
        refine ⟨_, represents.allocate.2, ?_⟩
        rw [LabelCall.onPool_allocate,
          Pool.card_allocate (by rwa [card]), card]

theorem Leaked.again {taken : Nat} {env : Env} {config : TunnelConfig}
    {d : Daemon} (run : Reaches (fun _ _ => True) env config d)
    (leaked : Leaked taken d) (room : taken < labelRange.card) (now : Int) :
    ∃ d', Reaches (fun _ _ => True) env config d' ∧
      Leaked (taken + 1) d' := by
  obtain ⟨pathTree, ⟨temp, sessions, tunnelId, dest, time⟩, labels⟩ :=
    leaked.reserve room (leakingResv_step now d)
  have reserved := run.tail
    ⟨leakingResv now, trivial, leakingResv_step now d⟩
  generalize receiveResvMessage (.toward (some ⟨2⟩) now)
    (sampleResv 1 ⟨1⟩ ⟨9⟩ ⟨3⟩ 3).received d = made at *
  let later : Env := .isolated (now + 100)
  have expired : Expired later.now temp := by
    show now + 100 - temp.lastPathTime > timeout
    rw [time, timeout]
    omega
  refine ⟨pathTimerHandler later made,
    reserved.tail ⟨.pathTimer later, trivial, rfl⟩, ?_⟩
  constructor
  · rw [(pathTimerHandler_frame later made).1, pathTree]
    exact leaked.path
  · apply pathTimerHandler_findTorn
    refine ⟨temp, ⟨[], [], sessions, passedOver_nil⟩, expired, tunnelId⟩
  · rw [pathTimerHandler_resvHead, sessions,
      remaining_first [] ⟨expired, .inl dest⟩, remaining_nil]
  · rw [(pathTimerHandler_frame later made).2.2.1]
    exact labels

/-- The PATH of tunnel 1 from another router. -/
def learningPath : Event :=
  .datagram (.toward (some ⟨3⟩) 0) (samplePath 1 ⟨1⟩ ⟨9⟩ ⟨2⟩).received

theorem leaked_start {d : Daemon}
    (learnt : step (startup (.isolated 0) ⟨1, .any, .any⟩) learningPath =
      some d) : Leaked 0 d := by
  have holds : ((step (startup (.isolated 0) ⟨1, .any, .any⟩)
      learningPath).map fun d => ((d.pathTree.find 1).map PathMsg.pSrcip,
        d.resvTree.find 1, d.resvHead)) = some (some ⟨2⟩, none, []) := by
    decide +kernel
  rw [learnt, Option.map_some, Option.some_inj] at holds
  obtain ⟨path, rest⟩ := Prod.mk.inj holds
  obtain ⟨resv, sessions⟩ := Prod.mk.inj rest
  obtain ⟨pa, found, hop⟩ := Option.map_eq_some_iff.mp path
  have kept : d.labelBitmap = .empty := by
    rw [← (startup_frame (.isolated 0) ⟨1, .any, .any⟩).2.2.1]
    cases mainReceive_cases _ _ _ learnt with
    | path isPath routed result => simp [result]
    | resv isResv result =>
        have isPath := recvHeader_received (samplePath 1 ⟨1⟩ ⟨9⟩ ⟨2⟩)
        rw [isPath] at isResv
        exact absurd isResv (by decide)
    | other notPath notResv result => rw [result]
  refine ⟨⟨pa, found, ?_⟩, resv, sessions, .empty, ?_, rfl⟩
  · rw [hop]
    decide
  · rw [kept]
    exact represents_empty

theorem leaked_reachable {taken : Nat} (room : taken ≤ labelRange.card) :
    ∃ d, Reaches (fun _ _ => True) (.isolated 0) ⟨1, .any, .any⟩ d ∧
      Leaked taken d := by
  induction taken with
  | zero =>
      have learnt : (step (startup (.isolated 0) ⟨1, .any, .any⟩)
          learningPath).isSome := by
        decide +kernel
      obtain ⟨d, taken⟩ := Option.isSome_iff_exists.mp learnt
      exact ⟨d, .single ⟨learningPath, trivial, taken⟩, leaked_start taken⟩
  | succ taken ih =>
      obtain ⟨d, run, leaked⟩ := ih (Nat.le_of_succ_le room)
      exact leaked.again run room (200 * taken)

/-- In every run whose steps have labels enough, every RESV sent carries the
implicit null label or one of the allocator, and every route added for an
incoming label names one of the allocator. -/
theorem labelsAdvertised_of_labelsSuffice {env : Env} {config : TunnelConfig}
    {d : Daemon} (run : Reaches LabelsSuffice env config d) :
    LabelsAdvertised d := by
  have held : LabelsHeld d := by
    apply run.invariant
    · exact startup_labelsHeld env config
    · intro env buffer d ok allowed isPath _
      apply receivePathMessage_labelsHeld
      · exact ok.mono [] (by simp) (by simp) (by simp) fun _ _ found =>
          .inl (by simpa using found)
      · intro answered
        have before := allowed.1 isPath (by simpa [AnsweredPath] using answered)
        simpa [Unlabelled] using before
    · intro env buffer d ok allowed isResv
      exact receiveResvMessage_labelsHeld ok (allowed.2 isResv)
    · intro env d ok _
      exact pathTimerHandler_labelsHeld ok
    · intro env d ok allowed
      exact resvTimerHandler_labelsHeld ok allowed
  exact held.toLabelsAdvertised

/-- With labels free, the first reservation advertises label 16. -/
theorem first_label_advertised :
    ∃ d, Reaches LabelsSuffice (.isolated 0) ⟨1, .any, .any⟩ d ∧
      d.sent.filterMap resvLabel = [16] ∧ LabelsAdvertised d := by
  have sends : ((runEvents step (startup (.isolated 0) ⟨1, .any, .any⟩)
      [learningPath, leakingResv 0]).map fun d =>
        d.sent.filterMap resvLabel) = some [16] := by
    decide +kernel
  obtain ⟨d, run, labels⟩ := Option.map_eq_some_iff.mp sends
  obtain ⟨learnt, first, rest⟩ := runEvents_cons.mp run
  obtain ⟨last, second, done⟩ := runEvents_cons.mp rest
  cases done
  have leaked := leaked_start first
  obtain ⟨pool, represents, card⟩ := leaked.labels
  have firstAllowed : LabelsSuffice (startup (.isolated 0) ⟨1, .any, .any⟩)
      learningPath := by
    refine ⟨fun _ _ => ?_, fun isResv => ?_⟩
    · rintro ⟨r, found, _⟩
      rw [(startup_frame (.isolated 0) ⟨1, .any, .any⟩).1,
        RecordTree.find_null] at found
      cases found
    · rw [recvHeader_received] at isResv
      exact absurd isResv (by decide)
  have secondAllowed : LabelsSuffice learnt (leakingResv 0) := by
    refine ⟨fun isPath => ?_, fun _ _ exhausted => ?_⟩
    · rw [recvHeader_received] at isPath
      exact absurd isPath (by decide)
    · have taken := exhausted 16 (by constructor <;> decide)
      rw [represents, Finset.card_eq_zero.mp card] at taken
      cases taken
  have reached : Reaches LabelsSuffice (.isolated 0) ⟨1, .any, .any⟩ d :=
    (Relation.ReflTransGen.single ⟨learningPath, firstAllowed, first⟩).tail
      ⟨leakingResv 0, secondAllowed, second⟩
  exact ⟨d, reached, labels, labelsAdvertised_of_labelsSuffice reached⟩

/-- The reservation of one tunnel is made and expires 65520 times.  The next
one gets the failure value, which the node advertises. -/
theorem exhaustion_advertised :
    ∃ d d', Reaches (fun _ _ => True) (.isolated 0) ⟨1, .any, .any⟩ d ∧
      Exhausted d.labelBitmap ∧ step d (leakingResv 13104000) = some d' ∧
      ¬LabelsAdvertised d' := by
  obtain ⟨d, run, leaked⟩ := leaked_reachable (Nat.le_refl labelRange.card)
  obtain ⟨pa, path, transit⟩ := leaked.path
  obtain ⟨pool, represents, card⟩ := leaked.labels
  have all : pool.taken = labelRange :=
    Finset.eq_of_subset_of_card_le pool.within (Nat.le_of_eq card.symm)
  have exhausted : Exhausted d.labelBitmap := by
    intro label inRange
    rw [represents, all]
    exact mem_labelRange.mpr inRange
  have missing := leaked.resv
  rw [← leakingResv_tunnelId] at path missing
  exact ⟨d, _, run, exhausted, leakingResv_step 13104000 d,
    exhausted_not_advertised exhausted
      ⟨missing, rfl, pa, path, transit⟩⟩

end Rsvpd
