import Rsvpd.Runs

/-!
# Set-up and teardown of a label route

`receive_resv_message` adds a route for each record that it creates, and
`update_tables` is meant to delete it.  The two tell push, swap and pop apart
in different ways: one asks for the address upstream and for the implicit null
label, the other compares both labels with `BASE_LABEL`.
-/

namespace Rsvpd

open Daemon Transition

def baseLabel : U32 := 16
def explicitNull : U32 := 0

/-- What `update_tables` writes into the path record: the prefix length and
the interface in any case, the next hop when the lookup reports a route. -/
def refreshPath (answer : NexthopAnswer) (pa : PathMsg) : PathMsg :=
  let pa := { pa with prefixLen := answer.prefixLen, ifh := answer.ifh }
  if answer.ret ≠ 0 then { pa with nexthopIp := answer.nhip.getD .any }
  else pa

theorem refreshPath_tunnelId (answer : NexthopAnswer) (pa : PathMsg) :
    Record.tunnelId (refreshPath answer pa) = Record.tunnelId pa := by
  unfold refreshPath
  split <;> rfl

/-- A `route del` that `update_tables` composes and logs; it hands some of
them to `system`. -/
inductive Removal where
  | none
  | logged (route : KernelRoute)
  | run (route : KernelRoute)
deriving DecidableEq

/-- The chain of tests in `update_tables`, with unsigned comparisons. -/
def removal (pa : PathMsg) (p : ResvMsg) : Removal :=
  if p.inLabel = -1 ∧ baseLabel ≤ p.outLabel then
    .logged (.push pa.destIp pa.prefixLen p.outLabel pa.nexthopIp pa.dev)
  else if baseLabel ≤ p.inLabel ∧ baseLabel ≤ p.outLabel then
    .run (.swap p.inLabel p.outLabel pa.nexthopIp)
  else if baseLabel < p.inLabel ∧
      (p.outLabel = implicitNull ∨ p.outLabel = explicitNull) then
    .run (.pop p.inLabel pa.nexthopIp pa.dev)
  else
    .none

def runRemoval (removal : Removal) (d : Daemon) : Daemon :=
  match removal with
  | .run route => d.emit (.system (.del route))
  | _ => d

/-- `update_tables`; `lookup` answers its `get_nexthop`.  Without a path
record the pointer `pa` is uninitialised: `none`. -/
def updateTables (lookup : InAddr → NexthopAnswer) (tunnelId : U16)
    (d : Daemon) : Option Daemon :=
  match d.resvTree.find tunnelId with
  | none => some d
  | some p =>
      match d.pathTree.find tunnelId with
      | none => none
      | some pa =>
          let answer := lookup pa.destIp
          let d := { d with pathTree := d.pathTree.write tunnelId
                              (refreshPath answer)
                              (refreshPath_tunnelId answer) }
          let d := runRemoval (removal (refreshPath answer pa) p) d
          some { d with labelBitmap := (freeLabel p.inLabel d.labelBitmap).2 }

section UpdateTables

variable (lookup : InAddr → NexthopAnswer) {tunnelId : U16} {d : Daemon}
  {pa : PathMsg} {p : ResvMsg}

@[simp] theorem runRemoval_frame (removal : Removal) (d : Daemon) :
    (runRemoval removal d).pathTree = d.pathTree ∧
      (runRemoval removal d).resvTree = d.resvTree ∧
      (runRemoval removal d).pathHead = d.pathHead ∧
      (runRemoval removal d).resvHead = d.resvHead ∧
      (runRemoval removal d).labelBitmap = d.labelBitmap := by
  cases removal <;> simp [runRemoval]

theorem updateTables_of_records
    (reservation : d.resvTree.find tunnelId = some p)
    (path : d.pathTree.find tunnelId = some pa) :
    ∃ d', updateTables lookup tunnelId d = some d' ∧
      (∀ target, d'.pathTree.find target =
        if target = tunnelId then some (refreshPath (lookup pa.destIp) pa)
        else d.pathTree.find target) ∧
      d'.resvTree = d.resvTree ∧
      d'.labelBitmap = (freeLabel p.inLabel d.labelBitmap).2 ∧
      d'.commands = (runRemoval
        (removal (refreshPath (lookup pa.destIp) pa) p) d).commands := by
  simp only [updateTables, reservation, path]
  refine ⟨_, rfl, fun target => ?_, by simp, by simp, ?_⟩
  · simp only [runRemoval_frame, RecordTree.find_write]
    split
    case isTrue same => rw [same, path, Option.map_some]
    case isFalse => exact Option.map_id'
  · cases removal (refreshPath (lookup pa.destIp) pa) p <;>
      simp [runRemoval, commands]

end UpdateTables

/-- Two routes of the same kind with the same labels and, for a push, the same
destination prefix. -/
def SameRoute : KernelRoute → KernelRoute → Prop
  | .push network prefixLen outLabel _ _, .push network' prefixLen' outLabel'
      _ _ =>
      network = network' ∧ prefixLen = prefixLen' ∧ outLabel = outLabel'
  | .pop inLabel _ _, .pop inLabel' _ _ => inLabel = inLabel'
  | .swap inLabel outLabel _, .swap inLabel' outLabel' _ =>
      inLabel = inLabel' ∧ outLabel = outLabel'
  | _, _ => False

/-- `update_tables` deletes the route. -/
def Undoes (lookup : InAddr → NexthopAnswer) (tunnelId : U16) (d : Daemon)
    (added : KernelRoute) : Prop :=
  ∃ d' removed, updateTables lookup tunnelId d = some d' ∧
    d'.commands = d.commands ++ [.del removed] ∧ SameRoute removed added

/-- The labels of a reservation that both functions classify alike, at a node
that is not the ingress. -/
def ClassifiedAlike (p : ResvMsg) : Prop :=
  p.nexthopIp ≠ .any ∧
    (baseLabel ≤ p.outLabel ∧ p.inLabel ≠ -1 ∨
      p.outLabel = implicitNull ∧ p.inLabel ≠ baseLabel)

instance : DecidablePred ClassifiedAlike := fun _ =>
  inferInstanceAs (Decidable (_ ∧ _))

theorem undoes_iff_run {lookup : InAddr → NexthopAnswer} {tunnelId : U16}
    {d : Daemon} {added : KernelRoute} :
    Undoes lookup tunnelId d added ↔
      ∃ pa p route, d.pathTree.find tunnelId = some pa ∧
        d.resvTree.find tunnelId = some p ∧
        removal (refreshPath (lookup pa.destIp) pa) p = .run route ∧
        SameRoute route added := by
  cases reservation : d.resvTree.find tunnelId with
  | none => simp [Undoes, updateTables, reservation]
  | some p =>
      cases path : d.pathTree.find tunnelId with
      | none => simp [Undoes, updateTables, reservation, path]
      | some pa =>
          obtain ⟨d', result, _, _, _, commands⟩ :=
            updateTables_of_records lookup reservation path
          constructor
          · rintro ⟨d'', removed, result', deleted, same⟩
            cases result.symm.trans result'
            rw [commands] at deleted
            cases chosen : removal (refreshPath (lookup pa.destIp) pa) p with
            | none => simp [chosen, runRemoval] at deleted
            | logged route => simp [chosen, runRemoval] at deleted
            | run route =>
                have same' : route = removed := by
                  simpa [chosen, runRemoval] using deleted
                rw [← same'] at same
                exact ⟨pa, p, route, rfl, rfl, chosen, same⟩
          · rintro ⟨_, _, route, samePath, sameResv, chosen, same⟩
            cases samePath
            cases sameResv
            refine ⟨d', route, result, ?_, same⟩
            simp [commands, chosen, runRemoval]

/-- A label that a reservation can carry: none, or one that `allocate_label`
gives out; the ingress has none. -/
def LabelTaken (p : ResvMsg) : Prop :=
  p.inLabel = -1 ∨ p.nexthopIp ≠ .any ∧ baseLabel ≤ p.inLabel

theorem resvMade_labelTaken (env : Env) (buffer : Buffer) (d : Daemon)
    (pa : PathMsg) : LabelTaken (resvMade env buffer d pa).1 := by
  rcases resvMade_label env buffer d pa with ⟨none, _⟩ | ⟨transit, low, _⟩
  · exact .inl none
  · refine .inr ⟨?_, low⟩
    rwa [resvMade_nexthopIp]

theorem removal_ne_push {pa : PathMsg} {p : ResvMsg} {route : KernelRoute}
    (run : removal pa p = .run route) (network : InAddr) (prefixLen : U8)
    (outLabel : U32) (via : InAddr) (dev : String) :
    ¬SameRoute route (.push network prefixLen outLabel via dev) := by
  unfold removal at run
  split_ifs at run <;> cases run <;> exact not_false

theorem removal_pop_iff {pa : PathMsg} {p : ResvMsg}
    (implicit : p.outLabel = implicitNull) (via : InAddr) (dev : String) :
    (∃ route, removal pa p = .run route ∧
      SameRoute route (.pop p.inLabel via dev)) ↔ baseLabel < p.inLabel := by
  have reserved : ¬baseLabel ≤ implicitNull := by decide
  simp only [removal, implicit, reserved, and_false, if_false, true_or,
    and_true]
  split
  case isTrue above => exact iff_of_true ⟨_, rfl, rfl⟩ above
  case isFalse below =>
    refine iff_of_false ?_ below
    rintro ⟨route, run, _⟩
    cases run

theorem removal_swap_iff {pa : PathMsg} {p : ResvMsg} (via : InAddr) :
    (∃ route, removal pa p = .run route ∧
      SameRoute route (.swap p.inLabel p.outLabel via)) ↔
      p.inLabel ≠ -1 ∧ baseLabel ≤ p.inLabel ∧ baseLabel ≤ p.outLabel := by
  unfold removal
  split_ifs with ingress labels null
  · simp [ingress]
  · refine iff_of_true ⟨_, rfl, rfl, rfl⟩ ⟨?_, labels⟩
    exact fun unset => ingress ⟨unset, labels.2⟩
  · refine iff_of_false ?_ fun both => labels both.2
    rintro ⟨route, run, same⟩
    cases run
    exact same
  · refine iff_of_false ?_ fun both => labels both.2
    rintro ⟨route, run, _⟩
    cases run

theorem above_of_labelTaken {p : ResvMsg} (taken : LabelTaken p) :
    baseLabel ≤ p.inLabel := by
  rcases taken with unset | ⟨_, low⟩
  · rw [unset]
    decide
  · exact low

/-- The route that the teardown deletes is the one that the set-up added
exactly where both classify the labels alike. -/
theorem removal_same_iff (pa pa' : PathMsg) {p : ResvMsg}
    (taken : LabelTaken p) :
    (∃ route, removal pa' p = .run route ∧ SameRoute route (addedRoute pa p)) ↔
      ClassifiedAlike p := by
  have low := above_of_labelTaken taken
  unfold addedRoute ClassifiedAlike
  dsimp only
  split
  case isTrue ingress =>
    refine iff_of_false ?_ fun alike => alike.1 ingress
    rintro ⟨route, run, same⟩
    exact removal_ne_push run _ _ _ _ _ same
  case isFalse transit =>
    rw [and_iff_right transit]
    split
    case isTrue implicit =>
      rw [removal_pop_iff implicit]
      have reserved : ¬baseLabel ≤ p.outLabel := by
        rw [implicit]
        decide
      have same : p.outLabel = implicitNull := implicit
      rw [or_iff_right fun both => reserved both.1, and_iff_right same]
      constructor
      · intro above same
        rw [same] at above
        exact BitVec.lt_irrefl _ above
      · intro differ
        exact BitVec.lt_of_le_ne low differ.symm
    case isFalse explicit =>
      have differ : p.outLabel ≠ implicitNull := explicit
      rw [removal_swap_iff, or_iff_left fun both => differ both.1,
        and_iff_right low, and_comm]

theorem receiveResvMessage_adds {env : Env} {buffer : Buffer}
    {before : Daemon} {added : KernelRoute}
    (executed : (receiveResvMessage env buffer before).commands =
      before.commands ++ [.add added]) :
    ∃ pa, added = addedRoute pa (resvMade env buffer before pa).1 ∧
      (receiveResvMessage env buffer before).resvTree.find
        (recvTunnelId buffer) = some (resvMade env buffer before pa).1 := by
  cases receiveResvMessage_cases env buffer before with
  | kept known resvTree labelBitmap commands sent =>
      rw [commands] at executed
      simp at executed
  | noMemory pa path missing memory resvTree labelBitmap commands sent =>
      rw [commands] at executed
      simp at executed
  | created pa path missing memory resvTree labelBitmap commands sent =>
      rw [commands] at executed
      refine ⟨pa, by simpa using executed.symm, ?_⟩
      rw [resvTree]
      exact RecordTree.find_insert_self _
        (resvMade_tunnelId env buffer before pa) missing

/-- `update_tables` deletes the route that `receive_resv_message` added exactly
where the tunnel has its path record and both functions classify its labels
alike. -/
theorem undoes_iff_classifiedAlike {env : Env} {buffer : Buffer}
    {before d : Daemon} {added : KernelRoute}
    (executed : (receiveResvMessage env buffer before).commands =
      before.commands ++ [.add added])
    (held : d.resvTree.find (recvTunnelId buffer) =
      (receiveResvMessage env buffer before).resvTree.find
        (recvTunnelId buffer))
    (lookup : InAddr → NexthopAnswer) :
    Undoes lookup (recvTunnelId buffer) d added ↔
      ∃ pa p, d.pathTree.find (recvTunnelId buffer) = some pa ∧
        d.resvTree.find (recvTunnelId buffer) = some p ∧
        ClassifiedAlike p := by
  obtain ⟨pa, route, stored⟩ := receiveResvMessage_adds executed
  have taken := resvMade_labelTaken env buffer before pa
  rw [undoes_iff_run, held, stored, route]
  constructor
  · rintro ⟨pa', p, route, path', same, run, sameRoute⟩
    cases same
    exact ⟨pa', _, path', rfl,
      (removal_same_iff pa _ taken).mp ⟨route, run, sameRoute⟩⟩
  · rintro ⟨pa', p, path', same, alike⟩
    cases same
    obtain ⟨route, run, sameRoute⟩ :=
      (removal_same_iff pa (refreshPath (lookup pa'.destIp) pa')
        taken).mpr alike
    exact ⟨pa', _, route, path', rfl, run, sameRoute⟩

theorem swap_undone :
    ∃ learnt, step (startup (.isolated 0) ⟨1, .any, .any⟩)
        (.datagram (.toward (some ⟨3⟩) 0)
          (samplePath 1 ⟨1⟩ ⟨9⟩ ⟨2⟩).received) = some learnt ∧
      Undoes (Env.toward (some ⟨3⟩) 0).insertRoute 1
        (receiveResvMessage (.toward (some ⟨2⟩) 0)
          (sampleResv 1 ⟨1⟩ ⟨9⟩ ⟨3⟩ 20).received learnt)
        (.swap 16 20 ⟨3⟩) := by
  have learns : ((step (startup (.isolated 0) ⟨1, .any, .any⟩)
      (.datagram (.toward (some ⟨3⟩) 0)
        (samplePath 1 ⟨1⟩ ⟨9⟩ ⟨2⟩).received)).map fun learnt =>
          let d := receiveResvMessage (.toward (some ⟨2⟩) 0)
            (sampleResv 1 ⟨1⟩ ⟨9⟩ ⟨3⟩ 20).received learnt
          (decide (d.commands =
            learnt.commands ++ [.add (.swap 16 20 ⟨3⟩)]),
            (d.pathTree.find 1).isSome,
            (d.resvTree.find 1).map fun p => decide (ClassifiedAlike p))) =
      some (true, true, some true) := by
    decide +kernel
  obtain ⟨learnt, taken, facts⟩ := Option.map_eq_some_iff.mp learns
  obtain ⟨executed, facts⟩ := Prod.mk.inj facts
  obtain ⟨path, reservation⟩ := Prod.mk.inj facts
  obtain ⟨pa, path⟩ := Option.isSome_iff_exists.mp path
  obtain ⟨p, reservation, alike⟩ := Option.map_eq_some_iff.mp reservation
  have id : recvTunnelId (sampleResv 1 ⟨1⟩ ⟨9⟩ ⟨3⟩ 20).received = 1 := by
    decide +kernel
  refine ⟨learnt, taken, ?_⟩
  rw [← id] at path reservation ⊢
  exact (undoes_iff_classifiedAlike (of_decide_eq_true executed) rfl _).mpr
    ⟨pa, p, path, reservation, of_decide_eq_true alike⟩

/-- The node in front of the egress pops its first label, 16, and the teardown
leaves that route in place. -/
theorem first_pop_stays :
    ∃ d, runEvents step (startup (.isolated 0) ⟨1, .any, .any⟩)
        transitEvents = some d ∧
      d.commands = [.add (.pop 16 ⟨3⟩ "eth0")] ∧
      ¬Undoes (Env.toward (some ⟨3⟩) 0).insertRoute 1 d
        (.pop 16 ⟨3⟩ "eth0") := by
  have torn : ((runEvents step (startup (.isolated 0) ⟨1, .any, .any⟩)
      transitEvents).map fun d => (d.commands,
        (updateTables (Env.toward (some ⟨3⟩) 0).insertRoute 1 d).map
          commands)) =
      some ([.add (.pop 16 ⟨3⟩ "eth0")],
        some [.add (.pop 16 ⟨3⟩ "eth0")]) := by
    decide +kernel
  obtain ⟨d, run, commands⟩ := Option.map_eq_some_iff.mp torn
  obtain ⟨before, after⟩ := Prod.mk.inj commands
  refine ⟨d, run, before, ?_⟩
  rintro ⟨d', removed, result, deleted, _⟩
  rw [result, before.symm] at after
  rw [Option.some.inj after] at deleted
  simp at deleted

end Rsvpd
