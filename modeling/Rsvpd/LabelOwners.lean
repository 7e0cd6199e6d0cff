import Rsvpd.Runs

/-!
# Labels and the records that own them

`resv_tree_insert` takes labels, but neither timer handler calls `free_label`
for the records it removes.  `update_tables`, which does, is never called.
-/

namespace Rsvpd

open Daemon

/-- Every allocated label is the incoming label of a reservation record. -/
def LabelsOwned (d : Daemon) : Prop :=
  ∀ label, isAllocated d.labelBitmap label = true →
    ∃ r ∈ d.resvTree.records, r.inLabel = label

/-- The datagram makes the node take a label for a new record. -/
def TakesLabel (d : Daemon) (buffer : Buffer) : Prop :=
  (recvHeader buffer).msgType = resvMsgType ∧
    d.resvTree.find (recvTunnelId buffer) = none ∧
    (∃ pa, d.pathTree.find (recvTunnelId buffer) = some pa ∧
      pa.pSrcip ≠ .any) ∧
    ∃ label : U32, labelMin ≤ label.toNat ∧ label.toNat ≤ labelMax ∧
      isAllocated d.labelBitmap label = false

/-- The step loses no label: a record that takes one is stored, and no sweep
removes a record whose label is allocated. -/
def LosesNoLabel (d : Daemon) : Event → Prop
  | .datagram env buffer => TakesLabel d buffer → env.resvMalloc = true
  | .pathTimer env => ∀ tunnelId r, PathTornDown env d tunnelId →
      d.resvTree.find tunnelId = some r →
        isAllocated d.labelBitmap r.inLabel = false
  | .resvTimer env => ∀ tunnelId r, ResvTornDown env d tunnelId →
      d.resvTree.find tunnelId = some r →
        isAllocated d.labelBitmap r.inLabel = false

/-- Labels stay owned when the bitmap stays and the records whose labels are
allocated do. -/
theorem LabelsOwned.mono {d d' : Daemon} (owned : LabelsOwned d)
    (bitmap : d'.labelBitmap = d.labelBitmap)
    (kept : ∀ r ∈ d.resvTree.records,
      isAllocated d.labelBitmap r.inLabel = true →
        r ∈ d'.resvTree.records) : LabelsOwned d' := by
  intro label allocated
  rw [bitmap] at allocated
  obtain ⟨r, member, same⟩ := owned label allocated
  exact ⟨r, kept r member (same ▸ allocated), same⟩

theorem receivePathMessage_labelsOwned (env : Env) (buffer : Buffer)
    {d : Daemon} (owned : LabelsOwned d) :
    LabelsOwned (receivePathMessage env buffer d) := by
  apply owned.mono (by simp)
  intro r member _
  cases receivePathMessage_resvTree env buffer d with
  | kept resvTree => rwa [resvTree]
  | created p path egress missing memory resvTree =>
      rw [resvTree]
      exact RecordTree.mem_insert_of_mem _ _ member

theorem receiveResvMessage_labelsOwned {env : Env} {buffer : Buffer}
    {d : Daemon} (owned : LabelsOwned d)
    (isResv : (recvHeader buffer).msgType = resvMsgType)
    (stored : TakesLabel d buffer → env.resvMalloc = true) :
    LabelsOwned (receiveResvMessage env buffer d) := by
  cases receiveResvMessage_cases env buffer d with
  | kept known resvTree labelBitmap commands sent =>
      apply owned.mono labelBitmap
      intro r member _
      rwa [resvTree]
  | noMemory pa path missing memory resvTree labelBitmap commands sent =>
      rcases resvMade_label env buffer d pa with ⟨_, same⟩ | taken
      · apply owned.mono (labelBitmap.trans same)
        intro r member _
        rwa [resvTree]
      · obtain ⟨transit, low, high, free, _⟩ := taken
        have takes : TakesLabel d buffer :=
          ⟨isResv, missing, ⟨pa, path, transit⟩, _, low, high, free⟩
        rw [stored takes] at memory
        cases memory
  | created pa path missing memory resvTree labelBitmap commands sent =>
      have new : (resvMade env buffer d pa).1 ∈
          (receiveResvMessage env buffer d).resvTree.records := by
        rw [resvTree]
        exact RecordTree.mem_insert_self (find_newResvMsg missing)
      have old : ∀ r ∈ d.resvTree.records,
          r ∈ (receiveResvMessage env buffer d).resvTree.records := by
        intro r member
        rw [resvTree]
        exact RecordTree.mem_insert_of_mem _ _ member
      intro label allocated
      rw [labelBitmap] at allocated
      rcases resvMade_label env buffer d pa with ⟨_, same⟩ | taken
      · rw [same] at allocated
        obtain ⟨r, member, sameLabel⟩ := owned label allocated
        exact ⟨r, old r member, sameLabel⟩
      · obtain ⟨_, _, _, _, marked⟩ := taken
        rw [marked, Bool.or_eq_true, decide_eq_true_eq] at allocated
        rcases allocated with here | before
        · exact ⟨_, new, here.symm⟩
        · obtain ⟨r, member, sameLabel⟩ := owned label before
          exact ⟨r, old r member, sameLabel⟩

theorem pathTimerHandler_labelsOwned {env : Env} {d : Daemon}
    (owned : LabelsOwned d) (allowed : LosesNoLabel d (.pathTimer env)) :
    LabelsOwned (pathTimerHandler env d) := by
  apply owned.mono (by simp)
  intro r member allocated
  rw [RecordTree.mem_records_iff] at member ⊢
  rw [← member]
  apply pathTimerHandler_findKept
  intro torn
  rw [allowed _ r torn member] at allocated
  cases allocated

theorem resvTimerHandler_labelsOwned {env : Env} {d : Daemon}
    (owned : LabelsOwned d) (allowed : LosesNoLabel d (.resvTimer env)) :
    LabelsOwned (resvTimerHandler env d) := by
  apply owned.mono (by simp)
  intro r member allocated
  rw [RecordTree.mem_records_iff] at member ⊢
  rw [← member]
  apply resvTimerHandler_findKept
  intro torn
  rw [allowed _ r torn member] at allocated
  cases allocated

/-- In every run whose steps lose no label, every allocated label is owned. -/
theorem labelsOwned_of_losesNoLabel {env : Env} {config : TunnelConfig}
    {d : Daemon} (run : Reaches LosesNoLabel env config d) :
    LabelsOwned d := by
  apply run.invariant
  · intro label allocated
    simp at allocated
  · intro env buffer d owned _ _ _
    apply receivePathMessage_labelsOwned
    exact owned.mono (by simp) (fun r member _ => by simpa using member)
  · intro env buffer d owned allowed isResv
    exact receiveResvMessage_labelsOwned owned isResv allowed
  · intro env d owned allowed
    exact pathTimerHandler_labelsOwned owned allowed
  · intro env d owned allowed
    exact resvTimerHandler_labelsOwned owned allowed

theorem transitEvents_labelsOwned :
    ∃ d, Transition.runEvents step
        (startup (.isolated 0) ⟨1, .any, .any⟩) transitEvents = some d ∧
      isAllocated d.labelBitmap 16 = true ∧
      ∃ r ∈ d.resvTree.records, r.inLabel = 16 := by
  have allowed : ∀ event ∈ transitEvents, ∀ d, LosesNoLabel d event := by
    intro event member d
    simp only [transitEvents, List.mem_cons, List.not_mem_nil, or_false]
      at member
    rcases member with rfl | rfl
    · exact fun _ => rfl
    · exact fun _ => rfl
  have allocated : ((Transition.runEvents step
      (startup (.isolated 0) ⟨1, .any, .any⟩) transitEvents).map
        fun d => isAllocated d.labelBitmap 16) = some true := by
    decide +kernel
  obtain ⟨d, run, here⟩ := Option.map_eq_some_iff.mp allocated
  exact ⟨d, run, here,
    labelsOwned_of_losesNoLabel (.of_runEvents allowed run) 16 here⟩

/-- The reservation expires, and its label stays allocated. -/
theorem labels_not_owned :
    ∃ env config d, Reaches (fun _ _ => True) env config d ∧
      ¬LabelsOwned d := by
  have leaked : ((Transition.runEvents step
      (startup (.isolated 0) ⟨1, .any, .any⟩)
      (transitEvents ++ [.pathTimer (.isolated 100)])).map
        fun d => (isAllocated d.labelBitmap 16, d.resvTree.records)) =
      some (true, []) := by
    decide +kernel
  obtain ⟨d, run, final⟩ := Option.map_eq_some_iff.mp leaked
  obtain ⟨allocated, empty⟩ := Prod.mk.inj final
  refine ⟨_, _, d, .of_runEvents (fun _ _ _ => trivial) run, ?_⟩
  intro owned
  obtain ⟨r, member, _⟩ := owned 16 allocated
  rw [empty] at member
  cases member

end Rsvpd
