import Rsvpd.Runs

/-!
# Transit labels are not shared

`allocate_label` gives a label that is not marked, and no handler unmarks one.
The labels of the stored records are marked, so a new record gets a label that
no stored record carries.
-/

namespace Rsvpd

open Daemon

/-- The incoming label comes from `allocate_label`: it is neither the implicit
null label nor the failure value. -/
def TransitLabel (label : U32) : Prop :=
  label ≠ implicitNull ∧ label ≠ 0xFFFFFFFF

instance : DecidablePred TransitLabel := fun _ =>
  inferInstanceAs (Decidable (_ ∧ _))

structure LabelsDistinct (d : Daemon) : Prop where
  marked : ∀ r ∈ d.resvTree.records, TransitLabel r.inLabel →
    isAllocated d.labelBitmap r.inLabel = true
  apart : ∀ first ∈ d.resvTree.records, ∀ second ∈ d.resvTree.records,
    TransitLabel first.inLabel → first.inLabel = second.inLabel →
      first = second

variable {d d' : Daemon}

theorem LabelsDistinct.mono (distinct : LabelsDistinct d)
    (records : ∀ r ∈ d'.resvTree.records, TransitLabel r.inLabel →
      r ∈ d.resvTree.records)
    (marks : ∀ label, isAllocated d.labelBitmap label = true →
      isAllocated d'.labelBitmap label = true) : LabelsDistinct d' where
  marked r member transit :=
    marks _ (distinct.marked r (records r member transit) transit)
  apart first firstMember second secondMember transit same :=
    distinct.apart first (records first firstMember transit) second
      (records second secondMember (same ▸ transit)) transit same

theorem LabelsDistinct.insert (distinct : LabelsDistinct d) {r : ResvMsg}
    (resvTree : d'.resvTree = d.resvTree.insert true r)
    (free : isAllocated d.labelBitmap r.inLabel = false)
    (marked : ∀ label, isAllocated d'.labelBitmap label =
      (decide (label = r.inLabel) || isAllocated d.labelBitmap label)) :
    LabelsDistinct d' := by
  have other {old : ResvMsg} (member : old ∈ d.resvTree.records)
      (transit : TransitLabel old.inLabel) : old.inLabel ≠ r.inLabel := by
    intro same
    have held := distinct.marked old member transit
    rw [same, free] at held
    cases held
  constructor
  · intro record member transit
    rw [marked, Bool.or_eq_true, decide_eq_true_eq]
    rw [resvTree] at member
    rcases RecordTree.mem_insert_cases member with rfl | old
    · exact .inl rfl
    · exact .inr (distinct.marked record old transit)
  · intro first firstMember second secondMember transit same
    rw [resvTree] at firstMember secondMember
    rcases RecordTree.mem_insert_cases firstMember with rfl | firstOld
    · rcases RecordTree.mem_insert_cases secondMember with rfl | secondOld
      · rfl
      · exact absurd same.symm (other secondOld (same ▸ transit))
    · rcases RecordTree.mem_insert_cases secondMember with rfl | secondOld
      · exact absurd same (other firstOld transit)
      · exact distinct.apart first firstOld second secondOld transit same

theorem receivePathMessage_labelsDistinct (env : Env) (buffer : Buffer)
    (distinct : LabelsDistinct d) :
    LabelsDistinct (receivePathMessage env buffer d) := by
  apply distinct.mono ?_ (by simp)
  intro r member transit
  cases receivePathMessage_resvTree env buffer d with
  | kept resvTree => rwa [resvTree] at member
  | created p path egress missing memory resvTree =>
      rw [resvTree] at member
      rcases RecordTree.mem_insert_cases member with rfl | old
      · exact absurd (newResvMsg_egress env buffer _ _).1 transit.1
      · exact old

theorem receiveResvMessage_labelsDistinct (env : Env) (buffer : Buffer)
    (distinct : LabelsDistinct d) :
    LabelsDistinct (receiveResvMessage env buffer d) := by
  cases receiveResvMessage_cases env buffer d with
  | kept known resvTree labelBitmap commands sent =>
      apply distinct.mono
      · intro r member _
        rwa [resvTree] at member
      · intro label allocated
        rwa [labelBitmap]
  | noMemory pa path missing memory resvTree labelBitmap commands sent =>
      apply distinct.mono
      · intro r member _
        rwa [resvTree] at member
      · intro label allocated
        rw [labelBitmap]
        exact resvMade_marks env buffer d pa allocated
  | created pa path missing memory resvTree labelBitmap commands sent =>
      rcases resvMade_label env buffer d pa with ⟨none, same⟩ | fresh
      · apply distinct.mono
        · intro r member transit
          rw [resvTree] at member
          rcases RecordTree.mem_insert_cases member with rfl | old
          · exact absurd none transit.2
          · exact old
        · intro label allocated
          rwa [labelBitmap, same]
      · obtain ⟨_, _, _, free, marked⟩ := fresh
        apply distinct.insert resvTree free
        rwa [labelBitmap]

theorem pathTimerHandler_labelsDistinct (env : Env)
    (distinct : LabelsDistinct d) :
    LabelsDistinct (pathTimerHandler env d) := by
  apply distinct.mono ?_ (by simp)
  intro r member _
  rw [RecordTree.mem_records_iff] at member ⊢
  exact (pathTimerHandler_findSome member).1

theorem resvTimerHandler_labelsDistinct (env : Env)
    (distinct : LabelsDistinct d) :
    LabelsDistinct (resvTimerHandler env d) := by
  apply distinct.mono ?_ (by simp)
  intro r member _
  rw [RecordTree.mem_records_iff] at member ⊢
  exact (resvTimerHandler_findSome member).1

theorem Reaches.labelsDistinct {guard : Daemon → Event → Prop} {env : Env}
    {config : TunnelConfig} (run : Reaches guard env config d) :
    LabelsDistinct d := by
  apply run.invariant
  · constructor
    · intro r member
      simp at member
    · intro first member
      simp at member
  · intro env buffer d distinct _ _ _
    apply receivePathMessage_labelsDistinct
    apply distinct.mono
    · intro r member _
      simpa using member
    · simp
  · intro env buffer d distinct _ _
    exact receiveResvMessage_labelsDistinct env buffer distinct
  · intro env d distinct _
    exact pathTimerHandler_labelsDistinct env distinct
  · intro env d distinct _
    exact resvTimerHandler_labelsDistinct env distinct

/-- In every run, different records with labels of their own have different
labels, and these lie in the range of the allocator and are marked. -/
theorem transit_labels_distinct {env : Env} {config : TunnelConfig}
    (run : Reaches (fun _ _ => True) env config d) :
    (∀ first ∈ d.resvTree.records, ∀ second ∈ d.resvTree.records,
      TransitLabel first.inLabel → TransitLabel second.inLabel →
        first ≠ second → first.inLabel ≠ second.inLabel) ∧
    ∀ r ∈ d.resvTree.records, TransitLabel r.inLabel →
      labelMin ≤ r.inLabel.toNat ∧ r.inLabel.toNat ≤ labelMax ∧
        isAllocated d.labelBitmap r.inLabel = true := by
  have distinct := run.labelsDistinct
  constructor
  · intro first firstMember second secondMember transit _ different same
    exact different
      (distinct.apart first firstMember second secondMember transit same)
  · intro r member transit
    have marked := distinct.marked r member transit
    exact ⟨(isAllocated_range marked).1, (isAllocated_range marked).2, marked⟩

/-- A transit router reserves tunnels 1 and 2. -/
theorem two_transits_distinct :
    ∃ d first second, Reaches (fun _ _ => True) (.isolated 0)
        ⟨1, .any, .any⟩ d ∧
      d.resvTree.find 1 = some first ∧ d.resvTree.find 2 = some second ∧
      first.inLabel ≠ second.inLabel := by
  have reserved : ((Transition.runEvents step
      (startup (.isolated 0) ⟨1, .any, .any⟩)
      (transitEvents ++
        [.datagram (.toward (some ⟨3⟩) 0) (samplePath 2 ⟨1⟩ ⟨9⟩ ⟨2⟩).received,
         .datagram (.toward (some ⟨2⟩) 0)
          (sampleResv 2 ⟨1⟩ ⟨9⟩ ⟨3⟩ 3).received])).map fun d =>
        (d.resvTree.find 1).any (TransitLabel ·.inLabel) &&
          (d.resvTree.find 2).any (TransitLabel ·.inLabel)) = some true := by
    decide +kernel
  obtain ⟨d, run, held⟩ := Option.map_eq_some_iff.mp reserved
  simp only [Bool.and_eq_true, Option.any_eq_true, decide_eq_true_eq] at held
  obtain ⟨⟨first, firstFound, firstTransit⟩, second, secondFound,
    secondTransit⟩ := held
  have reached : Reaches (fun _ _ => True) (.isolated 0) ⟨1, .any, .any⟩ d :=
    .of_runEvents (fun _ _ _ => trivial) run
  have different : first ≠ second := by
    rintro rfl
    have one := RecordTree.find_tunnelId firstFound
    rw [RecordTree.find_tunnelId secondFound] at one
    exact absurd one (by decide)
  exact ⟨d, first, second, reached, firstFound, secondFound,
    (transit_labels_distinct reached).1 first
      (RecordTree.mem_of_find firstFound) second
      (RecordTree.mem_of_find secondFound) firstTransit secondTransit
      different⟩

end Rsvpd
