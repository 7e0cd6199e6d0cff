import Rsvpd.AdvertisedLabels

/-!
# The order in which labels are handed out

No handler calls `free_label`.  The labels that `allocate_label` gives in a run
therefore count up from `LABEL_MIN`, and the one after `LABEL_MAX` and all
later ones are the failure value.
-/

namespace Rsvpd

open Daemon Transition

/-- What the calls of `allocate_label` give, one after another. -/
def nthLabel (index : Nat) : U32 :=
  if index < labelCount then BitVec.ofNat 32 (labelMin + index) else -1

/-- The label that a step takes from the allocator: a RESV that creates, or
has no memory for, the record of a tunnel from another router. -/
def labelTaken? (d : Daemon) : Event → Option U32
  | .datagram env buffer =>
      if (recvHeader buffer).msgType = resvMsgType then
        match d.pathTree.find (recvTunnelId buffer),
            d.resvTree.find (recvTunnelId buffer) with
        | some pa, none =>
            if pa.pSrcip = .any then none
            else some (resvMade env buffer d pa).1.inLabel
        | _, _ => none
      else none
  | .pathTimer _ => none
  | .resvTimer _ => none

/-- The labels that a run takes, in order. -/
def labelsTaken (d : Daemon) : List Event → List U32
  | [] => []
  | event :: events =>
      (labelTaken? d event).toList ++
        match step d event with
        | none => []
        | some next => labelsTaken next events

def Command.inLabel? : Command → Option U32
  | .add route => route.inLabel?
  | .del _ => none

/-- The labels in use are the first ones. -/
def Filled (count : Nat) (bitmap : LabelBitmap) : Prop :=
  ∀ label, isAllocated bitmap label = true ↔
    LabelInRange label ∧ label.toNat < labelMin + count

theorem filled_empty : Filled 0 .empty := by
  intro label
  rw [isAllocated_empty]
  constructor
  · intro never
    cases never
  · rintro ⟨⟨low, _⟩, below⟩
    exact absurd below (by omega)

theorem Filled.allocate {count : Nat} {bitmap : LabelBitmap}
    (filled : Filled count bitmap) :
    (allocateLabel bitmap).1 = nthLabel count ∧
      Filled (count + 1) (allocateLabel bitmap).2 := by
  have allocates := allocateLabel_allocates bitmap
  generalize allocateLabel bitmap = result at allocates
  cases allocates with
  | full taken =>
      have full : labelCount ≤ count := by
        have last := taken (BitVec.ofNat 32 labelMax) (by decide) (by decide)
        have below := ((filled _).mp last).2
        simp only [BitVec.toNat_ofNat, labelMax, labelMin, labelCount]
          at below ⊢
        omega
      constructor
      · rw [nthLabel, if_neg (not_lt.mpr full)]
      · intro label
        rw [filled label]
        refine and_congr_right fun inRange => ?_
        have high := inRange.2
        unfold labelMax at high
        unfold labelCount labelMax labelMin at *
        omega
  | fresh label bitmap' low high free least marked =>
      have above : labelMin + count ≤ label.toNat := by
        by_contra below
        rw [(filled label).mpr ⟨⟨low, high⟩, not_le.mp below⟩] at free
        cases free
      have inRange : count < labelCount := by
        unfold labelCount labelMax labelMin at *
        omega
      have number : (BitVec.ofNat 32 (labelMin + count)).toNat =
          labelMin + count := by
        rw [BitVec.toNat_ofNat]
        unfold labelCount labelMax labelMin at *
        omega
      have next : label.toNat = labelMin + count := by
        refine le_antisymm (not_lt.mp fun beyond => ?_) above
        have used := least (BitVec.ofNat 32 (labelMin + count))
          (by rw [number]; exact Nat.le_add_right _ _) (by rwa [number])
        have below := ((filled _).mp used).2
        rw [number] at below
        exact Nat.lt_irrefl _ below
      have same : label = BitVec.ofNat 32 (labelMin + count) :=
        BitVec.eq_of_toNat_eq (next.trans number.symm)
      constructor
      · rw [nthLabel, if_pos inRange, same]
      · intro other
        rw [marked, Bool.or_eq_true, decide_eq_true_eq, filled other]
        constructor
        · rintro (rfl | ⟨within, below⟩)
          · exact ⟨⟨low, high⟩, by omega⟩
          · exact ⟨within, by omega⟩
        · rintro ⟨within, below⟩
          by_cases here : other.toNat = label.toNat
          · exact .inl (BitVec.eq_of_toNat_eq here)
          · exact .inr ⟨within, by omega⟩

/-- What one step does to the bitmap, and which incoming label it installs. -/
inductive LabelStep (d d' : Daemon) (event : Event) : Prop
  | none (taken : labelTaken? d event = none)
      (labelBitmap : d'.labelBitmap = d.labelBitmap)
      (installed : d'.commands.filterMap Command.inLabel? =
        d.commands.filterMap Command.inLabel?)
  | taken (label : U32) (taken : labelTaken? d event = some label)
      (allocated : (label, d'.labelBitmap) = allocateLabel d.labelBitmap)
      (installed : d'.commands.filterMap Command.inLabel? =
          d.commands.filterMap Command.inLabel? ∨
        d'.commands.filterMap Command.inLabel? =
          d.commands.filterMap Command.inLabel? ++ [label])

section Steps

variable {d d' : Daemon} {event : Event}

theorem receiveResvMessage_labelStep (env : Env) (buffer : Buffer)
    (d : Daemon) (isResv : (recvHeader buffer).msgType = resvMsgType) :
    LabelStep d (receiveResvMessage env buffer d) (.datagram env buffer) := by
  have same (pa : PathMsg)
      (path : d.pathTree.find (recvTunnelId buffer) = some pa)
      (missing : d.resvTree.find (recvTunnelId buffer) = none) :
      labelTaken? d (.datagram env buffer) =
        if pa.pSrcip = .any then none
        else some (resvMade env buffer d pa).1.inLabel := by
    rw [labelTaken?, if_pos isResv, path, missing]
  cases receiveResvMessage_cases env buffer d with
  | kept known _ labelBitmap commands =>
      refine .none ?_ labelBitmap (by rw [commands])
      rw [labelTaken?, if_pos isResv]
      rcases known with missing | ⟨r, held⟩
      · rw [missing]
      · rw [held]
        cases d.pathTree.find (recvTunnelId buffer) <;> rfl
  | noMemory pa path missing _ _ labelBitmap commands =>
      have label := same pa path missing
      by_cases ingress : pa.pSrcip = .any
      · rw [if_pos ingress] at label
        refine .none label ?_ (by rw [commands])
        rw [labelBitmap, resvMade, ingress]
        exact (newResvMsg_ingress d.labelBitmap).2
      · rw [if_neg ingress] at label
        refine .taken _ label ?_ (.inl (by rw [commands]))
        rw [labelBitmap]
        exact newResvMsg_transit env buffer ingress d.labelBitmap
  | created pa path missing _ _ labelBitmap commands =>
      have label := same pa path missing
      have installed : (receiveResvMessage env buffer d).commands.filterMap
          Command.inLabel? = d.commands.filterMap Command.inLabel? ++
            (addedRoute pa (resvMade env buffer d pa).1).inLabel?.toList := by
        rw [commands, List.filterMap_append]
        congr 1
      rw [addedRoute_inLabel?, resvMade_nexthopIp] at installed
      by_cases ingress : pa.pSrcip = .any
      · rw [if_pos ingress] at label installed
        refine .none label ?_ (by simpa using installed)
        rw [labelBitmap, resvMade, ingress]
        exact (newResvMsg_ingress d.labelBitmap).2
      · rw [if_neg ingress] at label installed
        refine .taken _ label ?_ (.inr installed)
        rw [labelBitmap]
        exact newResvMsg_transit env buffer ingress d.labelBitmap

theorem step_labelStep (taken : step d event = some d') :
    LabelStep d d' event := by
  cases event with
  | datagram env buffer =>
      cases mainReceive_cases env buffer d taken with
      | path isPath routed result =>
          refine .none ?_ (by simp [result]) (by simp [result])
          rw [labelTaken?, if_neg (by rw [isPath]; decide)]
      | resv isResv result =>
          rw [result]
          exact receiveResvMessage_labelStep env buffer d isResv
      | other notPath notResv result =>
          refine .none ?_ (by rw [result]) (by rw [result])
          rw [labelTaken?, if_neg notResv]
  | pathTimer env =>
      cases taken
      exact .none rfl (by simp) (by simp)
  | resvTimer env =>
      cases taken
      exact .none rfl (by simp) (by simp)

end Steps

def twoTransitEvents : List Event :=
  transitEvents ++
    [.datagram (.toward (some ⟨3⟩) 0) (samplePath 2 ⟨1⟩ ⟨9⟩ ⟨2⟩).received,
     .datagram (.toward (some ⟨2⟩) 0) (sampleResv 2 ⟨1⟩ ⟨9⟩ ⟨3⟩ 3).received]

section Runs

variable {env : Env} {config : TunnelConfig} {events : List Event}
  {d d' : Daemon}

theorem labelsTaken_from {count : Nat} (filled : Filled count d.labelBitmap)
    (run : runEvents step d events = some d') :
    ∃ more, labelsTaken d events =
        (List.range more).map (fun index => nthLabel (count + index)) ∧
      Filled (count + more) d'.labelBitmap ∧
      ∃ installed, d'.commands.filterMap Command.inLabel? =
          d.commands.filterMap Command.inLabel? ++ installed ∧
        installed.Sublist (labelsTaken d events) := by
  induction events generalizing d count with
  | nil =>
      cases run
      exact ⟨0, rfl, filled, [], by simp, List.Sublist.refl []⟩
  | cons event events ih =>
      obtain ⟨next, taken, rest⟩ := runEvents_cons.mp run
      rw [labelsTaken, taken]
      dsimp only
      cases step_labelStep taken with
      | none free labelBitmap same =>
          rw [← labelBitmap] at filled
          rw [free, Option.toList_none, List.nil_append, ← same]
          exact ih filled rest
      | taken label gives allocated same =>
          obtain ⟨nth, filled'⟩ := filled.allocate
          rw [← allocated] at nth filled'
          obtain ⟨more, labels, final, installed, shape, order⟩ :=
            ih filled' rest
          refine ⟨more + 1, ?_, ?_, ?_⟩
          · rw [gives, Option.toList_some, labels, List.range_succ_eq_map,
              List.map_cons, List.map_map]
            refine congrArg₂ List.cons nth (List.map_congr_left ?_)
            intro index _
            rw [Function.comp_apply, Nat.add_right_comm, Nat.add_assoc]
          · rwa [Nat.add_right_comm, Nat.add_assoc] at final
          · rw [gives, Option.toList_some, List.singleton_append]
            rcases same with same | same
            · rw [same] at shape
              exact ⟨installed, shape, order.cons label⟩
            · rw [same, List.append_assoc] at shape
              exact ⟨_, shape, order.cons_cons label⟩

/-- The labels of a run count up from `LABEL_MIN` until they run out, nothing
else is marked in the bitmap, and the incoming labels of the routes that the
run installs are among them in the same order. -/
theorem labels_in_sequence
    (run : runEvents step (startup env config) events = some d) :
    ∃ count, labelsTaken (startup env config) events =
        (List.range count).map nthLabel ∧
      (∀ label, isAllocated d.labelBitmap label = true ↔
        LabelInRange label ∧ label.toNat < labelMin + count) ∧
      (d.commands.filterMap Command.inLabel?).Sublist
        (labelsTaken (startup env config) events) := by
  have empty : Filled 0 (startup env config).labelBitmap := by
    rw [(startup_frame env config).2.2.1]
    exact filled_empty
  obtain ⟨count, labels, filled, installed, shape, order⟩ :=
    labelsTaken_from empty run
  rw [(startup_frame env config).2.2.2] at shape
  simp only [Nat.zero_add, List.filterMap_nil, List.nil_append]
    at labels filled shape
  refine ⟨count, labels, filled, ?_⟩
  rwa [shape]

theorem twoTransitEvents_in_sequence :
    ∃ d, runEvents step (startup (.isolated 0) ⟨1, .any, .any⟩)
        twoTransitEvents = some d ∧
      d.commands.filterMap Command.inLabel? = [16, 17] ∧
      ∃ count, labelsTaken (startup (.isolated 0) ⟨1, .any, .any⟩)
          twoTransitEvents = (List.range count).map nthLabel ∧
        (∀ label, isAllocated d.labelBitmap label = true ↔
          LabelInRange label ∧ label.toNat < labelMin + count) ∧
        (d.commands.filterMap Command.inLabel?).Sublist
          (labelsTaken (startup (.isolated 0) ⟨1, .any, .any⟩)
            twoTransitEvents) := by
  have executed : ((runEvents step (startup (.isolated 0) ⟨1, .any, .any⟩)
      twoTransitEvents).map fun d =>
        d.commands.filterMap Command.inLabel?) = some [16, 17] := by
    decide +kernel
  obtain ⟨d, run, labels⟩ := Option.map_eq_some_iff.mp executed
  exact ⟨d, run, labels, labels_in_sequence run⟩

end Runs

end Rsvpd
