import Rsvpd.AdvertisedLabels

/-!
# Installed label routes and the reservations behind them

`receive_resv_message` installs a route for each record it creates.  No
handler runs a `route del` command: the ones that `update_tables` builds are
never reached.  Two records whose routes are equal share one kernel route.
-/

namespace Rsvpd

open Daemon

/-- The routes added by the commands and not deleted. -/
def installedRoutes (commands : List Command) : Finset KernelRoute :=
  commands.foldl (fun routes command => match command with
    | .add route => Insert.insert route routes
    | .del route => routes.erase route) ∅

theorem installedRoutes_add (commands : List Command) (route : KernelRoute) :
    installedRoutes (commands ++ [.add route]) =
      Insert.insert route (installedRoutes commands) := by
  simp [installedRoutes]

/-- The record was created from a RESV: those that the egress creates from a
PATH carry the implicit null label. -/
def FromResv (r : ResvMsg) : Prop := r.inLabel ≠ implicitNull

/-- The records that were created from a RESV. -/
def routedRecords (d : Daemon) : Set ResvMsg :=
  {r | r ∈ d.resvTree.records ∧ FromResv r}

/-- What the route of a record has to do: the ingress pushes the label of the
next router, the router before the egress pops its own, the others swap. -/
def RouteOf (r : ResvMsg) : KernelRoute → Prop
  | .push network prefixLen outLabel _ _ =>
      r.nexthopIp = .any ∧ outLabel = r.outLabel ∧
        network = ⟨r.destIp.sAddr &&& prefixMask prefixLen⟩
  | .pop inLabel _ _ =>
      r.nexthopIp ≠ .any ∧ inLabel = r.inLabel ∧ r.outLabel = implicitNull
  | .swap inLabel outLabel _ =>
      r.nexthopIp ≠ .any ∧ inLabel = r.inLabel ∧ outLabel = r.outLabel ∧
        r.outLabel ≠ implicitNull

/-- A daemon with the route that was last added for each tunnel id. -/
structure RoutedDaemon where
  daemon : Daemon
  routeOf : U16 → Option KernelRoute

/-- The route that a step has added. -/
def addedBy (before after : Daemon) : Option KernelRoute :=
  match after.commands.drop before.commands.length with
  | [.add route] => some route
  | _ => none

/-- A step that adds a route records it under the tunnel id of its
datagram. -/
def noteRoute (s : RoutedDaemon) (event : Event) (after : Daemon) :
    RoutedDaemon :=
  ⟨after, match event, addedBy s.daemon after with
    | .datagram _ buffer, some route =>
        Function.update s.routeOf (recvTunnelId buffer) (some route)
    | _, _ => s.routeOf⟩

def routedStep (s : RoutedDaemon) (event : Event) : Option RoutedDaemon :=
  (step s.daemon event).map (noteRoute s event)

/-- The runs of `Reaches` with the added routes recorded. -/
def RoutedReaches (guard : Daemon → Event → Prop) (env : Env)
    (config : TunnelConfig) : RoutedDaemon → Prop :=
  Transition.Reachable routedStep (fun s event => guard s.daemon event)
    ⟨startup env config, fun _ => none⟩

/-- The installed routes correspond one to one to the records created from a
RESV, each record to the route that was added for it. -/
structure RoutesFollow (s : RoutedDaemon) : Prop where
  oneToOne : Set.BijOn (fun r => s.routeOf r.tunnelId)
    (routedRecords s.daemon)
    (some '' (installedRoutes s.daemon.commands : Set KernelRoute))
  routed : ∀ r ∈ routedRecords s.daemon, ∀ route,
    s.routeOf r.tunnelId = some route → RouteOf r route

/-- The route that a RESV asks for when its record takes a label. -/
def askedRoute (buffer : Buffer) (pa : PathMsg) (inLabel : U32) :
    KernelRoute :=
  let via := (recvHopObj buffer).nextHop
  let outLabel := ntohl (recvLabelObj buffer).label
  if pa.pSrcip = .any then
    .push ⟨(recvSessionObj buffer).dstIp.sAddr &&& prefixMask pa.prefixLen⟩
      pa.prefixLen outLabel via pa.dev
  else if outLabel = implicitNull then .pop inLabel via pa.dev
  else .swap inLabel outLabel via

/-- A RESV creates a record without a label of its own, and the route that it
asks for is installed already. -/
def RepeatsRoute (env : Env) (buffer : Buffer) (d : Daemon) : Prop :=
  d.resvTree.find (recvTunnelId buffer) = none ∧ env.resvMalloc = true ∧
    ∃ pa, d.pathTree.find (recvTunnelId buffer) = some pa ∧
      (pa.pSrcip = .any ∨ Exhausted d.labelBitmap) ∧
      askedRoute buffer pa (-1) ∈ installedRoutes d.commands

/-- The step is no RESV that repeats a route, and no sweep that removes a
record created from a RESV. -/
def KeepsRouted (d : Daemon) : Event → Prop
  | .datagram env buffer => (recvHeader buffer).msgType = resvMsgType →
      ¬RepeatsRoute env buffer d
  | .pathTimer env => ∀ tunnelId r, PathTornDown env d tunnelId →
      d.resvTree.find tunnelId = some r → ¬FromResv r
  | .resvTimer env => ∀ tunnelId r, ResvTornDown env d tunnelId →
      d.resvTree.find tunnelId = some r → ¬FromResv r

theorem reaches_iff_routed {guard : Daemon → Event → Prop} {env : Env}
    {config : TunnelConfig} {d : Daemon} :
    Reaches guard env config d ↔
      ∃ routeOf, RoutedReaches guard env config ⟨d, routeOf⟩ := by
  constructor
  · intro run
    induction run with
    | refl => exact ⟨_, .refl⟩
    | @tail source target _ last ih =>
        obtain ⟨event, allowed, taken⟩ := last
        obtain ⟨routeOf, before⟩ := ih
        have noted : routedStep ⟨source, routeOf⟩ event =
            some (noteRoute ⟨source, routeOf⟩ event target) := by
          rw [routedStep, taken, Option.map_some]
        exact ⟨_, before.tail ⟨event, allowed, noted⟩⟩
  · rintro ⟨routeOf, run⟩
    have erased (s : RoutedDaemon) (run : RoutedReaches guard env config s) :
        Reaches guard env config s.daemon := by
      induction run with
      | refl => exact .refl
      | tail _ last ih =>
          obtain ⟨event, allowed, noted⟩ := last
          obtain ⟨d, taken, rfl⟩ := Option.map_eq_some_iff.mp noted
          exact ih.tail ⟨event, allowed, taken⟩
    exact erased _ run

section AddedRoute

variable {env : Env} {buffer : Buffer} {d d' : Daemon}

theorem addedBy_none (same : d'.commands = d.commands) :
    addedBy d d' = none := by
  simp [addedBy, same]

theorem addedBy_add {route : KernelRoute}
    (commands : d'.commands = d.commands ++ [.add route]) :
    addedBy d d' = some route := by
  simp [addedBy, commands]

theorem fromResv_resvMade (pa : PathMsg) :
    FromResv (resvMade env buffer d pa).1 := by
  intro implicit
  rcases resvMade_label env buffer d pa with ⟨none, _⟩ | ⟨_, low, _⟩
  · rw [implicit] at none
    exact absurd none (by decide)
  · rw [implicit] at low
    exact absurd low (by decide)

theorem addedRoute_resvMade (pa : PathMsg) :
    addedRoute pa (resvMade env buffer d pa).1 =
      askedRoute buffer pa (resvMade env buffer d pa).1.inLabel := by
  obtain ⟨_, _, destIp, nexthopIp, pSrcip⟩ :=
    newResvMsg_fields env buffer pa.pSrcip false d.labelBitmap
  have outLabel : (resvMade env buffer d pa).1.outLabel = _ :=
    newResvMsg_outLabel pa.pSrcip d.labelBitmap
  rw [← resvMade] at destIp nexthopIp pSrcip
  rw [addedRoute, askedRoute, destIp, nexthopIp, pSrcip, outLabel]
  rfl

theorem routeOf_resvMade (pa : PathMsg) :
    RouteOf (resvMade env buffer d pa).1
      (addedRoute pa (resvMade env buffer d pa).1) := by
  unfold addedRoute
  dsimp only
  split
  case isTrue ingress => exact ⟨ingress, rfl, rfl⟩
  case isFalse transit =>
    split
    case isTrue pops => exact ⟨transit, rfl, pops⟩
    case isFalse swaps => exact ⟨transit, rfl, rfl, swaps⟩

theorem resvMade_unlabelled (pa : PathMsg) :
    (resvMade env buffer d pa).1.inLabel = -1 ↔
      pa.pSrcip = .any ∨ Exhausted d.labelBitmap := by
  constructor
  · intro unlabelled
    by_contra neither
    rw [not_or] at neither
    have inRange : LabelInRange (resvMade env buffer d pa).1.inLabel :=
      resvMade_labelInRange neither.1 neither.2
    rw [unlabelled] at inRange
    exact absurd inRange.2 (by decide)
  · intro unlabelled
    rcases resvMade_label env buffer d pa with failed | labelled
    · exact failed.1
    · obtain ⟨transit, low, high, free, _⟩ := labelled
      rcases unlabelled with ingress | exhausted
      · exact absurd ingress transit
      · cases free.symm.trans (exhausted _ ⟨low, high⟩)

theorem noteRoute_created {s : RoutedDaemon} {pa : PathMsg}
    (commands : d.commands = s.daemon.commands ++
      [.add (addedRoute pa (resvMade env buffer s.daemon pa).1)]) :
    noteRoute s (.datagram env buffer) d =
      ⟨d, Function.update s.routeOf
        (resvMade env buffer s.daemon pa).1.tunnelId
        (some (addedRoute pa (resvMade env buffer s.daemon pa).1))⟩ := by
  simp only [noteRoute, addedBy_add commands,
    resvMade_tunnelId env buffer s.daemon pa]

end AddedRoute

/-- The label that an installed route names is taken, unless it is the failure
value. -/
def InstalledTaken (d : Daemon) : Prop :=
  ∀ route ∈ installedRoutes d.commands, ∀ label,
    route.inLabel? = some label →
      label = -1 ∨ isAllocated d.labelBitmap label = true

structure RoutesKept (s : RoutedDaemon) : Prop extends RoutesFollow s where
  taken : InstalledTaken s.daemon

section Steps

variable {env : Env} {buffer : Buffer} {s : RoutedDaemon} {event : Event}
  {d : Daemon}

theorem RoutesKept.mono (kept : RoutesKept s)
    (commands : d.commands = s.daemon.commands)
    (records : routedRecords d = routedRecords s.daemon)
    (labels : ∀ label, isAllocated s.daemon.labelBitmap label = true →
      isAllocated d.labelBitmap label = true) :
    RoutesKept (noteRoute s event d) := by
  have same : noteRoute s event d = ⟨d, s.routeOf⟩ := by
    simp only [noteRoute, addedBy_none commands]
  obtain ⟨⟨oneToOne, routed⟩, taken⟩ := kept
  rw [← records, ← commands] at oneToOne
  rw [← records] at routed
  rw [InstalledTaken, ← commands] at taken
  rw [same]
  exact ⟨⟨oneToOne, routed⟩, fun route installed label named =>
    (taken route installed label named).imp_right (labels label)⟩

theorem routedRecords_eq {d' : Daemon}
    (kept : ∀ r, FromResv r → d.resvTree.find r.tunnelId = some r →
      d'.resvTree.find r.tunnelId = some r)
    (old : ∀ r, FromResv r → d'.resvTree.find r.tunnelId = some r →
      d.resvTree.find r.tunnelId = some r) :
    routedRecords d' = routedRecords d := by
  ext r
  simp only [routedRecords, Set.mem_ofPred_eq, and_congr_left_iff]
  intro routed
  rw [RecordTree.mem_records_iff, RecordTree.mem_records_iff]
  exact ⟨old r routed, kept r routed⟩

theorem receivePathMessage_routedRecords (env : Env) (buffer : Buffer)
    (d : Daemon) :
    routedRecords (receivePathMessage env buffer d) = routedRecords d := by
  cases receivePathMessage_resvTree env buffer d with
  | kept resvTree => rw [routedRecords, resvTree, routedRecords]
  | created p path egress missing memory resvTree =>
      have implicit : ¬FromResv
          (newResvMsg env buffer p.pSrcip true d.labelBitmap).1 :=
        not_not_intro (newResvMsg_egress _ _ _ _).1
      apply routedRecords_eq
      · intro r _ found
        rw [resvTree]
        exact RecordTree.find_insert_some true _ found
      · intro r routed found
        rw [resvTree] at found
        rcases RecordTree.find_insert_cases found with new | old
        · rw [new] at routed
          exact absurd routed implicit
        · exact old

theorem routedRecords_insert {d' : Daemon} {r : ResvMsg}
    (missing : d.resvTree.find r.tunnelId = none) (fromResv : FromResv r)
    (resvTree : d'.resvTree = d.resvTree.insert true r) :
    routedRecords d' = Insert.insert r (routedRecords d) := by
  have perm := RecordTree.records_insert_perm r missing
  ext other
  simp only [routedRecords, resvTree, Set.mem_ofPred_eq, Set.mem_insert_iff,
    perm.mem_iff, List.mem_cons]
  constructor
  · rintro ⟨rfl | member, routed⟩
    · exact .inl rfl
    · exact .inr ⟨member, routed⟩
  · rintro (rfl | ⟨member, routed⟩)
    · exact ⟨.inl rfl, fromResv⟩
    · exact ⟨.inr member, routed⟩

theorem ne_of_missing {r other : ResvMsg}
    (missing : d.resvTree.find r.tunnelId = none)
    (member : other ∈ routedRecords d) : other.tunnelId ≠ r.tunnelId := by
  intro same
  have held := RecordTree.mem_records_iff.mp member.1
  rw [← same] at missing
  cases missing.symm.trans held

theorem RoutesFollow.created (follow : RoutesFollow s) {r : ResvMsg}
    {route : KernelRoute} (missing : s.daemon.resvTree.find r.tunnelId = none)
    (fromResv : FromResv r) (routed : RouteOf r route)
    (new : route ∉ installedRoutes s.daemon.commands)
    (resvTree : d.resvTree = s.daemon.resvTree.insert true r)
    (commands : d.commands = s.daemon.commands ++ [.add route]) :
    RoutesFollow ⟨d, Function.update s.routeOf r.tunnelId (some route)⟩ := by
  have records := routedRecords_insert missing fromResv resvTree
  have others (other : ResvMsg) (member : other ∈ routedRecords s.daemon) :
      Function.update s.routeOf r.tunnelId (some route) other.tunnelId =
        s.routeOf other.tunnelId :=
    Function.update_of_ne (ne_of_missing missing member) _ _
  have own : Function.update s.routeOf r.tunnelId (some route) r.tunnelId =
      some route := Function.update_self ..
  constructor
  · have before := follow.oneToOne.congr
      fun other member => (others other member).symm
    have installed : (some '' (installedRoutes d.commands : Set KernelRoute)) =
        Insert.insert (some route)
          (some '' (installedRoutes s.daemon.commands : Set KernelRoute)) := by
      rw [commands, installedRoutes_add, Finset.coe_insert,
        Set.image_insert_eq]
    have absent : Function.update s.routeOf r.tunnelId (some route)
        r.tunnelId ∉
          some '' (installedRoutes s.daemon.commands : Set KernelRoute) := by
      rw [own]
      rintro ⟨other, member, same⟩
      cases same
      exact new member
    have after := before.insert absent
    rw [own, ← installed, ← records] at after
    exact after
  · rw [records]
    rintro other (rfl | member) found named
    · cases own.symm.trans named
      exact routed
    · exact follow.routed other member found
        ((others other member).symm.trans named)

/-- A route that the RESV does not repeat is new: it names a label that was
free until now, or its record has none. -/
theorem RoutesKept.addedRoute_new (kept : RoutesKept s)
    (once : ¬RepeatsRoute env buffer s.daemon) {pa : PathMsg}
    (path : s.daemon.pathTree.find (recvTunnelId buffer) = some pa)
    (missing : s.daemon.resvTree.find (recvTunnelId buffer) = none)
    (memory : env.resvMalloc = true) :
    addedRoute pa (resvMade env buffer s.daemon pa).1 ∉
      installedRoutes s.daemon.commands := by
  intro installed
  rcases resvMade_label env buffer s.daemon pa with unlabelled | labelled
  · rw [addedRoute_resvMade, unlabelled.1] at installed
    exact once ⟨missing, memory, pa, path,
      (resvMade_unlabelled pa).mp unlabelled.1, installed⟩
  · obtain ⟨transit, _, high, free, _⟩ := labelled
    have named := addedRoute_inLabel? pa (resvMade env buffer s.daemon pa).1
    rw [if_neg (by rwa [resvMade_nexthopIp])] at named
    rcases kept.taken _ installed _ named with failed | taken
    · rw [failed] at high
      exact absurd high (by decide)
    · cases free.symm.trans taken

theorem InstalledTaken.created (taken : InstalledTaken d) {d' : Daemon}
    {pa : PathMsg}
    (labelBitmap : d'.labelBitmap = (resvMade env buffer d pa).2)
    (commands : d'.commands =
      d.commands ++ [.add (addedRoute pa (resvMade env buffer d pa).1)]) :
    InstalledTaken d' := by
  intro route installed label named
  rw [labelBitmap]
  rw [commands, installedRoutes_add, Finset.mem_insert] at installed
  rcases installed with rfl | old
  · rw [addedRoute_inLabel?] at named
    split at named
    case isTrue => cases named
    case isFalse =>
      cases named
      rcases resvMade_label env buffer d pa with unlabelled | labelled
      · exact .inl unlabelled.1
      · obtain ⟨_, _, _, _, marked⟩ := labelled
        exact .inr (by simp [marked])
  · exact (taken route old label named).imp_right
      (resvMade_marks env buffer d pa)

theorem receiveResvMessage_routesKept (kept : RoutesKept s)
    (once : ¬RepeatsRoute env buffer s.daemon) :
    RoutesKept (noteRoute s (.datagram env buffer)
      (receiveResvMessage env buffer s.daemon)) := by
  cases receiveResvMessage_cases env buffer s.daemon with
  | kept known resvTree labelBitmap commands sent =>
      apply kept.mono commands
      · rw [routedRecords, resvTree, routedRecords]
      · exact fun label taken => by rwa [labelBitmap]
  | noMemory pa path missing memory resvTree labelBitmap commands sent =>
      apply kept.mono commands
      · rw [routedRecords, resvTree, routedRecords]
      · rw [labelBitmap]
        exact fun label => resvMade_marks env buffer s.daemon pa
  | created pa path missing memory resvTree labelBitmap commands sent =>
      have ids := resvMade_tunnelId env buffer s.daemon pa
      rw [noteRoute_created commands]
      constructor
      · exact kept.toRoutesFollow.created (by rwa [ids])
          (fromResv_resvMade pa) (routeOf_resvMade pa)
          (kept.addedRoute_new once path missing memory) resvTree commands
      · exact kept.taken.created labelBitmap commands

theorem RoutesKept.step {s' : RoutedDaemon} (kept : RoutesKept s)
    (allowed : KeepsRouted s.daemon event)
    (noted : routedStep s event = some s') : RoutesKept s' := by
  obtain ⟨d', taken, rfl⟩ := Option.map_eq_some_iff.mp noted
  cases event with
  | datagram env buffer =>
      cases mainReceive_cases env buffer s.daemon taken with
      | path isPath routed result =>
          rw [result]
          apply kept.mono (by simp)
          · rw [receivePathMessage_routedRecords]
            simp [routedRecords]
          · exact fun label taken => by simpa using taken
      | resv isResv result =>
          rw [result]
          exact receiveResvMessage_routesKept kept (allowed isResv)
      | other notPath notResv result =>
          rw [result]
          exact kept.mono rfl rfl fun _ => id
  | pathTimer env =>
      cases taken
      apply kept.mono (by simp)
      · apply routedRecords_eq
        · intro r routed found
          rw [pathTimerHandler_findKept
            fun torn => allowed _ r torn found routed]
          exact found
        · exact fun r _ found => (pathTimerHandler_findSome found).1
      · exact fun label taken => by simpa using taken
  | resvTimer env =>
      cases taken
      apply kept.mono (by simp)
      · apply routedRecords_eq
        · intro r routed found
          rw [resvTimerHandler_findKept
            fun torn => allowed _ r torn found routed]
          exact found
        · exact fun r _ found => (resvTimerHandler_findSome found).1
      · exact fun label taken => by simpa using taken

end Steps

section Necessary

variable {env : Env} {buffer : Buffer} {s s' : RoutedDaemon} {event : Event}
  {d : Daemon}

theorem RoutesFollow.removesNone (follow : RoutesFollow s)
    (commands : d.commands = s.daemon.commands)
    (old : ∀ tunnelId r, d.resvTree.find tunnelId = some r →
      s.daemon.resvTree.find tunnelId = some r)
    (after : RoutesFollow (noteRoute s event d)) {tunnelId : U16}
    {r : ResvMsg} (found : s.daemon.resvTree.find tunnelId = some r)
    (fromResv : FromResv r) : d.resvTree.find tunnelId = some r := by
  have same : noteRoute s event d = ⟨d, s.routeOf⟩ := by
    simp only [noteRoute, addedBy_none commands]
  rw [same] at after
  have member : r ∈ routedRecords s.daemon :=
    ⟨RecordTree.mem_of_find found, fromResv⟩
  obtain ⟨route, installed, owns⟩ := follow.oneToOne.mapsTo member
  rw [← commands] at installed
  obtain ⟨owner, kept, sameRoute⟩ :=
    after.oneToOne.surjOn (Set.mem_image_of_mem some installed)
  have earlier : owner ∈ routedRecords s.daemon := by
    refine ⟨RecordTree.mem_records_iff.mpr (old _ _ ?_), kept.2⟩
    exact RecordTree.mem_records_iff.mp kept.1
  have one := follow.oneToOne.injOn earlier member (sameRoute.trans owns)
  rw [← RecordTree.find_tunnelId found, ← one]
  exact RecordTree.mem_records_iff.mp kept.1

theorem RoutesFollow.keepsOnce (follow : RoutesFollow s)
    (after : RoutesFollow (noteRoute s (.datagram env buffer)
      (receiveResvMessage env buffer s.daemon))) :
    ¬RepeatsRoute env buffer s.daemon := by
  rintro ⟨missing, memory, pa, path, unlabelled, installed⟩
  cases receiveResvMessage_cases env buffer s.daemon with
  | kept known =>
      rcases known with unknown | ⟨r, held⟩
      · cases unknown.symm.trans path
      · cases missing.symm.trans held
  | noMemory pa' path' missing noMemory =>
      cases memory.symm.trans noMemory
  | created pa' path' missing memory resvTree labelBitmap commands sent =>
      cases path.symm.trans path'
      rw [← (resvMade_unlabelled pa).mpr unlabelled, ← addedRoute_resvMade]
        at installed
      have absent : s.daemon.resvTree.find
          (resvMade env buffer s.daemon pa).1.tunnelId = none := by
        rwa [resvMade_tunnelId]
      have records := routedRecords_insert absent (fromResv_resvMade pa)
        resvTree
      rw [noteRoute_created commands] at after
      -- The owner of the installed route and the new record share it.
      obtain ⟨owner, member, owns⟩ :=
        follow.oneToOne.surjOn (Set.mem_image_of_mem some installed)
      have other := ne_of_missing absent member
      have injective := after.oneToOne.injOn
      rw [records] at injective
      have one := injective (Set.mem_insert_of_mem _ member)
        (Set.mem_insert _ _) (by simpa [other] using owns)
      exact other (by rw [one])

/-- The first step that breaks the condition breaks the correspondence. -/
theorem RoutesFollow.keepsRouted (follow : RoutesFollow s)
    (noted : routedStep s event = some s') (after : RoutesFollow s') :
    KeepsRouted s.daemon event := by
  obtain ⟨d', taken, rfl⟩ := Option.map_eq_some_iff.mp noted
  cases event with
  | datagram env buffer =>
      intro isResv
      have handled : d' = receiveResvMessage env buffer s.daemon := by
        cases mainReceive_cases env buffer s.daemon taken with
        | path isPath routed result =>
            rw [isPath] at isResv
            exact absurd isResv (by decide)
        | resv isResv result => exact result
        | other notPath notResv result => exact absurd isResv notResv
      rw [handled] at after
      exact follow.keepsOnce after
  | pathTimer env =>
      cases taken
      intro tunnelId r torn found routed
      have kept := follow.removesNone (by simp)
        (fun _ _ held => (pathTimerHandler_findSome held).1) after
        found routed
      exact (pathTimerHandler_findSome kept).2 torn
  | resvTimer env =>
      cases taken
      intro tunnelId r torn found routed
      have kept := follow.removesNone (by simp)
        (fun _ _ held => (resvTimerHandler_findSome held).1) after
        found routed
      exact (resvTimerHandler_findSome kept).2 torn

end Necessary

theorem startup_routesKept (env : Env) (config : TunnelConfig) :
    RoutesKept ⟨startup env config, fun _ => none⟩ := by
  have empty : routedRecords (startup env config) = ∅ := by
    simp [routedRecords]
  have none : installedRoutes [] = ∅ := rfl
  refine ⟨⟨?_, ?_⟩, ?_⟩
  · simp [empty, none]
  · simp [empty]
  · simp [InstalledTaken, none]

/-- In every run in which no RESV repeats an installed route and no sweep
removes a record created from a RESV, the installed routes follow these
records, and the next step keeps this exactly when it meets the condition
too. -/
theorem routesFollow_of_keepsRouted {env : Env} {config : TunnelConfig}
    {s : RoutedDaemon} (run : RoutedReaches KeepsRouted env config s) :
    RoutesFollow s ∧ ∀ event s', routedStep s event = some s' →
      (RoutesFollow s' ↔ KeepsRouted s.daemon event) := by
  have kept : RoutesKept s := by
    refine Transition.Reachable.invariant (startup_routesKept env config) ?_
      run
    intro source event target kept allowed noted
    exact kept.step allowed noted
  have follow := kept.toRoutesFollow
  refine ⟨follow, fun event s' noted => ⟨follow.keepsRouted noted, ?_⟩⟩
  exact fun allowed => (kept.step allowed noted).toRoutesFollow

theorem keepsRouted_of_noCommands {env : Env} {buffer : Buffer} {d : Daemon}
    (noCommands : d.commands = []) :
    KeepsRouted d (.datagram env buffer) := by
  rintro _ ⟨_, _, pa, _, _, installed⟩
  rw [noCommands] at installed
  exact absurd installed (Finset.notMem_empty _)

theorem transitEvents_routesFollow :
    ∃ s, Transition.runEvents routedStep
        ⟨startup (.isolated 0) ⟨1, .any, .any⟩, fun _ => none⟩
        transitEvents = some s ∧
      s.daemon.resvTree.records.length = 1 ∧
      (installedRoutes s.daemon.commands).card = 1 ∧ RoutesFollow s := by
  have first : ((routedStep
      ⟨startup (.isolated 0) ⟨1, .any, .any⟩, fun _ => none⟩
      (.datagram (.toward (some ⟨3⟩) 0)
        (samplePath 1 ⟨1⟩ ⟨9⟩ ⟨2⟩).received)).map fun s =>
          (s.daemon.commands)) = some [] := by
    decide +kernel
  have stored : ((Transition.runEvents routedStep
      ⟨startup (.isolated 0) ⟨1, .any, .any⟩, fun _ => none⟩
      transitEvents).map fun s => (s.daemon.resvTree.records.length,
        (installedRoutes s.daemon.commands).card)) = some (1, 1) := by
    decide +kernel
  obtain ⟨s, run, final⟩ := Option.map_eq_some_iff.mp stored
  obtain ⟨one, installed⟩ := Prod.mk.inj final
  obtain ⟨next, taken, rest⟩ := Transition.runEvents_cons.mp run
  rw [taken] at first
  have noCommands : next.daemon.commands = [] := Option.some.inj first
  obtain ⟨last, takenLast, done⟩ := Transition.runEvents_cons.mp rest
  cases done
  have reached : RoutedReaches KeepsRouted (.isolated 0) ⟨1, .any, .any⟩ s :=
    (Relation.ReflTransGen.single ⟨_, keepsRouted_of_noCommands
      (startup_frame _ _).2.2.2, taken⟩).tail
        ⟨_, keepsRouted_of_noCommands noCommands, takenLast⟩
  exact ⟨s, run, one, installed, (routesFollow_of_keepsRouted reached).1⟩

/-- The reservation expires, and its route stays installed. -/
theorem routes_not_followed :
    ∃ env config s, RoutedReaches (fun _ _ => True) env config s ∧
      ¬RoutesFollow s := by
  have stale : ((Transition.runEvents routedStep
      ⟨startup (.isolated 0) ⟨1, .any, .any⟩, fun _ => none⟩
      (transitEvents ++ [.pathTimer (.isolated 100)])).map
        fun s => ((installedRoutes s.daemon.commands).card,
          s.daemon.resvTree.records)) = some (1, []) := by
    decide +kernel
  obtain ⟨s, run, final⟩ := Option.map_eq_some_iff.mp stale
  obtain ⟨installed, empty⟩ := Prod.mk.inj final
  refine ⟨_, _, s, .of_runEvents (fun _ _ _ => trivial) run, ?_⟩
  intro follow
  obtain ⟨route, member⟩ :=
    Finset.card_pos.mp (Nat.lt_of_lt_of_eq Nat.one_pos installed.symm)
  obtain ⟨r, ⟨held, _⟩, _⟩ :=
    follow.oneToOne.surjOn (Set.mem_image_of_mem some member)
  rw [empty] at held
  cases held

end Rsvpd
