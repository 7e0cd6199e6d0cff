import Rsvpd.Runs

/-!
# A refresh that arrives twice

Every handler looks its session and its records up before it inserts them, so
a second copy of a datagram finds what the first one left.
-/

namespace Rsvpd

open Daemon

/-- The sessions without the times of their last refresh. -/
def untimed (sess : List Session) : List Session :=
  sess.map ({ · with lastPathTime := 0 })

/-- The states hold the same records, labels and sessions and have run the
same commands; the times of the sessions and the packets sent may differ. -/
structure SameTables (d d' : Daemon) : Prop where
  pathTree : d'.pathTree = d.pathTree
  resvTree : d'.resvTree = d.resvTree
  labelBitmap : d'.labelBitmap = d.labelBitmap
  commands : d'.commands = d.commands
  pathHead : untimed d'.pathHead = untimed d.pathHead
  resvHead : untimed d'.resvHead = untimed d.resvHead

theorem SameTables.refl (d : Daemon) : SameTables d d :=
  ⟨rfl, rfl, rfl, rfl, rfl, rfl⟩

section Sessions

variable (now : Int) (tunnelId : U16) (sender receiver : InAddr) (dest : U8)
  (sess : List Session)

theorem untimed_searchSession :
    untimed (searchSession now tunnelId sess).2 = untimed sess :=
  map_searchSession (fun _ _ => rfl) now tunnelId sess

theorem untimed_noteSession
    (known : findSession tunnelId sess ≠ none) :
    untimed (noteSession now tunnelId sender receiver dest sess) =
      untimed sess := by
  obtain ⟨temp, found⟩ := Option.ne_none_iff_exists'.mp known
  rw [noteSession_found found, untimed_searchSession]

theorem findSession_noteSession_self :
    findSession tunnelId
      (noteSession now tunnelId sender receiver dest sess) ≠ none := by
  rw [findSession_noteSession, if_pos rfl]
  exact Option.some_ne_none _

end Sessions

section Path

variable {env env₁ env₂ : Env} {buffer : Buffer} {d : Daemon}

/-- A PATH finds no record to build. -/
structure PathSettled (env : Env) (buffer : Buffer) (d : Daemon) : Prop where
  path : (env.insertRoute (recvSessionObj buffer).dstIp).ret ≠ 0 →
    d.pathTree.find (recvTunnelId buffer) ≠ none
  resv : ∀ p, d.pathTree.find (recvTunnelId buffer) = some p →
    p.nexthopIp = .any → d.resvTree.find (recvTunnelId buffer) ≠ none

theorem pathSettled_receivePath (pathMemory : env.pathMalloc = true)
    (resvMemory : env.resvMalloc = true) :
    PathSettled env buffer (receivePathMessage env buffer d) where
  path routed := Option.ne_none_iff_exists'.mpr
    (receivePathMessage_pathHeld env buffer d routed pathMemory)
  resv _ held egress := Option.ne_none_iff_exists'.mpr
    (receivePathMessage_resvHeld env buffer d held egress resvMemory)

theorem PathSettled.pathTree (settled : PathSettled env buffer d) :
    (receivePathMessage env buffer d).pathTree = d.pathTree := by
  rw [receivePathMessage_pathTree]
  cases receivePathRecord_cases env buffer d with
  | found p result found pathTree => exact pathTree
  | missing result missing noRoute pathTree => exact pathTree
  | built p result missing built memory pathTree =>
      exact absurd missing (settled.path (newPathMsg_nexthopIp built).1)

theorem PathSettled.resvTree (settled : PathSettled env buffer d) :
    (receivePathMessage env buffer d).resvTree = d.resvTree := by
  cases receivePathMessage_resvTree env buffer d with
  | kept resvTree => exact resvTree
  | created p path egress missing memory resvTree =>
      rw [settled.pathTree] at path
      exact absurd missing (settled.resv p path egress)

theorem mainPath_again {reached : Int}
    (routes : env₂.insertRoute = env₁.insertRoute)
    (pathMemory : env₁.pathMalloc = true)
    (resvMemory : env₁.resvMalloc = true)
    {d₁ : Daemon} (first : d₁ = receivePathMessage env₁ buffer
      (mainPathSession env₁ buffer reached d)) :
    SameTables d₁ (receivePathMessage env₂ buffer
      (mainPathSession env₂ buffer reached d₁)) := by
  have made : PathSettled env₁ buffer d₁ := by
    rw [first]
    exact pathSettled_receivePath pathMemory resvMemory
  have settled : PathSettled env₂ buffer
      (mainPathSession env₂ buffer reached d₁) :=
    ⟨by simpa [routes] using made.path, by simpa using made.resv⟩
  constructor
  · rw [settled.pathTree]
    simp
  · rw [settled.resvTree]
    simp
  · simp
  · simp
  · simp only [receivePathMessage_frame, mainPathSession_pathHead]
    apply untimed_noteSession
    rw [first]
    simp only [receivePathMessage_frame, mainPathSession_pathHead]
    apply findSession_noteSession_self
  · simp

end Path

section Resv

variable {env env₁ env₂ : Env} {buffer : Buffer} {d : Daemon}

/-- A RESV finds no record to make. -/
def ResvSettled (buffer : Buffer) (d : Daemon) : Prop :=
  d.pathTree.find (recvTunnelId buffer) ≠ none →
    d.resvTree.find (recvTunnelId buffer) ≠ none

theorem resvSettled_receiveResv (memory : env.resvMalloc = true) :
    ResvSettled buffer (receiveResvMessage env buffer d) := by
  intro held
  rw [(receiveResvMessage_frame env buffer d).1] at held
  cases receiveResvMessage_cases env buffer d with
  | kept known resvTree labelBitmap commands sent =>
      rw [resvTree]
      rcases known with noPath | reserved
      · exact absurd noPath held
      · exact Option.ne_none_iff_exists'.mpr reserved
  | noMemory pa path missing noMemory resvTree labelBitmap commands sent =>
      rw [memory] at noMemory
      cases noMemory
  | created pa path missing memory resvTree labelBitmap commands sent =>
      rw [resvTree]
      exact Option.ne_none_iff_exists'.mpr
        ⟨_, RecordTree.find_insert_self _
          (resvMade_tunnelId env buffer d pa) missing⟩

theorem ResvSettled.kept (env : Env) (settled : ResvSettled buffer d) :
    (receiveResvMessage env buffer d).resvTree = d.resvTree ∧
      (receiveResvMessage env buffer d).labelBitmap = d.labelBitmap ∧
      (receiveResvMessage env buffer d).commands = d.commands := by
  cases receiveResvMessage_cases env buffer d with
  | kept known resvTree labelBitmap commands sent =>
      exact ⟨resvTree, labelBitmap, commands⟩
  | noMemory pa path missing memory resvTree labelBitmap commands sent =>
      exact absurd missing (settled (path ▸ Option.some_ne_none pa))
  | created pa path missing memory resvTree labelBitmap commands sent =>
      exact absurd missing (settled (path ▸ Option.some_ne_none pa))

theorem untimed_receiveResv (routes : env₂.reachRoute = env₁.reachRoute) :
    untimed (receiveResvMessage env₂ buffer
        (receiveResvMessage env₁ buffer d)).resvHead =
      untimed (receiveResvMessage env₁ buffer d).resvHead := by
  rw [receiveResvMessage_resvHead, (receiveResvMessage_frame _ _ _).1]
  cases path : d.pathTree.find (recvTunnelId buffer) with
  | none => rfl
  | some pa =>
      dsimp only
      rw [insert_resvHead, routes]
      split
      case isTrue => rfl
      case isFalse reached =>
        apply untimed_noteSession
        rw [receiveResvMessage_resvHead, path]
        dsimp only
        rw [insert_resvHead, if_neg reached]
        apply findSession_noteSession_self

theorem receiveResvMessage_again
    (routes : env₂.reachRoute = env₁.reachRoute)
    (memory : env₁.resvMalloc = true) :
    SameTables (receiveResvMessage env₁ buffer d)
      (receiveResvMessage env₂ buffer
        (receiveResvMessage env₁ buffer d)) := by
  have settled : ResvSettled buffer (receiveResvMessage env₁ buffer d) :=
    resvSettled_receiveResv memory
  obtain ⟨resvTree, labelBitmap, commands⟩ := settled.kept env₂
  exact ⟨(receiveResvMessage_frame _ _ _).1, resvTree, labelBitmap, commands,
    by simp, untimed_receiveResv routes⟩

end Resv

/-- Handling a datagram a second time, with the same route lookups, changes
no table, label or route, and no session but for its time. -/
theorem mainReceive_again (env₁ env₂ : Env) {buffer : Buffer}
    {d d₁ : Daemon} (reachRoutes : env₂.reachRoute = env₁.reachRoute)
    (insertRoutes : env₂.insertRoute = env₁.insertRoute)
    (pathMemory : env₁.pathMalloc = true)
    (resvMemory : env₁.resvMalloc = true)
    (taken : mainReceive env₁ buffer d = some d₁) :
    ∃ d₂, mainReceive env₂ buffer d₁ = some d₂ ∧ SameTables d₁ d₂ := by
  cases mainReceive_cases env₁ buffer d taken with
  | path isPath routed result =>
      have again : mainReceive env₂ buffer d₁ =
          some (receivePathMessage env₂ buffer (mainPathSession env₂ buffer
            (dstReached (env₁.reachRoute (recvSessionObj buffer).dstIp))
            d₁)) := by
        simp [mainReceive, mainPath, isPath, reachRoutes, routed]
      exact ⟨_, again,
        mainPath_again insertRoutes pathMemory resvMemory result⟩
  | resv isResv result =>
      have again : mainReceive env₂ buffer d₁ =
          some (receiveResvMessage env₂ buffer d₁) := by
        rw [mainReceive, if_neg (by rw [isResv]; decide), if_pos isResv]
      refine ⟨_, again, ?_⟩
      rw [result]
      exact receiveResvMessage_again reachRoutes resvMemory
  | other notPath notResv result =>
      refine ⟨d₁, ?_, .refl d₁⟩
      rw [mainReceive, if_neg notPath, if_neg notResv]

/-- A transit router takes label 16 for the first RESV of a tunnel, and none
for its copy. -/
theorem resv_again_takes_no_label :
    ∃ d₁ d₂, Transition.runEvents step (startup (.isolated 0)
        ⟨1, .any, .any⟩) transitEvents = some d₁ ∧
      mainReceive (.toward (some ⟨2⟩) 5) (sampleResv 1 ⟨1⟩ ⟨9⟩ ⟨3⟩ 3).received
        d₁ = some d₂ ∧
      isAllocated d₂.labelBitmap 16 = true ∧
      isAllocated d₂.labelBitmap 17 = false := by
  have labels : ((Transition.runEvents step (startup (.isolated 0)
      ⟨1, .any, .any⟩) transitEvents).map fun d =>
        isAllocated d.labelBitmap 16 && !isAllocated d.labelBitmap 17) =
      some true := by
    decide +kernel
  obtain ⟨d₁, run, taken⟩ := Option.map_eq_some_iff.mp labels
  simp only [Bool.and_eq_true, Bool.not_eq_true'] at taken
  obtain ⟨d, _, rest⟩ := Transition.runEvents_cons.mp run
  obtain ⟨_, handled, done⟩ := Transition.runEvents_cons.mp rest
  cases done
  obtain ⟨d₂, again, same⟩ := mainReceive_again (.toward (some ⟨2⟩) 0)
    (.toward (some ⟨2⟩) 5) rfl rfl rfl rfl handled
  rw [← same.labelBitmap] at taken
  exact ⟨d₁, d₂, run, again, taken.1, taken.2⟩

end Rsvpd
