import Rsvpd.Sweeps

/-!
# Live tunnels under the reservation sweep

`resv_timer_handler` reads `temp->dest` and `temp->tunnel_id` after
`delete_session`, when the cell of an expired session may hold its successor.
The sweep then tears down the reservation of that successor.
-/

namespace Rsvpd

open Sweep

/-- The sweep leaves every tunnel whose path session is not expired as it
was: its path session, its path record, its reservation session and its
reservation record. -/
def LiveKept (env : Env) (d : Daemon) : Prop :=
  let d' := resvTimerHandler env d
  ∀ temp ∈ d.pathHead, ¬Expired env.now temp →
    temp ∈ d'.pathHead ∧
      d'.pathTree.find temp.tunnelId = d.pathTree.find temp.tunnelId ∧
      findSession temp.tunnelId d'.resvHead =
        findSession temp.tunnelId d.resvHead ∧
      d'.resvTree.find temp.tunnelId = d.resvTree.find temp.tunnelId

instance (env : Env) (d : Daemon) : Decidable (LiveKept env d) :=
  inferInstanceAs (Decidable (∀ temp ∈ d.pathHead, _ → _))

/-- A live egress session stands behind an odd number of expired ones, and
has a reservation to lose. -/
def LiveReadBehind (env : Env) (d : Daemon) (temp : Session) : Prop :=
  ∃ front post, d.pathHead = front ++ temp :: post ∧
    PassedOver (Expired env.now) front ∧ ¬Expired env.now temp ∧
    temp.dest ≠ 0 ∧
    (d.resvTree.find temp.tunnelId ≠ none ∨
      findSession temp.tunnelId d.resvHead ≠ none)

section Keeps

variable {env : Env} {d : Daemon} {temp : Session}

theorem live_path_kept (distinct : DistinctIds d.pathHead)
    (member : temp ∈ d.pathHead) (live : ¬Expired env.now temp) :
    temp ∈ (resvTimerHandler env d).pathHead ∧
      (resvTimerHandler env d).pathTree.find temp.tunnelId =
        d.pathTree.find temp.tunnelId := by
  constructor
  · rw [resvTimerHandler_pathHead]
    exact mem_remaining_of_kept member live
  · rw [resvTimerHandler_findPath, if_neg]
    intro removed
    obtain ⟨other, deleted, same⟩ := mem_pathRemoves.mp removed
    obtain ⟨visited, expired⟩ := mem_deletions_iff.mp deleted
    rw [distinct.eq_of_tunnelId visited.mem member same] at expired
    exact live expired

theorem torn_live (distinct : DistinctIds d.pathHead)
    (member : temp ∈ d.pathHead) (live : ¬Expired env.now temp) :
    ResvTornDown env d temp.tunnelId ↔
      temp.dest ≠ 0 ∧ ∃ front post, d.pathHead = front ++ temp :: post ∧
        PassedOver (Expired env.now) front := by
  constructor
  · rintro ⟨reads, ⟨front, post, shape, how⟩, destination, same⟩
    have readsMember : reads ∈ d.pathHead := by
      rw [shape]
      exact List.mem_append_right _ List.mem_cons_self
    cases distinct.eq_of_tunnelId readsMember member same
    rcases how with passed | ⟨expired, _⟩
    · exact ⟨destination, front, post, shape, passed⟩
    · exact absurd expired live
  · rintro ⟨destination, front, post, shape, passed⟩
    exact ⟨temp, ⟨front, post, shape, .inl passed⟩, destination, rfl⟩

variable (env) in
theorem findSession_resvTimerHandler (distinct : DistinctIds d.resvHead)
    (tunnelId : U16) :
    (ResvTornDown env d tunnelId →
      findSession tunnelId (resvTimerHandler env d).resvHead = none) ∧
    (¬ResvTornDown env d tunnelId →
      findSession tunnelId (resvTimerHandler env d).resvHead =
        findSession tunnelId d.resvHead) := by
  rw [resvTimerHandler_resvHead, findSession_eraseSessions distinct]
  constructor
  · intro torn
    rw [if_pos (mem_resvTears.mpr torn)]
  · intro kept
    rw [if_neg (mt mem_resvTears.mp kept)]

end Keeps

/-- The sweep keeps every live tunnel exactly when none of them is an egress
session with a reservation that stands behind an odd number of expired
ones. -/
theorem resvTimerHandler_liveKept_iff (env : Env) (d : Daemon)
    (distinctPaths : DistinctIds d.pathHead)
    (distinctResvs : DistinctIds d.resvHead) :
    LiveKept env d ↔ ¬∃ temp, LiveReadBehind env d temp := by
  constructor
  · rintro kept ⟨temp, front, post, shape, passed, live, destination, held⟩
    have member : temp ∈ d.pathHead := by
      rw [shape]
      exact List.mem_append_right _ List.mem_cons_self
    have torn := (torn_live distinctPaths member live).mpr
      ⟨destination, front, post, shape, passed⟩
    obtain ⟨_, _, sameSession, sameRecord⟩ := kept temp member live
    rw [(findSession_resvTimerHandler env distinctResvs _).1 torn]
      at sameSession
    rw [resvTimerHandler_findTorn torn] at sameRecord
    rcases held with record | session
    · exact record sameRecord.symm
    · exact session sameSession.symm
  · intro none temp member live
    obtain ⟨sameCell, samePath⟩ := live_path_kept distinctPaths member live
    refine ⟨sameCell, samePath, ?_⟩
    have resv := findSession_resvTimerHandler env distinctResvs
      temp.tunnelId
    by_cases torn : ResvTornDown env d temp.tunnelId
    · obtain ⟨destination, front, post, shape, passed⟩ :=
        (torn_live distinctPaths member live).mp torn
      have nothing : d.resvTree.find temp.tunnelId = Option.none ∧
          findSession temp.tunnelId d.resvHead = Option.none := by
        by_contra held
        exact none ⟨temp, front, post, shape, passed, live, destination,
          by simpa [imp_iff_not_or] using held⟩
      rw [resv.1 torn, resvTimerHandler_findTorn torn, nothing.1, nothing.2]
      exact ⟨rfl, rfl⟩
    · exact ⟨resv.2 torn, resvTimerHandler_findKept torn⟩

private def sampleSession (tunnelId : U16) (dest : U8) (lastPathTime : Int) :
    Session :=
  { sender := .any, receiver := .any, tunnelId, del := 0, dest, lastPathTime }

def expiredLast : Daemon :=
  { Daemon.init with
    pathHead := [sampleSession 1 1 100, sampleSession 2 1 100,
      sampleSession 3 1 0]
    resvTree := RecordTree.null.insert true
      { (default : ResvMsg) with tunnelId := 2 } }

theorem expiredLast_liveKept : LiveKept (Env.isolated 100) expiredLast := by
  refine (resvTimerHandler_liveKept_iff _ _ (by decide) (by decide)).mpr ?_
  rintro ⟨temp, front, post, shape, passed, live, _⟩
  rcases front with _ | ⟨first, _ | ⟨second, _ | ⟨third, front⟩⟩⟩
  · exact passedOver_nil passed
  · cases shape
    revert passed
    decide
  · cases shape
    revert passed
    decide
  · simp [expiredLast] at shape

/-- Tunnel 2 is expired in the middle of the list; the live tunnel 3 behind it
has a reservation record. -/
def expiredMiddle : Daemon :=
  { Daemon.init with
    pathHead := [sampleSession 1 0 100, sampleSession 2 1 0,
      sampleSession 3 1 100]
    resvTree := RecordTree.null.insert true
      { (default : ResvMsg) with tunnelId := 3 } }

/-- The sweep can tear down a live tunnel. -/
theorem resvTimerHandler_not_liveKept :
    ∃ env d, DistinctIds d.pathHead ∧ DistinctIds d.resvHead ∧
      ¬LiveKept env d :=
  ⟨Env.isolated 100, expiredMiddle, by decide, by decide, by decide +kernel⟩

end Rsvpd
