import Rsvpd.Runs

/-!
# What one reservation sweep expires

`resv_timer_handler` deletes a session in the middle of the list by pulling
the next one into its cell, and moves on behind it.  An expired session that
is pulled in is not looked at, and what the handler tears down for a deleted
session is what the cell holds afterwards.
-/

namespace Rsvpd

open Daemon Sweep

/-- The sweep expires all that is due: no expired session and no path record
of one is left and, for those with `dest` set, no reservation. -/
structure ExpiresDue (env : Env) (d : Daemon) : Prop where
  sessions : ∀ temp ∈ (resvTimerHandler env d).pathHead,
    ¬Expired env.now temp
  records : ∀ temp ∈ d.pathHead, Expired env.now temp →
    (resvTimerHandler env d).pathTree.find temp.tunnelId = none
  reservations : ∀ temp ∈ d.pathHead, Expired env.now temp →
    temp.dest ≠ 0 →
      (resvTimerHandler env d).resvTree.find temp.tunnelId = none ∧
        findSession temp.tunnelId (resvTimerHandler env d).resvHead = none

/-- A session is deleted at an end of the list: all in front of it expired
too, or it is the last one. -/
def AtEnd (now : Int) (front back : List Session) : Prop :=
  (∀ other ∈ front, Expired now other) ∨ back = []

instance (now : Int) (front back : List Session) :
    Decidable (AtEnd now front back) :=
  inferInstanceAs (Decidable (_ ∨ _))

/-- No expired session is passed over.  One with `dest` set is deleted at an
end of the list and has at most one reservation session, or it has no
reservation. -/
def DueReached (env : Env) (d : Daemon) : Prop :=
  ∀ front temp back, d.pathHead = front ++ temp :: back →
    Expired env.now temp →
      ¬PassedOver (Expired env.now) front ∧
      (temp.dest ≠ 0 →
        if AtEnd env.now front back then
          (d.resvHead.map Session.tunnelId).count temp.tunnelId ≤ 1
        else
          d.resvTree.find temp.tunnelId = none ∧
            findSession temp.tunnelId d.resvHead = none)

section Due

variable {env : Env} {d : Daemon} {front back : List Session}
  {temp : Session}

theorem DistinctIds.nodup {sess : List Session}
    (distinct : DistinctIds sess) : sess.Nodup := List.Nodup.of_map _ distinct

theorem findPath_of_visited (distinct : DistinctIds d.pathHead)
    (shape : d.pathHead = front ++ temp :: back)
    (expired : Expired env.now temp)
    (visited : ¬PassedOver (Expired env.now) front) :
    (resvTimerHandler env d).pathTree.find temp.tunnelId = none := by
  rw [resvTimerHandler_findPath, if_pos]
  rw [mem_pathRemoves]
  refine ⟨temp, mem_deletions_iff.mpr ⟨?_, expired⟩, rfl⟩
  exact (visits_iff distinct.nodup shape).mpr visited

/-- The reservation of an expired session that is not passed over is torn down
exactly when the session is deleted at an end of the list. -/
theorem resvTornDown_iff_atEnd (distinct : DistinctIds d.pathHead)
    (shape : d.pathHead = front ++ temp :: back)
    (expired : Expired env.now temp)
    (visited : ¬PassedOver (Expired env.now) front)
    (destination : temp.dest ≠ 0) :
    ResvTornDown env d temp.tunnelId ↔ AtEnd env.now front back := by
  have read : Reads (Expired env.now) d.pathHead temp ↔
      AtEnd env.now front back := by
    rw [reads_iff distinct.nodup shape, or_iff_right visited]
    exact and_iff_right expired
  rw [← read]
  constructor
  · rintro ⟨other, reads, _, same⟩
    obtain ⟨front', post', shape', _⟩ := id reads
    have member : other ∈ d.pathHead := shape' ▸ List.mem_append_cons_self
    have here : temp ∈ d.pathHead := shape ▸ List.mem_append_cons_self
    rw [← distinct.eq_of_tunnelId member here same]
    exact reads
  · exact fun reads => ⟨temp, reads, destination, rfl⟩

variable (env) in
theorem resvTears_nodup (distinct : DistinctIds d.pathHead) :
    ((resvVisits env d).filterMap resvTears).Nodup := by
  have torn : (resvVisits env d).filterMap resvTears =
      (((resvVisits env d).filterMap Visit.reads?).filter
        fun reads => reads.dest ≠ 0).map Session.tunnelId := by
    rw [List.filter_filterMap, List.map_filterMap]
    congr 1
    funext visit
    cases visit with
    | keep temp => rfl
    | delete temp reads list =>
        simp only [resvTears, Visit.reads?, Option.filter]
        by_cases destination : reads.dest = 0#8
        · simp [destination]
        · simp [destination]
  rw [torn]
  exact distinct.sublist
    ((List.filter_sublist.trans (reads_sublist [] d.pathHead)).map _)

theorem reservation_gone_iff (distinct : DistinctIds d.pathHead)
    (tunnelId : U16) :
    (resvTimerHandler env d).resvTree.find tunnelId = none ∧
        findSession tunnelId (resvTimerHandler env d).resvHead = none ↔
      (ResvTornDown env d tunnelId ∧
        (d.resvHead.map Session.tunnelId).count tunnelId ≤ 1) ∨
      (¬ResvTornDown env d tunnelId ∧ d.resvTree.find tunnelId = none ∧
        findSession tunnelId d.resvHead = none) := by
  rw [resvTimerHandler_resvHead, findSession_eraseSessions_iff]
  by_cases torn : ResvTornDown env d tunnelId
  · have once : ((resvVisits env d).filterMap resvTears).count tunnelId = 1 :=
      List.count_eq_one_of_mem (resvTears_nodup env distinct)
        (mem_resvTears.mpr torn)
    rw [resvTimerHandler_findTorn torn, once]
    simp [torn]
  · have never : ((resvVisits env d).filterMap resvTears).count tunnelId =
        0 := List.count_eq_zero.mpr (mt mem_resvTears.mp torn)
    have absent : (d.resvHead.map Session.tunnelId).count tunnelId ≤ 0 ↔
        findSession tunnelId d.resvHead = none := by
      simp [findSession_eq_none, List.count_eq_zero]
    rw [resvTimerHandler_findKept torn, never, absent]
    simp [torn]

/-- One reservation sweep over sessions with distinct tunnel ids expires all
that is due if and only if it reaches all that is due. -/
theorem expiresDue_iff (distinct : DistinctIds d.pathHead) :
    ExpiresDue env d ↔ DueReached env d := by
  constructor
  · intro expires front temp back shape expired
    have member : temp ∈ d.pathHead := shape ▸ List.mem_append_cons_self
    have visited : ¬PassedOver (Expired env.now) front := by
      rw [← mem_remaining_iff distinct.nodup shape expired,
        ← resvTimerHandler_pathHead]
      exact fun left => expires.sessions temp left expired
    refine ⟨visited, fun destination => ?_⟩
    have gone := (reservation_gone_iff distinct temp.tunnelId).mp
      (expires.reservations temp member expired destination)
    rw [resvTornDown_iff_atEnd distinct shape expired visited destination]
      at gone
    split
    case isTrue atEnd => exact (gone.resolve_right (·.1 atEnd)).2
    case isFalse inside => exact (gone.resolve_left (inside ·.1)).2
  · intro reached
    have split {temp : Session} (member : temp ∈ d.pathHead) :
        ∃ front back, d.pathHead = front ++ temp :: back :=
      List.append_of_mem member
    constructor
    · intro temp left expired
      rw [resvTimerHandler_pathHead] at left
      obtain ⟨front, back, shape⟩ := split (mem_of_remaining left)
      exact (reached front temp back shape expired).1
        ((mem_remaining_iff distinct.nodup shape expired).mp left)
    · intro temp member expired
      obtain ⟨front, back, shape⟩ := split member
      exact findPath_of_visited distinct shape expired
        (reached front temp back shape expired).1
    · intro temp member expired destination
      obtain ⟨front, back, shape⟩ := split member
      obtain ⟨visited, ends⟩ := reached front temp back shape expired
      have held := ends destination
      rw [reservation_gone_iff distinct,
        resvTornDown_iff_atEnd distinct shape expired visited destination]
      split at held
      case isTrue atEnd => exact .inl ⟨atEnd, held⟩
      case isFalse inside => exact .inr ⟨inside, held⟩

end Due

def sweptSession (tunnelId : U16) (dest : U8) (lastPathTime : Int) :
    Session :=
  { sender := .any, receiver := .any, tunnelId, del := 0, dest,
    lastPathTime }

theorem head_expires :
    ExpiresDue (.isolated 100) { Daemon.init with
      pathHead := [sweptSession 1 1 0, sweptSession 2 0 100]
      resvHead := [sweptSession 1 0 0] } := by
  have distinct : DistinctIds
      [sweptSession 1 1 0, sweptSession 2 0 100] := by
    unfold DistinctIds
    decide
  refine (expiresDue_iff distinct).mpr ?_
  intro front temp back shape expired
  match front with
  | [] =>
      cases shape
      exact ⟨passedOver_nil, fun _ => by decide⟩
  | [first] =>
      cases shape
      exact absurd expired (by decide)
  | first :: second :: front => simp at shape

/-- The second of two expired sessions behind one that is not stays. -/
theorem adjacent_expired_left :
    DistinctIds [sweptSession 1 0 100, sweptSession 2 0 0,
        sweptSession 3 0 0] ∧
      ¬ExpiresDue (.isolated 100) { Daemon.init with
        pathHead := [sweptSession 1 0 100, sweptSession 2 0 0,
          sweptSession 3 0 0] } := by
  constructor
  · unfold DistinctIds
    decide
  · intro expires
    have left : sweptSession 3 0 0 ∈ (resvTimerHandler (.isolated 100)
        { Daemon.init with
          pathHead := [sweptSession 1 0 100, sweptSession 2 0 0,
            sweptSession 3 0 0] }).pathHead := by
      decide +kernel
    exact expires.sessions _ left (by decide)

end Rsvpd
