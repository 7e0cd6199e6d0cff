import Rsvpd.DueSessions

/-!
# What one path sweep handles

`path_timer_handler` refreshes ingress sessions, removes expired reservations
and deletes sessions in one loop.  A session that a deletion pulls into the
cell in front of it is not handled at all.
-/

namespace Rsvpd

open Daemon Sweep

/-- A session whose visit calls `send_path_message`. -/
def Refreshing (temp : Session) : Prop := temp.dest ≠ 0 ∧ temp.del = 0

instance : DecidablePred Refreshing := fun _ =>
  inferInstanceAs (Decidable (_ ∧ _))

def pathCalls (env : Env) (d : Daemon) : List U16 :=
  (((pathVisits env d).map Visit.cell).filter Refreshing).map
    Session.tunnelId

theorem pathTimerHandler_calls (env : Env) (d : Daemon) :
    (pathTimerHandler env d).sent = d.sent ++ (pathCalls env d).flatMap
      fun tunnelId => ((d.pathTree.find tunnelId).map (pathSend env)).toList
    := by
  rw [pathTimerHandler_visits, pathCalls]
  generalize pathVisits env d = visits
  induction visits generalizing d with
  | nil => simp
  | cons visit visits ih =>
      rw [List.foldl_cons, ih, pathVisit_sent, (pathVisit_frame env visit d).1,
        List.append_assoc, List.map_cons]
      congr 1
      by_cases refreshing : Refreshing visit.cell
      · rw [List.filter_cons_of_pos (by simpa using refreshing), List.map_cons,
          List.flatMap_cons]
        exact congrArg (· ++ _) (if_pos refreshing)
      · rw [List.filter_cons_of_neg (by simpa using refreshing)]
        exact congrArg (· ++ _) (if_neg refreshing)

/-- The sweep handles each session exactly once. -/
structure HandlesEach (env : Env) (d : Daemon) : Prop where
  refreshed : ∀ temp ∈ d.resvHead, Refreshing temp →
    (pathCalls env d).count temp.tunnelId = 1 ∧
      temp ∈ (pathTimerHandler env d).resvHead
  removed : ∀ temp ∈ d.resvHead, Expired env.now temp →
    temp.dest = 0 ∨ temp.del ≠ 0 →
      temp ∉ (pathTimerHandler env d).resvHead
  records : ∀ temp ∈ d.resvHead, Expired env.now temp →
    (pathTimerHandler env d).resvTree.find temp.tunnelId = none
  kept : ∀ temp ∈ d.resvHead, ¬Expired env.now temp →
    temp ∈ (pathTimerHandler env d).resvHead ∧
      (pathTimerHandler env d).resvTree.find temp.tunnelId =
        d.resvTree.find temp.tunnelId

/-- A session that the sweep passes over has not expired and needs no
refresh. -/
def PassesOnlyIdle (env : Env) (d : Daemon) : Prop :=
  ∀ front temp back, d.resvHead = front ++ temp :: back →
    PassedOver (Removable env.now) front →
      ¬Expired env.now temp ∧ (temp.dest = 0 ∨ temp.del ≠ 0)

section Handled

variable {env : Env} {d : Daemon} {front back : List Session}
  {temp : Session}

theorem not_refreshing_iff :
    ¬Refreshing temp ↔ temp.dest = 0 ∨ temp.del ≠ 0 := by
  rw [Refreshing, not_and_or, not_not]

theorem count_pathCalls (distinct : DistinctIds d.resvHead)
    (shape : d.resvHead = front ++ temp :: back)
    (refreshing : Refreshing temp) :
    (pathCalls env d).count temp.tunnelId = 1 ↔
      ¬PassedOver (Removable env.now) front := by
  have once : (pathCalls env d).Nodup :=
    List.Nodup.sublist
      ((List.filter_sublist.trans (cells_sublist [] d.resvHead)).map _)
      distinct
  have called : temp.tunnelId ∈ pathCalls env d ↔
      Visits (Removable env.now) d.resvHead temp := by
    rw [← mem_sweep_iff_visits, pathCalls]
    simp only [List.mem_map, List.mem_filter, decide_eq_true_eq]
    constructor
    · rintro ⟨_, ⟨⟨visit, member, rfl⟩, _⟩, same⟩
      refine ⟨visit, member, ?_⟩
      have visited := (mem_sweep_iff_visits.mp ⟨visit, member, rfl⟩).mem
      exact distinct.eq_of_tunnelId visited
        (shape ▸ List.mem_append_cons_self) same
    · rintro ⟨visit, member, rfl⟩
      exact ⟨visit.cell, ⟨⟨visit, member, rfl⟩, refreshing⟩, rfl⟩
  rw [← visits_iff distinct.nodup shape, ← called]
  constructor
  · intro one
    exact List.count_pos_iff.mp (by omega)
  · exact List.count_eq_one_of_mem once

theorem find_of_visited (distinct : DistinctIds d.resvHead)
    (shape : d.resvHead = front ++ temp :: back)
    (expired : Expired env.now temp)
    (visited : ¬PassedOver (Removable env.now) front) :
    (pathTimerHandler env d).resvTree.find temp.tunnelId = none := by
  apply pathTimerHandler_findTorn
  exact ⟨temp, (visits_iff distinct.nodup shape).mpr visited, expired, rfl⟩

theorem not_pathTornDown (distinct : DistinctIds d.resvHead)
    (member : temp ∈ d.resvHead) (live : ¬Expired env.now temp) :
    ¬PathTornDown env d temp.tunnelId := by
  rintro ⟨other, visited, expired, same⟩
  rw [distinct.eq_of_tunnelId visited.mem member same] at expired
  exact live expired

/-- One path sweep over sessions with distinct tunnel ids handles each of them
exactly once if and only if those that it passes over need nothing. -/
theorem handlesEach_iff (distinct : DistinctIds d.resvHead) :
    HandlesEach env d ↔ PassesOnlyIdle env d := by
  constructor
  · intro handles front temp back shape passed
    have member : temp ∈ d.resvHead := shape ▸ List.mem_append_cons_self
    have idle : ¬Refreshing temp := by
      intro refreshing
      have called := (handles.refreshed temp member refreshing).1
      exact (count_pathCalls distinct shape refreshing).mp called passed
    rw [not_refreshing_iff] at idle
    refine ⟨fun expired => ?_, idle⟩
    apply handles.removed temp member expired idle
    rw [pathTimerHandler_resvHead]
    exact (mem_remaining_iff distinct.nodup shape ⟨expired, idle⟩).mpr passed
  · intro idle
    have stays {temp : Session} (member : temp ∈ d.resvHead)
        (kept : ¬Removable env.now temp) :
        temp ∈ (pathTimerHandler env d).resvHead := by
      rw [pathTimerHandler_resvHead]
      exact mem_remaining_of_kept member kept
    constructor
    · intro temp member refreshing
      obtain ⟨front, back, shape⟩ := List.append_of_mem member
      refine ⟨(count_pathCalls distinct shape refreshing).mpr ?_, ?_⟩
      · exact fun passed => not_refreshing_iff.mpr
          (idle front temp back shape passed).2 refreshing
      · exact stays member fun gone => not_refreshing_iff.mpr gone.2 refreshing
    · intro temp member expired removed left
      obtain ⟨front, back, shape⟩ := List.append_of_mem member
      rw [pathTimerHandler_resvHead,
        mem_remaining_iff distinct.nodup shape ⟨expired, removed⟩] at left
      exact (idle front temp back shape left).1 expired
    · intro temp member expired
      obtain ⟨front, back, shape⟩ := List.append_of_mem member
      exact find_of_visited distinct shape expired
        fun passed => (idle front temp back shape passed).1 expired
    · intro temp member live
      exact ⟨stays member fun gone => live gone.1,
        pathTimerHandler_findKept (not_pathTornDown distinct member live)⟩

end Handled

theorem ingress_handled :
    HandlesEach (.isolated 100) { Daemon.init with
      resvHead := [sweptSession 1 0 100, sweptSession 2 1 0] } := by
  have distinct : DistinctIds
      [sweptSession 1 0 100, sweptSession 2 1 0] := by
    unfold DistinctIds
    decide
  refine (handlesEach_iff distinct).mpr ?_
  intro front temp back shape passed
  match front with
  | [] => exact absurd passed passedOver_nil
  | [first] =>
      cases shape
      exact absurd passed (by decide)
  | first :: second :: front => simp at shape

/-- An ingress session behind an expired transit session, with a live one at
the head, is not refreshed. -/
theorem ingress_passed_over :
    DistinctIds [sweptSession 1 0 100, sweptSession 2 0 0,
        sweptSession 3 1 100] ∧
      ¬HandlesEach (.isolated 100) { Daemon.init with
        resvHead := [sweptSession 1 0 100, sweptSession 2 0 0,
          sweptSession 3 1 100] } := by
  constructor
  · unfold DistinctIds
    decide
  · intro handles
    have called : (pathCalls (.isolated 100) { Daemon.init with
        resvHead := [sweptSession 1 0 100, sweptSession 2 0 0,
          sweptSession 3 1 100] }).count 3 = 0 := by
      decide +kernel
    have refreshed := (handles.refreshed (sweptSession 3 1 100)
      (by decide) (by decide)).1
    exact absurd (called.symm.trans refreshed) (by decide)

end Rsvpd
