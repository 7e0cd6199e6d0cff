import Rsvpd.Lib.Lease
import Rsvpd.Runs

/-!
# Soft state survives while it is refreshed

A path session lives on a lease of `TIMEOUT` seconds that each PATH of its
tunnel id refreshes.  Only the reservation sweep ends it, and the path record
goes with it.
-/

namespace Rsvpd

open Daemon Sweep

def Event.time : Event → Int
  | .datagram env _ => env.now
  | .pathTimer env => env.now
  | .resvTimer env => env.now

/-- The event is the reception of a PATH of this tunnel id. -/
def PathOf (tunnelId : U16) : Event → Prop
  | .datagram _ buffer =>
      (recvHeader buffer).msgType = pathMsgType ∧
        recvTunnelId buffer = tunnelId
  | .pathTimer _ => False
  | .resvTimer _ => False

instance (tunnelId : U16) : DecidablePred (PathOf tunnelId)
  | .datagram _ _ => inferInstanceAs (Decidable (_ ∧ _))
  | .pathTimer _ => .isFalse id
  | .resvTimer _ => .isFalse id

abbrev pathTimes (tunnelId : U16) (events : List Event) : List Int :=
  Lease.refreshTimes Event.time (PathOf tunnelId) events

/-- No more than 90 seconds have passed. -/
def InTime (last now : Int) : Prop := now - last ≤ timeout

instance : DecidableRel InTime := fun _ _ =>
  inferInstanceAs (Decidable (_ ≤ _))

theorem inTime_of_le (last now later : Int) (inTime : InTime last later)
    (before : now ≤ later) : InTime last now :=
  (Int.sub_le_sub_right before last).trans inTime

/-- What one event does to the path session of a tunnel and to its record. -/
inductive SessionStep (tunnelId : U16) (event : Event) (d d' : Daemon) : Prop
  | heard (isPath : PathOf tunnelId event) (temp : Session)
      (session : findSession tunnelId d'.pathHead = some temp)
      (refreshed : temp.lastPathTime = event.time)
      (record : ∀ p, d.pathTree.find tunnelId = some p →
        d'.pathTree.find tunnelId = some p)
  | kept (notPath : ¬PathOf tunnelId event)
      (session : findSession tunnelId d'.pathHead =
        findSession tunnelId d.pathHead)
      (record : ∀ p, d.pathTree.find tunnelId = some p →
        d'.pathTree.find tunnelId = some p)
  | expired (notPath : ¬PathOf tunnelId event) (temp : Session)
      (session : findSession tunnelId d.pathHead = some temp)
      (late : ¬InTime temp.lastPathTime event.time)
      (gone : findSession tunnelId d'.pathHead = none)

section Step

variable {tunnelId : U16} {event : Event} {d d' : Daemon}

theorem resvTimerHandler_sessionStep {env : Env}
    (distinct : DistinctIds d.pathHead) :
    SessionStep tunnelId (.resvTimer env) d (resvTimerHandler env d) := by
  have session := resvTimerHandler_findSession env distinct tunnelId
  have record := resvTimerHandler_findPath env d tunnelId
  by_cases removed : tunnelId ∈ (resvVisits env d).filterMap pathRemoves
  · rw [if_pos removed] at session
    obtain ⟨temp, deleted, same⟩ := mem_pathRemoves.mp removed
    obtain ⟨visited, expired⟩ := mem_deletions_iff.mp deleted
    exact .expired id temp
      (distinct.findSession_iff.mpr ⟨visited.mem, same⟩)
      (Int.not_le.mpr expired) session
  · rw [if_neg removed] at session record
    exact .kept id session (by simp [record])

theorem step_sessionStep (tunnelId : U16) (distinct : DistinctIds d.pathHead)
    (taken : step d event = some d') : SessionStep tunnelId event d d' := by
  cases event with
  | datagram env buffer =>
      cases mainReceive_cases env buffer d taken with
      | path isPath routed result =>
          subst result
          have session := findSession_mainPath env buffer
            (dstReached (env.reachRoute (recvSessionObj buffer).dstIp)) d
            tunnelId
          have record (p : PathMsg)
              (found : d.pathTree.find tunnelId = some p) :
              (receivePathMessage env buffer (mainPathSession env buffer
                (dstReached (env.reachRoute (recvSessionObj buffer).dstIp))
                d)).pathTree.find tunnelId = some p := by
            apply receivePathMessage_findPathSome
            simpa using found
          by_cases same : tunnelId = recvTunnelId buffer
          · rw [if_pos same] at session
            refine .heard ⟨isPath, same.symm⟩ _ session ?_ record
            cases findSession (recvTunnelId buffer) d.pathHead <;> rfl
          · rw [if_neg same] at session
            exact .kept (fun isPath => same isPath.2.symm) session record
      | resv isResv result =>
          subst result
          refine .kept ?_ (by simp) (by simp)
          intro isPath
          rw [isPath.1] at isResv
          exact absurd isResv (by decide)
      | other notPath notResv result =>
          subst result
          exact .kept (fun isPath => notPath isPath.1) rfl fun _ => id
  | pathTimer env =>
      cases taken
      exact .kept id (by simp) (by simp)
  | resvTimer env =>
      cases taken
      exact resvTimerHandler_sessionStep distinct

end Step

/-- The tunnel has a path session, last refreshed at that time, and a path
record. -/
structure Alive (tunnelId : U16) (last : Int) (d : Daemon) : Prop where
  distinct : DistinctIds d.pathHead
  session : ∃ temp, findSession tunnelId d.pathHead = some temp ∧
    temp.lastPathTime = last
  record : ∃ p, d.pathTree.find tunnelId = some p

/-- The path sessions know when their tunnels were last heard of. -/
structure Heard (tunnelId : U16) (past : List Int) (d : Daemon) : Prop where
  distinct : DistinctIds d.pathHead
  last : ∀ temp, findSession tunnelId d.pathHead = some temp →
    past.getLast? = some temp.lastPathTime

section Runs

variable {tunnelId : U16} {d d' : Daemon}

theorem Alive.step {last : Int} {event : Event}
    (alive : Alive tunnelId last d) (inTime : InTime last event.time)
    (taken : step d event = some d') :
    Alive tunnelId (if PathOf tunnelId event then event.time else last)
      d' := by
  obtain ⟨distinct, ⟨temp, found, rfl⟩, p, held⟩ := alive
  have distinct' := step_distinct distinct taken
  cases step_sessionStep tunnelId distinct taken with
  | heard isPath temp' session refreshed record =>
      rw [if_pos isPath]
      exact ⟨distinct', ⟨temp', session, refreshed⟩, p, record p held⟩
  | kept notPath session record =>
      rw [if_neg notPath]
      exact ⟨distinct', ⟨temp, session.trans found, rfl⟩, p, record p held⟩
  | expired notPath temp' session late gone =>
      cases found.symm.trans session
      exact absurd inTime late

theorem Heard.step {past : List Int} {event : Event}
    (heard : Heard tunnelId past d) (taken : step d event = some d') :
    Heard tunnelId (past ++ pathTimes tunnelId [event]) d' := by
  refine ⟨step_distinct heard.distinct taken, ?_⟩
  intro temp found
  cases step_sessionStep tunnelId heard.distinct taken with
  | heard isPath temp' session refreshed record =>
      cases found.symm.trans session
      rw [pathTimes, Lease.refreshTimes_cons_pos _ _ isPath, refreshed]
      exact List.getLast?_concat
  | kept notPath session record =>
      rw [pathTimes, Lease.refreshTimes_cons_neg _ _ notPath]
      exact (congrArg List.getLast? (List.append_nil past)).trans
        (heard.last temp (session.symm.trans found))
  | expired notPath temp' session late gone =>
      cases gone.symm.trans found

theorem Heard.run {past : List Int} {events : List Event}
    (heard : Heard tunnelId past d)
    (run : Transition.runEvents Rsvpd.step d events = some d') :
    Heard tunnelId (past ++ pathTimes tunnelId events) d' := by
  induction events generalizing past d with
  | nil =>
      cases run
      simpa [pathTimes, Lease.refreshTimes] using heard
  | cons event events ih =>
      obtain ⟨next, taken, rest⟩ := Transition.runEvents_cons.mp run
      have later := ih (heard.step taken) rest
      rw [List.append_assoc] at later
      rwa [← Lease.refreshTimes_append] at later

theorem startup_heard (tunnelId : U16) (env : Env) (config : TunnelConfig) :
    Heard tunnelId [] (startup env config) := by
  have none := (startup_frame env config).2.1
  refine ⟨?_, ?_⟩
  · rw [none]
    exact List.nodup_nil
  · intro temp found
    rw [none] at found
    cases found

/-- A tunnel that has a path session and a path record keeps both over every
run in whose clock no two successive PATHs of its tunnel id, nor the last one
and the present, are more than 90 seconds apart. -/
theorem soft_state_survives {env : Env} {config : TunnelConfig}
    {before after : List Event} (now : Int)
    (start : Transition.runEvents Rsvpd.step (startup env config) before =
      some d)
    (session : ∃ temp ∈ d.pathHead, temp.tunnelId = tunnelId)
    (record : d.pathTree.find tunnelId ≠ none)
    (run : Transition.runEvents Rsvpd.step d after = some d')
    (clock : (after.map Event.time ++ [now]).Pairwise (· ≤ ·))
    (refreshed : ((pathTimes tunnelId before).getLast?.toList ++
      (pathTimes tunnelId after ++ [now])).IsChain InTime) :
    (∃ temp ∈ d'.pathHead, temp.tunnelId = tunnelId) ∧
      d'.pathTree.find tunnelId ≠ none := by
  have heard := (startup_heard tunnelId env config).run start
  obtain ⟨temp, member, same⟩ := session
  have found := heard.distinct.findSession_iff.mpr ⟨member, same⟩
  have lastPath := heard.last temp found
  rw [List.nil_append] at lastPath
  rw [lastPath] at refreshed
  have alive : Alive tunnelId temp.lastPathTime d :=
    ⟨heard.distinct, ⟨temp, found, rfl⟩, Option.ne_none_iff_exists'.mp record⟩
  obtain ⟨last, alive'⟩ := Lease.survives Event.time (PathOf tunnelId)
    inTime_of_le (fun _ _ _ _ alive inTime taken => alive.step inTime taken)
    alive run clock refreshed
  obtain ⟨temp', found', _⟩ := alive'.session
  exact ⟨⟨temp', mem_of_findSession found', findSession_tunnelId found'⟩,
    Option.ne_none_iff_exists'.mpr alive'.record⟩

end Runs

/-- Tunnel 1 is refreshed after 80 seconds and outlives tunnel 2, which is
not. -/
theorem refreshed_tunnel_survives :
    ∃ d d', Transition.runEvents step (startup (.isolated 0) ⟨1, .any, .any⟩)
        [.datagram (.toward none 0) (samplePath 1 ⟨1⟩ ⟨9⟩ ⟨2⟩).received,
         .datagram (.toward none 0) (samplePath 2 ⟨1⟩ ⟨9⟩ ⟨2⟩).received] =
          some d ∧
      Transition.runEvents step d
        [.resvTimer (.isolated 60),
         .datagram (.toward none 80) (samplePath 1 ⟨1⟩ ⟨9⟩ ⟨2⟩).received,
         .resvTimer (.isolated 120)] = some d' ∧
      d'.pathTree.find 2 = none ∧ d'.pathTree.find 1 ≠ none := by
  have outlived : ((Transition.runEvents step
      (startup (.isolated 0) ⟨1, .any, .any⟩)
      [.datagram (.toward none 0) (samplePath 1 ⟨1⟩ ⟨9⟩ ⟨2⟩).received,
       .datagram (.toward none 0)
        (samplePath 2 ⟨1⟩ ⟨9⟩ ⟨2⟩).received]).bind fun d =>
      (Transition.runEvents step d
        [.resvTimer (.isolated 60),
         .datagram (.toward none 80) (samplePath 1 ⟨1⟩ ⟨9⟩ ⟨2⟩).received,
         .resvTimer (.isolated 120)]).map fun d' =>
          decide ((∃ temp ∈ d.pathHead, temp.tunnelId = 1) ∧
            d.pathTree.find 1 ≠ none ∧ d'.pathTree.find 2 = none)) =
      some true := by
    decide +kernel
  obtain ⟨d, start, rest⟩ := Option.bind_eq_some_iff.mp outlived
  obtain ⟨d', run, final⟩ := Option.map_eq_some_iff.mp rest
  obtain ⟨session, record, gone⟩ := of_decide_eq_true final
  exact ⟨d, d', start, run, gone,
    (soft_state_survives 120 start session record run (by decide)
      (by decide)).2⟩

end Rsvpd
