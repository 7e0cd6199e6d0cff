import Rsvpd.TimerEvents

/-!
# The schedule of the timers

With timers that expire in time the handlers run every 30 seconds.  A tunnel
that nobody refreshes so goes within a time that the sessions in front of its
own bound.
-/

namespace Rsvpd

open PosixTimers Transition TimedDaemon

/-- The type of the datagrams for which `main` calls the event handler. -/
def TimerHandler.msgType : TimerHandler → U8
  | .path => resvMsgType
  | .resv => pathMsgType

/-- When the event calls the event handler. -/
def calls (handler : TimerHandler) : TimedEvent → Option Int
  | .datagram env _ buffer =>
      if (recvHeader buffer).msgType = handler.msgType then some env.now
      else none
  | .wait _ => none
  | .expire _ _ => none

/-- When the event runs the handler of the timer. -/
def fires (handler : TimerHandler) : TimedEvent → Option Int
  | .expire timer env => if timer.task = handler then some env.now else none
  | .wait _ => none
  | .datagram _ _ _ => none

/-- The first times behind `first`, 30 seconds apart. -/
def slots (first : Int) (rounds : Nat) : List Int :=
  (List.range rounds).map fun round : Nat => first + 30 * ((round : Int) + 1)

/-- `timer_create` never gives the id 0, and time does not pass an expiry. -/
def OnTime (s : TimedDaemon) : TimedEvent → Prop
  | .wait seconds => ∀ timer ∈ s.timers,
      timer.expiry.all (s.now + (seconds : Int) ≤ ·) = true
  | .datagram _ created _ => created ≠ some 0
  | .expire _ _ => True

instance (s : TimedDaemon) : DecidablePred (OnTime s)
  | .wait _ => inferInstanceAs (Decidable (∀ _ ∈ _, _))
  | .datagram _ _ _ => inferInstanceAs (Decidable (_ ≠ _))
  | .expire _ _ => .isTrue trivial

/-- No timer has the id 0. -/
structure NonzeroTimers (s : TimedDaemon) : Prop extends Timers s where
  nonzero : ∀ timer ∈ s.timers, timer.id ≠ 0

/-- Where the timer stands that was started at `first`, if it was. -/
inductive Schedule (handler : TimerHandler) (s : TimedDaemon) :
    Option Int → List Int → Prop
  | unset (unset : s.timerId handler = 0) : Schedule handler s none []
  | set (first : Int) (rounds : Nat) (set : s.timerId handler ≠ 0)
      (member : handler.armed (s.timerId handler)
        (first + 30 * ((rounds : Int) + 1)) ∈ s.timers)
      (after : first + 30 * (rounds : Int) ≤ s.now)
      (before : s.now ≤ first + 30 * ((rounds : Int) + 1)) :
      Schedule handler s (some first) (slots first rounds)

section OnTime

variable {handler other : TimerHandler} {created : Option TimerId}
  {buffer : Buffer} {event : TimedEvent} {s s' : TimedDaemon}
  {first : Option Int} {fired : List Int}

theorem slots_succ (first : Int) (rounds : Nat) :
    slots first (rounds + 1) =
      slots first rounds ++ [first + 30 * ((rounds : Int) + 1)] := by
  rw [slots, List.range_succ, List.map_append]
  rfl

theorem Schedule.withDaemon (schedule : Schedule handler s first fired)
    (d : Daemon) : Schedule handler { s with daemon := d } first fired := by
  have same : ({ s with daemon := d } : TimedDaemon).timerId handler =
      s.timerId handler := by
    cases handler <;> rfl
  cases schedule with
  | unset unset => exact .unset (same.trans unset)
  | set first rounds set member after before =>
      refine .set first rounds (same ▸ set) ?_ after before
      rw [same]
      exact member

theorem HandlesEvent.schedule (handles : HandlesEvent handler created s s')
    (answer : created ≠ some 0) (schedule : Schedule handler s first fired) :
    Schedule handler s' (first.or (some s.now)) fired := by
  cases handles with
  | active set result =>
      subst result
      cases schedule with
      | unset unset => exact absurd unset set
      | set first rounds set member after before =>
          exact .set first rounds set member after before
  | created id same unset fresh result =>
      subst result
      have named : (s.withTimer handler id).timerId handler = id :=
        (timerId_withTimer id).trans (if_pos rfl)
      have nonzero : id ≠ 0 := fun zero => answer (same.trans (by rw [zero]))
      cases schedule with
      | set first rounds set => exact absurd unset set
      | unset =>
          refine .set s.now 0 (by rwa [named]) ?_ ?_ ?_
          · rw [named, mem_withTimer]
            exact .inr (by simp)
          · simp
          · simp

theorem HandlesEvent.otherSchedule
    (handles : HandlesEvent other created s s') (different : handler ≠ other)
    (schedule : Schedule handler s first fired) :
    Schedule handler s' first fired := by
  cases handles with
  | active set result => rwa [result]
  | created id same unset fresh result =>
      subst result
      have named : (s.withTimer other id).timerId handler =
          s.timerId handler :=
        (timerId_withTimer id).trans (if_neg different)
      cases schedule with
      | unset unset => exact .unset (named.trans unset)
      | set first rounds set member after before =>
          refine .set first rounds (named ▸ set) ?_ ?_ ?_
          · rw [named, mem_withTimer]
            exact .inl member
          · simpa using after
          · simpa using before

theorem calls_pos {env : Env}
    (called : (recvHeader buffer).msgType = handler.msgType) :
    calls handler (.datagram env created buffer) = some env.now :=
  if_pos called

theorem calls_neg {env : Env}
    (passed : (recvHeader buffer).msgType ≠ handler.msgType) :
    calls handler (.datagram env created buffer) = none :=
  if_neg passed

theorem HandlesDatagram.schedule {env : Env}
    (handles : HandlesDatagram created buffer s s') (clock : env.now = s.now)
    (answer : created ≠ some 0) (schedule : Schedule handler s first fired) :
    Schedule handler s'
      (first.or (calls handler (.datagram env created buffer))) fired := by
  have own {called : TimerHandler}
      (isType : (recvHeader buffer).msgType = called.msgType)
      (handles : HandlesEvent called created s s') :
      Schedule handler s'
        (first.or (calls handler (.datagram env created buffer))) fired := by
    by_cases same : handler = called
    · subst same
      rw [calls_pos isType, clock]
      exact handles.schedule answer schedule
    · have passed : (recvHeader buffer).msgType ≠ handler.msgType := by
        rw [isType]
        cases handler <;> cases called <;>
          first | exact absurd rfl same | decide
      rw [calls_neg passed, Option.or_none]
      exact handles.otherSchedule same schedule
  cases handles with
  | path isPath handles => exact @own .resv isPath handles
  | resv isResv handles => exact @own .path isResv handles
  | other notPath notResv result =>
      subst result
      have passed : (recvHeader buffer).msgType ≠ handler.msgType := by
        cases handler
        · exact notResv
        · exact notPath
      rwa [calls_neg passed, Option.or_none]

theorem Schedule.wait {seconds : Nat} (onTime : OnTime s (.wait seconds))
    (schedule : Schedule handler s first fired) :
    Schedule handler { s with now := s.now + seconds } first fired := by
  have same : ({ s with now := s.now + seconds } : TimedDaemon).timerId
      handler = s.timerId handler := by
    cases handler <;> rfl
  cases schedule with
  | unset unset => exact .unset (same.trans unset)
  | set first rounds set member after before =>
      have limit := of_decide_eq_true (onTime _ member)
      refine .set first rounds (same ▸ set) ?_ ?_ limit
      · rw [same]
        exact member
      · exact after.trans (Int.le_add_of_nonneg_right (Int.natCast_nonneg _))

/-- A timer that expires in time starts its next round, and leaves the other
schedule alone. -/
theorem Schedule.expire {timer : Timer TimerId TimerHandler} {env : Env}
    {due : Int} (timers : NonzeroTimers s) (clock : env.now = s.now)
    (member : timer ∈ s.timers) (expiry : timer.expiry = some due)
    (late : due ≤ s.now) (schedule : Schedule handler s first fired) :
    Schedule handler (s.reloaded timer.id) first
      (fired ++ (fires handler (.expire timer env)).toList) := by
  have same := @timerId_reloaded handler s timer.id
  have owned := (timers.owned timer member).resolve_right
    (timers.nonzero timer member)
  cases schedule with
  | unset unset =>
      have passed : timer.task ≠ handler := by
        rintro rfl
        exact timers.nonzero timer member (owned.trans unset)
      rw [fires, if_neg passed]
      exact .unset (same.trans unset)
  | set first rounds set own after before =>
      by_cases runs : timer.task = handler
      · subst runs
        have here := List.inj_on_of_nodup_map timers.nodup member own owned
        have now : s.now = first + 30 * ((rounds : Int) + 1) := by
          rw [here] at expiry
          cases expiry
          exact le_antisymm before late
        have later : s.now + 30 =
            first + 30 * (((rounds + 1 : Nat) : Int) + 1) := by
          push_cast
          omega
        rw [fires, if_pos rfl, clock, Option.toList_some, now, ← slots_succ]
        refine .set first (rounds + 1) (by rwa [same]) ?_ ?_ ?_
        · rw [same, ← later, owned]
          rw [← now] at own
          exact armed_reloaded own
        · exact now.ge.trans' (by push_cast; rfl)
        · rw [← later]
          exact Int.le_add_of_nonneg_right (by decide)
      · rw [fires, if_neg runs, Option.toList_none, List.append_nil]
        refine .set first rounds (by rwa [same]) ?_ after before
        rw [same]
        refine mem_reloaded_of_ne own fun sameId => runs ?_
        have here := List.inj_on_of_nodup_map timers.nodup own member sameId
        rw [← here]
        rfl

theorem HandlesDatagram.nonzero
    (handles : HandlesDatagram created buffer s s')
    (answer : created ≠ some 0) (timers : NonzeroTimers s) :
    NonzeroTimers s' := by
  refine ⟨handles.timers timers.toTimers, ?_⟩
  have event {called : TimerHandler}
      (handles : HandlesEvent called created s s') :
      ∀ timer ∈ s'.timers, timer.id ≠ 0 := by
    cases handles with
    | active _ result =>
        rw [result]
        exact timers.nonzero
    | created id same _ _ result =>
        rw [result]
        intro timer member
        rcases mem_withTimer.mp member with old | rfl
        · exact timers.nonzero timer old
        · exact fun zero => answer (same.trans (congrArg some zero))
  cases handles with
  | path _ handles => exact event handles
  | resv _ handles => exact event handles
  | other _ _ result =>
      rw [result]
      exact timers.nonzero

theorem NonzeroTimers.reloaded (timers : NonzeroTimers s) (id : TimerId) :
    NonzeroTimers (s.reloaded id) := by
  refine ⟨timers.toTimers.reloaded id, ?_⟩
  intro after member
  obtain ⟨timer, old, rfl⟩ := mem_reload.mp member
  split
  · exact timers.nonzero timer old
  · exact timers.nonzero timer old

/-- What a run that is on time keeps about the timer of a handler. -/
structure OnSchedule (handler : TimerHandler) (first : Option Int)
    (fired : List Int) (s : TimedDaemon) : Prop where
  timers : NonzeroTimers s
  schedule : Schedule handler s first fired

theorem OnSchedule.step (kept : OnSchedule handler first fired s)
    (onTime : OnTime s event) (taken : timedStep s event = some s') :
    OnSchedule handler (first.or (calls handler event))
      (fired ++ (fires handler event).toList) s' := by
  cases timedStep_cases kept.timers.toTimers taken with
  | wait seconds result =>
      rw [result, calls, fires, Option.or_none, Option.toList_none,
        List.append_nil]
      exact ⟨⟨kept.timers.toTimers.of_same rfl rfl rfl,
        kept.timers.nonzero⟩, kept.schedule.wait onTime⟩
  | datagram env created buffer next d clock handles received result =>
      rw [result, fires, Option.toList_none, List.append_nil]
      have timers := handles.nonzero onTime kept.timers
      exact ⟨⟨timers.toTimers.of_same rfl rfl rfl, timers.nonzero⟩,
        (handles.schedule clock onTime kept.schedule).withDaemon d⟩
  | expire timer env due clock member expiry late result =>
      rw [result, calls, Option.or_none]
      have timers := kept.timers.reloaded timer.id
      exact ⟨⟨timers.toTimers.of_same rfl rfl rfl, timers.nonzero⟩,
        (kept.schedule.expire kept.timers clock member expiry
          late).withDaemon _⟩

end OnTime

/-- A PATH arrives after 5 seconds. -/
def timedArrival : List TimedEvent :=
  [.wait 5, .datagram (.toward (some ⟨3⟩) 5) (some 9)
    (samplePath 2 ⟨1⟩ ⟨9⟩ ⟨2⟩).received]

/-- Both timers expire once. -/
def timedRound (round : Nat) : List TimedEvent :=
  let due : Int := 30 * ((round : Int) + 1)
  [.wait 25, .expire (TimerHandler.path.armed 8 due) (.isolated due),
   .wait 5, .expire (TimerHandler.resv.armed 9 (due + 5))
    (.isolated (due + 5))]

def timedRounds : List TimedEvent :=
  (List.range 4).flatMap timedRound ++ [.wait 1]

theorem timedRounds_run :
    ∃ s₀ s s', timedStartup (.isolated 0) ⟨1, .any, .any⟩ (some 8) =
        some s₀ ∧
      runEvents (guarded timedStep OnTime) s₀ timedArrival = some s ∧
      runEvents (guarded timedStep OnTime) s timedRounds = some s' ∧
      s.now = 5 ∧ s.daemon.pathHead = [transitSession 2 5] ∧
      newcomers s.daemon (daemonEvents timedRounds) = 0 ∧ s'.now = 126 := by
  have executed : ((timedStartup (.isolated 0) ⟨1, .any, .any⟩
      (some 8)).bind fun s₀ =>
        (runEvents (guarded timedStep OnTime) s₀ timedArrival).bind fun s =>
          (runEvents (guarded timedStep OnTime) s timedRounds).map fun s' =>
            (s.now, s.daemon.pathHead,
              newcomers s.daemon (daemonEvents timedRounds), s'.now)) =
      some (5, [transitSession 2 5], 0, 126) := by
    decide +kernel
  obtain ⟨s₀, started, rest⟩ := Option.bind_eq_some_iff.mp executed
  obtain ⟨s, arrived, rest⟩ := Option.bind_eq_some_iff.mp rest
  obtain ⟨s', run, states⟩ := Option.map_eq_some_iff.mp rest
  obtain ⟨now, states⟩ := Prod.mk.inj states
  obtain ⟨head, states⟩ := Prod.mk.inj states
  obtain ⟨nobody, now'⟩ := Prod.mk.inj states
  exact ⟨s₀, s, s', started, arrived, run, now, head, nobody, now'⟩

section Runs

variable {env : Env} {config : TunnelConfig} {created : Option TimerId}
  {events : List TimedEvent} {s s₀ s' : TimedDaemon}

theorem timedStartup_eq
    (started : timedStartup env config created = some s₀) :
    ∃ id, created = some id ∧
      s₀ = (withoutTimers env config).withTimer .path id ∧ Timers s₀ := by
  have none : Timers (withoutTimers env config) := by
    refine ⟨List.nodup_nil, nofun, nofun, ?_⟩
    rintro (_ | _) set
    · exact absurd rfl set
    · exact absurd rfl set
  rw [timedStartup, pathEventHandler] at started
  have handles := eventHandler_cases none started
  have timers := handles.timers none
  cases handles with
  | active set _ => exact absurd rfl set
  | created id answer _ _ result => exact ⟨id, answer, result, timers⟩

theorem daemonEvents_cons (event : TimedEvent) (events : List TimedEvent) :
    daemonEvents (event :: events) =
      event.event?.toList ++ daemonEvents events := by
  rw [daemonEvents, List.filterMap_cons]
  cases event.event? <;> rfl

theorem timedRun_daemonEvents (timers : Timers s)
    (run : runEvents timedStep s events = some s') :
    Timers s' ∧ runEvents step s.daemon (daemonEvents events) =
      some s'.daemon := by
  induction events generalizing s with
  | nil =>
      cases run
      exact ⟨timers, rfl⟩
  | cons event events ih =>
      obtain ⟨next, taken, rest⟩ := runEvents_cons.mp run
      have first := timedStep_event timers taken
      obtain ⟨timers', later⟩ := ih (timedStep_timers timers taken) rest
      refine ⟨timers', ?_⟩
      rw [daemonEvents_cons]
      exact runEvents_append.mpr ⟨next.daemon, first, later⟩

/-- The first time that an event calls the event handler. -/
def firstCall (handler : TimerHandler) (events : List TimedEvent) :
    Option Int := events.findSome? (calls handler)

/-- The times at which the handler of the timer ran. -/
def fired (handler : TimerHandler) (events : List TimedEvent) : List Int :=
  events.filterMap (fires handler)

theorem firstCall_cons (handler : TimerHandler) (event : TimedEvent)
    (events : List TimedEvent) :
    firstCall handler (event :: events) =
      (calls handler event).or (firstCall handler events) := by
  rw [firstCall, List.findSome?_cons]
  cases calls handler event <;> rfl

theorem fired_cons (handler : TimerHandler) (event : TimedEvent)
    (events : List TimedEvent) :
    fired handler (event :: events) =
      (fires handler event).toList ++ fired handler events := by
  rw [fired, List.filterMap_cons]
  cases fires handler event <;> rfl

theorem OnSchedule.run {handler : TimerHandler} {first : Option Int}
    {past : List Int} (kept : OnSchedule handler first past s)
    (run : runEvents (guarded timedStep OnTime) s events = some s') :
    OnSchedule handler (first.or (firstCall handler events))
      (past ++ fired handler events) s' := by
  induction events generalizing s first past with
  | nil =>
      cases run
      simpa [firstCall, fired] using kept
  | cons event events ih =>
      obtain ⟨next, taken, rest⟩ := runEvents_cons.mp run
      rw [guarded] at taken
      split at taken
      case isFalse => cases taken
      case isTrue onTime =>
        have later := ih (kept.step onTime taken) rest
        rwa [firstCall_cons, fired_cons, ← Option.or_assoc,
          ← List.append_assoc]

/-- Every 30 seconds from `first` on, up to now. -/
def EveryThirty (first now : Int) (times : List Int) : Prop :=
  ∃ rounds : Nat, times = slots first rounds ∧
    first + 30 * (rounds : Int) ≤ now ∧
    now ≤ first + 30 * ((rounds : Int) + 1)

theorem OnSchedule.everyThirty {handler : TimerHandler} {first : Int}
    {times : List Int} (kept : OnSchedule handler (some first) times s) :
    EveryThirty first s.now times := by
  cases kept.schedule with
  | set _ rounds _ _ after before => exact ⟨rounds, rfl, after, before⟩

theorem OnSchedule.never {handler : TimerHandler} {times : List Int}
    (kept : OnSchedule handler none times s) : times = [] := by
  cases kept.schedule
  rfl

theorem timedStartup_onSchedule
    (started : timedStartup env config created = some s₀)
    (nonzero : created ≠ some 0) :
    OnSchedule .path (some env.now) [] s₀ ∧ OnSchedule .resv none [] s₀ := by
  obtain ⟨id, answer, rfl, timers⟩ := timedStartup_eq started
  have nonzeroId : id ≠ 0 :=
    fun zero => nonzero (answer.trans (congrArg some zero))
  have all : NonzeroTimers ((withoutTimers env config).withTimer .path id) := by
    refine ⟨timers, fun timer member => ?_⟩
    rcases mem_withTimer.mp member with old | rfl
    · cases old
    · exact nonzeroId
  refine ⟨⟨all, ?_⟩, ⟨all, .unset rfl⟩⟩
  refine .set env.now 0 nonzeroId ?_ ?_ ?_
  · exact mem_withTimer.mpr (.inr (by simp [timerId_withTimer, withoutTimers]))
  · simp [withoutTimers]
  · simp [withoutTimers]

/-- However the ids come out, three timers are created at most.  Without the
id 0 each handler has one. -/
theorem timers_bounded
    (started : timedStartup env config created = some s₀)
    (run : runEvents timedStep s₀ events = some s) :
    s.timers.length ≤ 3 ∧
      ((∀ timer ∈ s.timers, timer.id ≠ 0) →
        ∀ timer ∈ s.timers, ∀ other ∈ s.timers,
          timer.task = other.task → timer = other) := by
  obtain ⟨_, _, _, initially⟩ := timedStartup_eq started
  have timers := (timedRun_daemonEvents initially run).1
  constructor
  · have ids : s.timers.map Timer.id ⊆ [0, s.pathTimer, s.resvTimer] := by
      intro id member
      obtain ⟨timer, inside, rfl⟩ := List.mem_map.mp member
      have owned := timers.owned timer inside
      cases task : timer.task with
      | path =>
          rw [task, timerId] at owned
          rcases owned with own | zero <;> simp [*]
      | resv =>
          rw [task, timerId] at owned
          rcases owned with own | zero <;> simp [*]
    have few := (List.subperm_of_subset timers.nodup ids).length_le
    rwa [List.length_map] at few
  · intro nonzero timer member other member' same
    have own := (timers.owned timer member).resolve_right
      (nonzero timer member)
    have own' := (timers.owned other member').resolve_right
      (nonzero other member')
    refine List.inj_on_of_nodup_map timers.nodup member member' ?_
    rw [own, own', same]

theorem timedRounds_bounded :
    ∃ s₀ s, timedStartup (.isolated 0) ⟨1, .any, .any⟩ (some 8) = some s₀ ∧
      runEvents timedStep s₀ (timedArrival ++ timedRounds) = some s ∧
      (s.timers.length ≤ 3 ∧
        ((∀ timer ∈ s.timers, timer.id ≠ 0) →
          ∀ timer ∈ s.timers, ∀ other ∈ s.timers,
            timer.task = other.task → timer = other)) := by
  obtain ⟨s₀, s, s', started, arrived, run, _⟩ := timedRounds_run
  have whole := runEvents_append.mpr ⟨s, runEvents_of_guarded arrived,
    runEvents_of_guarded run⟩
  exact ⟨s₀, s', started, whole, timers_bounded started whole⟩

/-- The PATHs are refreshed every 30 seconds from the start on, the RESVs from
the first PATH on. -/
theorem handlers_on_schedule
    (started : timedStartup env config created = some s₀)
    (nonzero : created ≠ some 0)
    (run : runEvents (guarded timedStep OnTime) s₀ events = some s) :
    EveryThirty env.now s.now (fired .path events) ∧
      match firstCall .resv events with
      | none => fired .resv events = []
      | some first => EveryThirty first s.now (fired .resv events) := by
  obtain ⟨path, resv⟩ := timedStartup_onSchedule started nonzero
  constructor
  · exact (path.run run).everyThirty
  · have kept := resv.run run
    rw [Option.none_or, List.nil_append] at kept
    split
    case h_1 never =>
      rw [never] at kept
      exact kept.never
    case h_2 first heard =>
      rw [heard] at kept
      exact kept.everyThirty

theorem timedRounds_on_schedule :
    ∃ s₀ s, timedStartup (.isolated 0) ⟨1, .any, .any⟩ (some 8) = some s₀ ∧
      runEvents (guarded timedStep OnTime) s₀
        (timedArrival ++ timedRounds) = some s ∧
      fired .resv (timedArrival ++ timedRounds) = [35, 65, 95, 125] ∧
      (EveryThirty (Env.isolated 0).now s.now
          (fired .path (timedArrival ++ timedRounds)) ∧
        match firstCall .resv (timedArrival ++ timedRounds) with
        | none => fired .resv (timedArrival ++ timedRounds) = []
        | some first => EveryThirty first s.now
            (fired .resv (timedArrival ++ timedRounds))) := by
  obtain ⟨s₀, s, s', started, arrived, run, _⟩ := timedRounds_run
  have whole := runEvents_append.mpr ⟨s, arrived, run⟩
  exact ⟨s₀, s', started, whole, by decide,
    handlers_on_schedule started (by decide) whole⟩

theorem slots_add (first : Int) (rounds more : Nat) :
    slots first (rounds + more) =
      slots first rounds ++ slots (first + 30 * (rounds : Int)) more := by
  rw [slots, List.range_add, List.map_append, List.map_map]
  refine congrArg (slots first rounds ++ ·) (List.map_congr_left ?_)
  intro round _
  simp only [Function.comp_apply]
  push_cast
  omega

theorem count_slots {first start : Int} {rounds few : Nat}
    (enough : few ≤ rounds)
    (late : start < first + 30 * ((rounds : Int) - few + 1)) :
    few ≤ (slots first rounds).countP fun time => start < time := by
  obtain ⟨skipped, rfl⟩ := Nat.exists_eq_add_of_le' enough
  rw [slots_add, List.countP_append]
  refine Nat.le_add_left_of_le ?_
  have all : ∀ time ∈ slots (first + 30 * (skipped : Int)) few,
      decide (start < time) = true := by
    intro time member
    obtain ⟨round, _, rfl⟩ := List.mem_map.mp member
    rw [decide_eq_true_eq]
    push_cast at late
    omega
  rw [List.countP_eq_length.mpr all, slots, List.length_map,
    List.length_range]

theorem lateSweeps_daemonEvents (temp : Session) (events : List TimedEvent) :
    lateSweeps temp (daemonEvents events) =
      (fired .resv events).countP fun time =>
        temp.lastPathTime + timeout < time := by
  induction events with
  | nil => rfl
  | cons event events ih =>
      rw [daemonEvents_cons, fired_cons, lateSweeps, List.countP_append,
        List.countP_append, ← ih]
      refine congrArg (· + lateSweeps temp (daemonEvents events)) ?_
      cases event with
      | wait seconds => rfl
      | datagram env created buffer => rfl
      | expire timer env =>
          rw [TimedEvent.event?, fires]
          cases timer.task with
          | path => rfl
          | resv =>
              have same : Expired env.now temp ↔
                  temp.lastPathTime + timeout < env.now := by
                unfold Expired
                omega
              simp [same]

theorem pathHead_of_unheard {past : List TimedEvent}
    (unheard : firstCall .resv past = none) :
    (daemonEvents past).foldl pathHeadStep [] = [] := by
  induction past with
  | nil => rfl
  | cons event past ih =>
      rw [firstCall_cons, Option.or_eq_none_iff] at unheard
      obtain ⟨here, later⟩ := unheard
      have first : event.event?.toList.foldl pathHeadStep [] = [] := by
        cases event with
        | wait seconds => rfl
        | datagram env created buffer =>
            have notPath : (recvHeader buffer).msgType ≠ pathMsgType := by
              intro isPath
              rw [calls_pos isPath] at here
              cases here
            exact if_neg notPath
        | expire timer env =>
            rw [TimedEvent.event?]
            cases timer.task
            · rfl
            · exact Sweep.remaining_nil []
      rw [daemonEvents_cons, List.foldl_append, first, ih later]

/-- With timers on time a tunnel that nobody refreshes goes 90 seconds and as
many sweeps after its last PATH as there are sessions in front of its own,
newcomers included, and one more. -/
theorem silent_tunnel_goes {past : List TimedEvent}
    (started : timedStartup env config created = some s₀)
    (nonzero : created ≠ some 0)
    (before : runEvents (guarded timedStep OnTime) s₀ past = some s)
    {front post : List Session} {temp : Session}
    (shape : s.daemon.pathHead = front ++ temp :: post)
    (run : runEvents (guarded timedStep OnTime) s events = some s')
    (silent : ∀ event ∈ daemonEvents events, Silent temp.tunnelId event)
    (later : max s.now (temp.lastPathTime + timeout) + 30 * ((front.length +
      newcomers s.daemon (daemonEvents events) + 1 : Nat) : Int) < s'.now) :
    (∀ other ∈ s'.daemon.pathHead, other.tunnelId ≠ temp.tunnelId) ∧
      s'.daemon.pathTree.find temp.tunnelId = none := by
  obtain ⟨_, _, same, initially⟩ := timedStartup_eq started
  obtain ⟨timers, start⟩ :=
    timedRun_daemonEvents initially (runEvents_of_guarded before)
  have rest := (timedRun_daemonEvents timers (runEvents_of_guarded run)).2
  have daemon : s₀.daemon = startup env config := by
    rw [same]
    exact (withTimer_frame _).1
  rw [daemon] at start
  have reached : Reaches (fun _ _ => True) env config s.daemon :=
    .of_runEvents (fun _ _ _ => trivial) start
  have mid := (timedStartup_onSchedule started nonzero).2.run before
  have final := mid.run run
  rw [Option.none_or, List.nil_append] at mid final
  cases heard : firstCall .resv past with
  | none =>
      have empty := runEvents_pathHead start
      rw [(startup_frame env config).2.1, pathHead_of_unheard heard, shape]
        at empty
      simp at empty
  | some first =>
      rw [heard] at mid final
      obtain ⟨rounds, ran, after, _⟩ := mid.everyThirty
      rw [Option.some_or, ran] at final
      obtain ⟨rounds', ran', _, before'⟩ := final.everyThirty
      have lengths := congrArg List.length ran'
      simp only [List.length_append, slots, List.length_map,
        List.length_range] at lengths
      obtain ⟨more, rfl⟩ : ∃ more, rounds' = rounds + more :=
        ⟨_, lengths.symm⟩
      rw [slots_add] at ran'
      have between := List.append_cancel_left ran'
      have lateOnes :
          front.length + newcomers s.daemon (daemonEvents events) + 1 ≤
            lateSweeps temp (daemonEvents events) := by
        rw [lateSweeps_daemonEvents, between]
        push_cast at before' later
        apply count_slots
        · omega
        · push_cast
          omega
      have gone := Behind.goes shape reached.distinct silent rest
        (Nat.lt_of_succ_le lateOnes)
      exact ⟨findSession_eq_none.mp gone.1, gone.2⟩

theorem timedRounds_silent :
    ∃ s₀ s s', timedStartup (.isolated 0) ⟨1, .any, .any⟩ (some 8) =
        some s₀ ∧
      runEvents (guarded timedStep OnTime) s₀ timedArrival = some s ∧
      s.daemon.pathHead = [] ++ [transitSession 2 5] ∧
      runEvents (guarded timedStep OnTime) s timedRounds = some s' ∧
      ((∀ other ∈ s'.daemon.pathHead, other.tunnelId ≠ 2) ∧
        s'.daemon.pathTree.find 2 = none) := by
  obtain ⟨s₀, s, s', started, arrived, run, now, head, nobody, now'⟩ :=
    timedRounds_run
  have silent : ∀ event ∈ daemonEvents timedRounds, Silent 2 event := by
    decide
  have later : max s.now ((transitSession 2 5).lastPathTime + timeout) +
      30 * ((([] : List Session).length +
        newcomers s.daemon (daemonEvents timedRounds) + 1 : Nat) : Int) <
      s'.now := by
    rw [now, nobody, now']
    decide
  refine ⟨s₀, s, s', started, arrived, head, run, ?_⟩
  exact silent_tunnel_goes started (by decide) arrived head run silent later

end Runs

end Rsvpd
