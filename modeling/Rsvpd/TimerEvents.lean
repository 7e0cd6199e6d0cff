import Rsvpd.Backlog
import Rsvpd.Lib.PosixTimers

/-!
# The timers of the daemon

`path_event_handler` and `resv_event_handler` create a periodic timer unless
theirs is active.  `main` calls the one at start-up and for each RESV, the
other for each PATH.
-/

namespace Rsvpd

open PosixTimers Transition

abbrev TimerId := BitVec 64

/-- Which of the two timers, each with its own handler. -/
inductive TimerHandler where
  | path
  | resv
deriving DecidableEq

/-- The daemon with its timers, the two variables that hold their ids, and the
clock. -/
structure TimedDaemon where
  daemon : Daemon
  timers : List (Timer TimerId TimerHandler)
  pathTimer : TimerId
  resvTimer : TimerId
  now : Int

namespace TimedDaemon

/-- `path_timer` or `resv_timer`. -/
def timerId (s : TimedDaemon) : TimerHandler → TimerId
  | .path => s.pathTimer
  | .resv => s.resvTimer

def setTimerId (handler : TimerHandler) (id : TimerId) (s : TimedDaemon) :
    TimedDaemon :=
  match handler with
  | .path => { s with pathTimer := id }
  | .resv => { s with resvTimer := id }

/-- `create_timer`; `none` when `timer_create` fails and the process exits. -/
def createTimer (handler : TimerHandler) (created : Option TimerId)
    (s : TimedDaemon) : Option (TimerId × TimedDaemon) := do
  let id ← created
  let timers ← create id handler s.timers
  some (id, { s with timers })

/-- `start_timer`: in 30 seconds, and then every 30 seconds. -/
def startTimer (id : TimerId) (s : TimedDaemon) : TimedDaemon :=
  { s with timers := settime id (s.now + 30) interval s.timers }

/-- `is_timer_active`; an id that the kernel does not know is forgotten. -/
def isTimerActive (handler : TimerHandler) (s : TimedDaemon) :
    Bool × TimedDaemon :=
  if s.timerId handler = 0 then (false, s)
  else
    match gettime (s.timerId handler) s.timers with
    | some active => (active, s)
    | none => (false, s.setTimerId handler 0)

/-- `path_event_handler` and `resv_event_handler`. -/
def eventHandler (handler : TimerHandler) (created : Option TimerId)
    (s : TimedDaemon) : Option TimedDaemon :=
  let (active, s) := s.isTimerActive handler
  if active then some s
  else do
    let (id, s) ← s.createTimer handler created
    some ((s.setTimerId handler id).startTimer id)

def pathEventHandler (created : Option TimerId) (s : TimedDaemon) :
    Option TimedDaemon := s.eventHandler .path created

def resvEventHandler (created : Option TimerId) (s : TimedDaemon) :
    Option TimedDaemon := s.eventHandler .resv created

end TimedDaemon

open TimedDaemon

/-- `created` is what `timer_create` gives if the event calls it. -/
inductive TimedEvent where
  | wait (seconds : Nat)
  | datagram (env : Env) (created : Option TimerId) (buffer : Buffer)
  | expire (timer : Timer TimerId TimerHandler) (env : Env)

/-- What the loop of `main` does about the timers for a datagram. -/
def mainTimers (created : Option TimerId) (buffer : Buffer)
    (s : TimedDaemon) : Option TimedDaemon :=
  if (recvHeader buffer).msgType = pathMsgType then
    s.resvEventHandler created
  else if (recvHeader buffer).msgType = resvMsgType then
    s.pathEventHandler created
  else some s

def TimerHandler.run (env : Env) (d : Daemon) : TimerHandler → Daemon
  | .path => pathTimerHandler env d
  | .resv => resvTimerHandler env d

/-- One event; `none` when it cannot happen or the process ends. -/
def timedStep (s : TimedDaemon) : TimedEvent → Option TimedDaemon
  | .wait seconds => some { s with now := s.now + seconds }
  | .datagram env created buffer =>
      if env.now = s.now then do
        let s ← mainTimers created buffer s
        let daemon ← mainReceive env buffer s.daemon
        some { s with daemon }
      else none
  | .expire timer env =>
      if env.now = s.now ∧ timer ∈ s.timers ∧
          timer.expiry.any (· ≤ s.now) then
        some { s with daemon := timer.task.run env s.daemon,
                      timers := reload timer.id s.now s.timers }
      else none

def withoutTimers (env : Env) (config : TunnelConfig) : TimedDaemon :=
  { daemon := startup env config, timers := [], pathTimer := 0,
    resvTimer := 0, now := env.now }

/-- `main` up to its receive loop. -/
def timedStartup (env : Env) (config : TunnelConfig)
    (created : Option TimerId) : Option TimedDaemon :=
  (withoutTimers env config).pathEventHandler created

/-- What an event is to the daemon without its timers. -/
def TimedEvent.event? : TimedEvent → Option Event
  | .wait _ => none
  | .datagram env _ buffer => some (.datagram env buffer)
  | .expire timer env =>
      match timer.task with
      | .path => some (.pathTimer env)
      | .resv => some (.resvTimer env)

def daemonEvents (events : List TimedEvent) : List Event :=
  events.filterMap TimedEvent.event?

/-- The variable of each timer names it.  Only a timer with the id 0 can be
one that no variable names. -/
structure Timers (s : TimedDaemon) : Prop where
  nodup : (s.timers.map Timer.id).Nodup
  armed : ∀ timer ∈ s.timers, ∃ due, timer.expiry = some due
  owned : ∀ timer ∈ s.timers,
    timer.id = s.timerId timer.task ∨ timer.id = 0
  named : ∀ handler, s.timerId handler ≠ 0 →
    ∃ timer ∈ s.timers, timer.id = s.timerId handler ∧ timer.task = handler

/-- The timer of a handler, armed. -/
def TimerHandler.armed (handler : TimerHandler) (id : TimerId) (due : Int) :
    Timer TimerId TimerHandler :=
  { id, task := handler, expiry := some due, period := interval }

/-- One timer more, that its variable names. -/
def TimedDaemon.withTimer (handler : TimerHandler) (id : TimerId)
    (s : TimedDaemon) : TimedDaemon :=
  { s.setTimerId handler id with
    timers := s.timers ++ [handler.armed id (s.now + 30)] }

/-- A timer expired and is armed again. -/
def TimedDaemon.reloaded (id : TimerId) (s : TimedDaemon) : TimedDaemon :=
  { s with timers := reload id s.now s.timers }

/-- What an event handler comes to. -/
inductive HandlesEvent (handler : TimerHandler) (created : Option TimerId)
    (s s' : TimedDaemon) : Prop
  | active (set : s.timerId handler ≠ 0) (result : s' = s)
  | created (id : TimerId) (answer : created = some id)
      (unset : s.timerId handler = 0)
      (fresh : ∀ timer ∈ s.timers, timer.id ≠ id)
      (result : s' = s.withTimer handler id)

section EventHandlers

variable {handler other : TimerHandler} {created : Option TimerId}
  {s s' : TimedDaemon}

@[simp] theorem withTimer_frame (id : TimerId) :
    (s.withTimer handler id).daemon = s.daemon ∧
      (s.withTimer handler id).now = s.now := by
  cases handler <;> exact ⟨rfl, rfl⟩

theorem timerId_withTimer (id : TimerId) :
    (s.withTimer handler id).timerId other =
      if other = handler then id else s.timerId other := by
  cases handler <;> cases other <;> rfl

@[simp] theorem timerId_reloaded (id : TimerId) :
    (s.reloaded id).timerId handler = s.timerId handler := by
  cases handler <;> rfl

theorem armed_reloaded {id : TimerId}
    (member : handler.armed id s.now ∈ s.timers) :
    handler.armed id (s.now + 30) ∈ (s.reloaded id).timers := by
  refine mem_reload.mpr ⟨_, member, ?_⟩
  rw [if_pos (by rfl)]
  simp [TimerHandler.armed, next_self, interval]

theorem mem_reloaded_of_ne {id : TimerId}
    {timer : Timer TimerId TimerHandler} (member : timer ∈ s.timers)
    (different : timer.id ≠ id) : timer ∈ (s.reloaded id).timers :=
  mem_reload.mpr ⟨timer, member, (if_neg different).symm⟩

theorem mem_withTimer {id : TimerId}
    {timer : Timer TimerId TimerHandler} :
    timer ∈ (s.withTimer handler id).timers ↔
      timer ∈ s.timers ∨ timer = handler.armed id (s.now + 30) := by
  rw [withTimer, List.mem_append, List.mem_singleton]

theorem createTimer_some {id : TimerId} {next : TimedDaemon}
    (made : s.createTimer handler created = some (id, next)) :
    created = some id ∧ (∀ timer ∈ s.timers, timer.id ≠ id) ∧
      next = { s with timers := s.timers ++
        [{ id, task := handler, expiry := none, period := 0 }] } := by
  obtain ⟨id', answer, rest⟩ := Option.bind_eq_some_iff.mp made
  obtain ⟨timers, inKernel, result⟩ := Option.bind_eq_some_iff.mp rest
  cases result
  obtain ⟨fresh, rfl⟩ := create_some inKernel
  exact ⟨answer, fresh, rfl⟩

theorem eventHandler_cases (timers : Timers s)
    (handled : s.eventHandler handler created = some s') :
    HandlesEvent handler created s s' := by
  by_cases unset : s.timerId handler = 0
  · simp only [eventHandler, isTimerActive, if_pos unset,
      Bool.false_eq_true, if_false] at handled
    obtain ⟨⟨id, next⟩, made, result⟩ := Option.bind_eq_some_iff.mp handled
    obtain ⟨answer, fresh, rfl⟩ := createTimer_some made
    refine .created id answer unset fresh ?_
    rw [← Option.some.inj result]
    cases handler <;>
      simp [startTimer, setTimerId, settime_created fresh, withTimer,
        TimerHandler.armed]
  · obtain ⟨timer, member, same, _⟩ := timers.named handler unset
    obtain ⟨due, expiry⟩ := timers.armed timer member
    have found := find_of_mem timers.nodup member
    rw [same] at found
    simp only [eventHandler, isTimerActive, if_neg unset, gettime, found,
      Option.map_some, expiry, Option.isSome_some, if_true,
      Option.some_inj] at handled
    exact .active unset handled.symm

theorem HandlesEvent.timers (handles : HandlesEvent handler created s s')
    (timers : Timers s) : Timers s' := by
  cases handles with
  | active _ result => rwa [result]
  | created id answer unset fresh result =>
      subst result
      constructor
      · rw [withTimer, List.map_append, List.nodup_append]
        refine ⟨timers.nodup, List.nodup_singleton _, ?_⟩
        intro old inside new same
        obtain ⟨timer, member, rfl⟩ := List.mem_map.mp inside
        rw [List.map_singleton, List.mem_singleton] at same
        rw [same]
        exact fresh timer member
      · intro timer member
        rcases mem_withTimer.mp member with old | rfl
        · exact timers.armed timer old
        · exact ⟨_, rfl⟩
      · intro timer member
        rw [timerId_withTimer]
        rcases mem_withTimer.mp member with old | rfl
        · split
          case isTrue same =>
            -- The variable was 0, and so was what it named.
            have owned := timers.owned timer old
            rw [same, unset, or_self] at owned
            exact .inr owned
          case isFalse => exact timers.owned timer old
        · exact .inl (if_pos rfl).symm
      · intro other set
        rw [timerId_withTimer] at set ⊢
        split at set
        case isTrue same =>
          rw [if_pos same]
          exact ⟨_, mem_withTimer.mpr (.inr rfl), rfl, same.symm⟩
        case isFalse different =>
          rw [if_neg different]
          obtain ⟨timer, member, found⟩ := timers.named other set
          exact ⟨timer, mem_withTimer.mpr (.inl member), found⟩

end EventHandlers

section Steps

variable {s s' : TimedDaemon}

theorem Timers.of_same (timers : Timers s) (same : s'.timers = s.timers)
    (path : s'.pathTimer = s.pathTimer) (resv : s'.resvTimer = s.resvTimer) :
    Timers s' := by
  have ids (handler : TimerHandler) :
      s'.timerId handler = s.timerId handler := by
    cases handler
    · exact path
    · exact resv
  constructor
  · rw [same]
    exact timers.nodup
  · rw [same]
    exact timers.armed
  · simpa only [same, ids] using timers.owned
  · simpa only [same, ids] using timers.named

theorem Timers.reloaded (timers : Timers s) (id : TimerId) :
    Timers (s.reloaded id) := by
  have image (after : Timer TimerId TimerHandler)
      (member : after ∈ reload id s.now s.timers) :
      ∃ timer ∈ s.timers, after.id = timer.id ∧ after.task = timer.task ∧
        ∃ due, after.expiry = some due := by
    obtain ⟨timer, old, rfl⟩ := mem_reload.mp member
    obtain ⟨due, expiry⟩ := timers.armed timer old
    refine ⟨timer, old, ?_⟩
    split
    · exact ⟨rfl, rfl, _, by rw [expiry]; rfl⟩
    · exact ⟨rfl, rfl, due, expiry⟩
  constructor
  · rw [TimedDaemon.reloaded, reload_ids]
    exact timers.nodup
  · intro after member
    obtain ⟨_, _, _, _, armed⟩ := image after member
    exact armed
  · intro after member
    obtain ⟨timer, old, sameId, sameTask, _⟩ := image after member
    rw [timerId_reloaded, sameId, sameTask]
    exact timers.owned timer old
  · intro handler set
    rw [timerId_reloaded] at set ⊢
    obtain ⟨timer, old, named, task⟩ := timers.named handler set
    refine ⟨_, mem_reload.mpr ⟨timer, old, rfl⟩, ?_⟩
    split
    · exact ⟨named, task⟩
    · exact ⟨named, task⟩

/-- What the loop of `main` does about the timers. -/
inductive HandlesDatagram (created : Option TimerId) (buffer : Buffer)
    (s s' : TimedDaemon) : Prop
  | path (isPath : (recvHeader buffer).msgType = pathMsgType)
      (handles : HandlesEvent .resv created s s')
  | resv (isResv : (recvHeader buffer).msgType = resvMsgType)
      (handles : HandlesEvent .path created s s')
  | other (notPath : (recvHeader buffer).msgType ≠ pathMsgType)
      (notResv : (recvHeader buffer).msgType ≠ resvMsgType)
      (result : s' = s)

theorem mainTimers_cases {created : Option TimerId} {buffer : Buffer}
    (timers : Timers s) (handled : mainTimers created buffer s = some s') :
    HandlesDatagram created buffer s s' := by
  unfold mainTimers at handled
  split at handled
  case isTrue isPath => exact .path isPath (eventHandler_cases timers handled)
  case isFalse notPath =>
    split at handled
    case isTrue isResv =>
      exact .resv isResv (eventHandler_cases timers handled)
    case isFalse notResv =>
      exact .other notPath notResv (Option.some.inj handled).symm

theorem HandlesDatagram.timers {created : Option TimerId}
    {buffer : Buffer}
    (handles : HandlesDatagram created buffer s s') (timers : Timers s) :
    Timers s' := by
  cases handles with
  | path _ handles => exact handles.timers timers
  | resv _ handles => exact handles.timers timers
  | other _ _ result => rwa [result]

theorem HandlesDatagram.frame {created : Option TimerId}
    {buffer : Buffer}
    (handles : HandlesDatagram created buffer s s') :
    s'.daemon = s.daemon ∧ s'.now = s.now := by
  have event {handler : TimerHandler}
      (handles : HandlesEvent handler created s s') :
      s'.daemon = s.daemon ∧ s'.now = s.now := by
    cases handles with
    | active _ result => exact ⟨by rw [result], by rw [result]⟩
    | created id _ _ _ result =>
        rw [result]
        exact withTimer_frame id
  cases handles with
  | path _ handles => exact event handles
  | resv _ handles => exact event handles
  | other _ _ result => exact ⟨by rw [result], by rw [result]⟩

/-- What one event does. -/
inductive TimedMove (s s' : TimedDaemon) : TimedEvent → Prop
  | wait (seconds : Nat) (result : s' = { s with now := s.now + seconds }) :
      TimedMove s s' (.wait seconds)
  | datagram (env : Env) (created : Option TimerId) (buffer : Buffer)
      (next : TimedDaemon) (d : Daemon) (clock : env.now = s.now)
      (handles : HandlesDatagram created buffer s next)
      (taken : mainReceive env buffer s.daemon = some d)
      (result : s' = { next with daemon := d }) :
      TimedMove s s' (.datagram env created buffer)
  | expire (timer : Timer TimerId TimerHandler) (env : Env) (due : Int)
      (clock : env.now = s.now) (member : timer ∈ s.timers)
      (expiry : timer.expiry = some due) (late : due ≤ s.now)
      (result : s' = { s.reloaded timer.id with
        daemon := timer.task.run env s.daemon }) :
      TimedMove s s' (.expire timer env)

theorem timedStep_cases {event : TimedEvent} (timers : Timers s)
    (taken : timedStep s event = some s') : TimedMove s s' event := by
  cases event with
  | wait seconds => exact .wait seconds (Option.some.inj taken).symm
  | datagram env created buffer =>
      rw [timedStep] at taken
      split at taken
      case isFalse => cases taken
      case isTrue clock =>
        obtain ⟨next, handled, rest⟩ := Option.bind_eq_some_iff.mp taken
        obtain ⟨d, received, result⟩ := Option.bind_eq_some_iff.mp rest
        have handles := mainTimers_cases timers handled
        rw [handles.frame.1] at received
        exact .datagram env created buffer next d clock handles received
          (Option.some.inj result).symm
  | expire timer env =>
      rw [timedStep] at taken
      split at taken
      case isFalse => cases taken
      case isTrue allowed =>
        obtain ⟨clock, member, due⟩ := allowed
        cases expiry : timer.expiry with
        | none =>
            rw [expiry] at due
            cases due
        | some time =>
            rw [expiry] at due
            exact .expire timer env time clock member expiry
              (of_decide_eq_true due) (Option.some.inj taken).symm

theorem timedStep_timers {event : TimedEvent} (timers : Timers s)
    (taken : timedStep s event = some s') : Timers s' := by
  cases timedStep_cases timers taken with
  | wait seconds result =>
      rw [result]
      exact timers.of_same rfl rfl rfl
  | datagram env created buffer next d _ handles _ result =>
      rw [result]
      exact (handles.timers timers).of_same rfl rfl rfl
  | expire timer env due _ _ _ _ result =>
      rw [result]
      exact (timers.reloaded timer.id).of_same rfl rfl rfl

/-- To the daemon an event is one of its own events, or nothing. -/
theorem timedStep_event {event : TimedEvent} (timers : Timers s)
    (taken : timedStep s event = some s') :
    runEvents step s.daemon event.event?.toList = some s'.daemon := by
  cases timedStep_cases timers taken with
  | wait seconds result =>
      rw [result]
      rfl
  | datagram env created buffer next d _ _ received result =>
      rw [result]
      exact runEvents_cons.mpr ⟨d, received, rfl⟩
  | expire timer env due _ _ _ _ result =>
      rw [result]
      cases task : timer.task with
      | path => simp [TimedEvent.event?, task]; rfl
      | resv => simp [TimedEvent.event?, task]; rfl

end Steps

end Rsvpd
