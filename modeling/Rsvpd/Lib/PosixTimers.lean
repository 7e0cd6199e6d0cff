import Mathlib.Data.List.Nodup
import Mathlib.Tactic.Common

/-!
# Timers of a process

The timers that a process has in the kernel: `timer_create`, `timer_settime`
and `timer_gettime` with times in seconds, and the expiry of a periodic timer.
-/

namespace PosixTimers

structure Timer (Id Task : Type*) where
  id : Id
  task : Task
  /-- When an armed timer expires next. -/
  expiry : Option Int
  period : Int
deriving DecidableEq

variable {Id Task : Type*} [DecidableEq Id]

def find (id : Id) (timers : List (Timer Id Task)) :
    Option (Timer Id Task) := timers.find? fun timer => timer.id = id

/-- A new timer is disarmed.  The kernel never gives an id that is in use. -/
def create (id : Id) (task : Task) (timers : List (Timer Id Task)) :
    Option (List (Timer Id Task)) :=
  if find id timers = none then
    some (timers ++ [{ id, task, expiry := none, period := 0 }])
  else none

def settime (id : Id) (expiry period : Int) (timers : List (Timer Id Task)) :
    List (Timer Id Task) :=
  timers.map fun timer =>
    if timer.id = id then { timer with expiry := some expiry, period }
    else timer

/-- Whether the timer is armed; `none` for an unknown id. -/
def gettime (id : Id) (timers : List (Timer Id Task)) : Option Bool :=
  (find id timers).map fun timer => timer.expiry.isSome

/-- The first expiry behind `now` of a timer that was due. -/
def next (due period now : Int) : Int :=
  due + period * ((now - due) / period + 1)

/-- The timer expired and is armed again. -/
def reload (id : Id) (now : Int) (timers : List (Timer Id Task)) :
    List (Timer Id Task) :=
  timers.map fun timer =>
    if timer.id = id then
      { timer with
        expiry := timer.expiry.map fun due => next due timer.period now }
    else timer

section Lemmas

variable {id : Id} {task : Task} {timers created : List (Timer Id Task)}
  {timer : Timer Id Task}

theorem next_self (due period : Int) : next due period due = due + period := by
  simp [next]

theorem find_eq_none : find id timers = none ↔
    ∀ timer ∈ timers, timer.id ≠ id := by
  simp [find]

theorem create_some (made : create id task timers = some created) :
    (∀ timer ∈ timers, timer.id ≠ id) ∧
      created = timers ++ [{ id, task, expiry := none, period := 0 }] := by
  unfold create at made
  split at made
  case isTrue fresh =>
    exact ⟨find_eq_none.mp fresh, (Option.some.inj made).symm⟩
  case isFalse => cases made

theorem settime_created (fresh : ∀ timer ∈ timers, timer.id ≠ id)
    (expiry period : Int) :
    settime id expiry period
        (timers ++ [{ id, task, expiry := none, period := 0 }]) =
      timers ++ [{ id, task, expiry := some expiry, period }] := by
  have kept : settime id expiry period timers = timers :=
    (List.map_congr_left fun timer member =>
      if_neg (fresh timer member)).trans (List.map_id' timers)
  rw [settime] at kept ⊢
  rw [List.map_append, kept]
  simp

theorem find_of_mem (nodup : (timers.map Timer.id).Nodup)
    (member : timer ∈ timers) : find timer.id timers = some timer := by
  cases found : find timer.id timers with
  | none => exact absurd rfl (find_eq_none.mp found timer member)
  | some other =>
      have inside := List.mem_of_find?_eq_some found
      have same : other.id = timer.id := by
        simpa using List.find?_some found
      rw [List.inj_on_of_nodup_map nodup inside member same]

@[simp] theorem reload_ids (now : Int) :
    (reload id now timers).map Timer.id = timers.map Timer.id := by
  rw [reload, List.map_map]
  congr 1
  funext timer
  simp only [Function.comp_apply]
  split <;> rfl

theorem mem_reload {now : Int} {after : Timer Id Task} :
    after ∈ reload id now timers ↔ ∃ timer ∈ timers,
      after = if timer.id = id then
        { timer with
          expiry := timer.expiry.map fun due => next due timer.period now }
      else timer := by
  simp only [reload, List.mem_map, eq_comm]

end Lemmas

end PosixTimers
