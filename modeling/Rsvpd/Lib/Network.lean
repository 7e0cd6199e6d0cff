import Mathlib.Data.List.Induction
import Mathlib.Logic.Function.Basic

/-!
# Nodes and messages in flight

A configuration gives every node its state and every sender the messages that
it sent and that are still in flight, oldest first.  Messages may be taken
from flight in any order.
-/

namespace Network

structure Config (Node State Message : Type*) where
  state : Node → State
  flight : Node → List Message

variable {Node State Message : Type*} [DecidableEq Node]

namespace Config

/-- A node goes to a state and sends messages. -/
def become (node : Node) (state : State) (sent : List Message)
    (config : Config Node State Message) : Config Node State Message :=
  { state := Function.update config.state node state
    flight := Function.update config.flight node
      (config.flight node ++ sent) }

/-- One message of a sender leaves its flight. -/
def remove (sender : Node) (index : Nat)
    (config : Config Node State Message) : Config Node State Message :=
  { config with
    flight := Function.update config.flight sender
      ((config.flight sender).eraseIdx index) }

section Lookups

variable {node other sender : Node} {state : State} {sent : List Message}
  {index : Nat} {config : Config Node State Message}

@[simp] theorem become_state_self :
    (config.become node state sent).state node = state :=
  Function.update_self ..

@[simp] theorem become_state_of_ne (different : other ≠ node) :
    (config.become node state sent).state other = config.state other :=
  Function.update_of_ne different ..

@[simp] theorem become_flight_self :
    (config.become node state sent).flight node =
      config.flight node ++ sent :=
  Function.update_self ..

@[simp] theorem become_flight_of_ne (different : other ≠ node) :
    (config.become node state sent).flight other = config.flight other :=
  Function.update_of_ne different ..

@[simp] theorem remove_state :
    (config.remove sender index).state = config.state := rfl

@[simp] theorem remove_flight_self :
    (config.remove sender index).flight sender =
      (config.flight sender).eraseIdx index :=
  Function.update_self ..

@[simp] theorem remove_flight_of_ne (different : other ≠ sender) :
    (config.remove sender index).flight other = config.flight other :=
  Function.update_of_ne different ..

end Lookups

/-- Each node and each message in flight meets a condition of its own. -/
structure All (ok : Node → State → Prop) (carries : Node → Message → Prop)
    (config : Config Node State Message) : Prop where
  node : ∀ node, ok node (config.state node)
  message : ∀ sender, ∀ message ∈ config.flight sender, carries sender message

namespace All

variable {ok : Node → State → Prop} {carries : Node → Message → Prop}
  {config : Config Node State Message} {node sender : Node} {state : State}
  {sent : List Message}

theorem become (all : config.All ok carries) (keeps : ok node state)
    (sends : ∀ message ∈ sent, carries node message) :
    (config.become node state sent).All ok carries := by
  constructor
  · intro other
    by_cases same : other = node
    · subst same
      rwa [become_state_self]
    · rw [become_state_of_ne same]
      exact all.node other
  · intro other message member
    by_cases same : other = node
    · subst same
      rw [become_flight_self] at member
      rcases List.mem_append.mp member with before | new
      · exact all.message other message before
      · exact sends message new
    · rw [become_flight_of_ne same] at member
      exact all.message other message member

theorem remove (all : config.All ok carries) (index : Nat) :
    (config.remove sender index).All ok carries := by
  constructor
  · exact all.node
  · intro other message member
    by_cases same : other = sender
    · subst same
      rw [remove_flight_self] at member
      exact all.message other message (List.mem_of_mem_eraseIdx member)
    · rw [remove_flight_of_ne same] at member
      exact all.message other message member

end All

end Config

theorem filterMap_split {Value : Type*} (value : Message → Option Value)
    {flight : List Message} {index : Nat} {message : Message}
    (inFlight : flight[index]? = some message) :
    flight.filterMap value = (flight.take index).filterMap value ++
        ((value message).toList ++
          (flight.drop (index + 1)).filterMap value) ∧
      (flight.eraseIdx index).filterMap value =
        (flight.take index).filterMap value ++
          (flight.drop (index + 1)).filterMap value := by
  obtain ⟨inRange, rfl⟩ := List.getElem?_eq_some_iff.mp inFlight
  constructor
  · conv => lhs; rw [← List.take_append_drop index flight,
      List.drop_eq_getElem_cons inRange]
    rw [List.filterMap_append, List.filterMap_cons]
    cases value flight[index] <;> rfl
  · rw [List.eraseIdx_eq_take_drop_succ, List.filterMap_append]

/-- A receiver that keeps the first value it takes will come to hold `value`:
the newest value in flight is `value`, or none is in flight and the receiver
holds no other. -/
def Announced {Value : Type*} (values : List Value) (held : Option Value)
    (value : Value) : Prop :=
  match values.getLast? with
  | some newest => newest = value
  | none => ∀ old ∈ held, old = value

namespace Announced

variable {Value : Type*} {values front post new : List Value}
  {held held' : Option Value} {value taken : Value}

theorem of_nil (agrees : ∀ old ∈ held, old = value) :
    Announced [] held value := agrees

theorem agrees (announced : Announced [] held value) :
    ∀ old ∈ held, old = value := announced

theorem newest {newest : Value} :
    Announced (values ++ [newest]) held value ↔ newest = value := by
  rw [Announced, List.getLast?_concat]

theorem sent (some : new ≠ []) (own : ∀ other ∈ new, other = value) :
    Announced (values ++ new) held value := by
  cases new using List.reverseRecOn with
  | nil => exact absurd rfl some
  | append_singleton new last =>
      rw [← List.append_assoc]
      exact newest.mpr (own last (by simp))

theorem send (announced : Announced values held value)
    (own : ∀ other ∈ new, other = value) :
    Announced (values ++ new) held value := by
  by_cases none : new = []
  · rwa [none, List.append_nil]
  · exact sent none own

theorem mono (announced : Announced values held value)
    (fewer : ∀ old ∈ held', old ∈ held) : Announced values held' value := by
  cases values using List.reverseRecOn with
  | nil =>
      exact of_nil fun old member => announced.agrees old (fewer old member)
  | append_singleton values last => exact newest.mpr (newest.mp announced)

/-- The receiver takes a value from which none in flight before it differs,
and then holds no other. -/
theorem receive (announced : Announced (front ++ taken :: post) held value)
    (older : ∀ other ∈ front, other = taken)
    (holds : ∀ old ∈ held', old = taken) :
    Announced (front ++ post) held' value := by
  cases post using List.reverseRecOn with
  | append_singleton post last =>
      rw [← List.cons_append, ← List.append_assoc] at announced
      rw [← List.append_assoc]
      exact newest.mpr (newest.mp announced)
  | nil =>
      have same : taken = value := newest.mp announced
      rw [List.append_nil, ← same]
      cases front using List.reverseRecOn with
      | nil => exact of_nil holds
      | append_singleton front last =>
          exact newest.mpr (older last (by simp))

end Announced

end Network
