import Mathlib.Data.Finset.Basic
import Mathlib.Data.List.Induction

/-!
# Lock discipline on a trace

A trace records what one thread does with its locks and with the variables
that they guard.  It keeps the discipline when it writes a guarded variable
and releases a lock only while it holds that lock, and takes a lock only while
it holds no other.
-/

namespace Locks

inductive Op (Lock : Type*) where
  | acquire (lock : Lock)
  | release (lock : Lock)
  /-- A write to the variable that the lock guards. -/
  | write (lock : Lock)
  | unrelated

variable {Lock : Type*} [DecidableEq Lock]

namespace Op

def after (held : Finset Lock) : Op Lock → Finset Lock
  | acquire lock => insert lock held
  | release lock => held.erase lock
  | write _ => held
  | unrelated => held

/-- What the discipline asks of an operation. -/
def Allowed (held : Finset Lock) : Op Lock → Prop
  | acquire lock => ∀ another ∈ held, another = lock
  | release lock => lock ∈ held
  | write lock => lock ∈ held
  | unrelated => True

end Op

def heldAfter (trace : List (Op Lock)) : Finset Lock :=
  trace.foldl Op.after ∅

/-- Every operation is allowed by the locks held in front of it. -/
def Disciplined (trace : List (Op Lock)) : Prop :=
  ∀ front op back, trace = front ++ op :: back → op.Allowed (heldAfter front)

/-- A disciplined trace that ends without a lock. -/
structure Clean (trace : List (Op Lock)) : Prop where
  disciplined : Disciplined trace
  released : heldAfter trace = ∅

variable {first second trace : List (Op Lock)}

theorem heldAfter_append (first second : List (Op Lock)) :
    heldAfter (first ++ second) = second.foldl Op.after (heldAfter first) :=
  List.foldl_append

theorem Clean.heldAfter_append (clean : Clean first)
    (second : List (Op Lock)) :
    heldAfter (first ++ second) = heldAfter second := by
  rw [Locks.heldAfter_append, clean.released]
  rfl

theorem Disciplined.of_append (disciplined : Disciplined (first ++ second)) :
    Disciplined first := by
  intro front op back shape
  refine disciplined front op (back ++ second) ?_
  rw [shape, List.append_assoc, List.cons_append]

theorem disciplined_concat_iff {op : Op Lock} :
    Disciplined (trace ++ [op]) ↔
      Disciplined trace ∧ op.Allowed (heldAfter trace) := by
  constructor
  · intro disciplined
    exact ⟨disciplined.of_append, disciplined trace op [] rfl⟩
  · rintro ⟨disciplined, allowed⟩ front other back shape
    cases back using List.reverseRecOn with
    | nil =>
        obtain ⟨rfl, same⟩ := List.append_inj' shape rfl
        exact (List.cons.inj same).1 ▸ allowed
    | append_singleton back last =>
        rw [← List.cons_append, ← List.append_assoc] at shape
        exact disciplined front other back (List.append_inj' shape rfl).1

theorem Clean.disciplined_append_iff (clean : Clean first) :
    Disciplined (first ++ second) ↔ Disciplined second := by
  constructor
  · intro disciplined front op back shape
    rw [← clean.heldAfter_append]
    refine disciplined (first ++ front) op back ?_
    rw [shape, List.append_assoc]
  · intro disciplined front op back shape
    rcases List.append_eq_append_iff.mp shape with
      ⟨middle, rfl, rest⟩ | ⟨middle, rfl, rest⟩
    · rw [clean.heldAfter_append]
      exact disciplined middle op back rest
    · cases middle with
      | nil =>
          rw [List.append_nil] at clean
          have whole := clean.heldAfter_append []
          rw [List.append_nil] at whole
          rw [whole]
          exact disciplined [] op back rest.symm
      | cons head middle =>
          cases (List.cons.inj rest).1
          exact clean.disciplined front op middle rfl

theorem Clean.nil : Clean ([] : List (Op Lock)) where
  disciplined front op back shape := by simp at shape
  released := rfl

theorem Clean.append (clean : Clean first) (next : Clean second) :
    Clean (first ++ second) where
  disciplined := clean.disciplined_append_iff.mpr next.disciplined
  released := by rw [clean.heldAfter_append, next.released]

theorem Clean.unrelated : Clean [(Op.unrelated : Op Lock)] where
  disciplined := by
    rw [← List.nil_append [_], disciplined_concat_iff]
    exact ⟨Clean.nil.disciplined, trivial⟩
  released := rfl

/-- A critical section: between taking and releasing a lock, only the
variable that it guards is written. -/
theorem Clean.criticalSection {lock : Lock} (body : List (Op Lock))
    (inside : ∀ op ∈ body, op = .write lock ∨ op = .unrelated) :
    Clean (.acquire lock :: body ++ [.release lock]) := by
  have entered : Disciplined (.acquire lock :: body) ∧
      heldAfter (.acquire lock :: body) = {lock} := by
    induction body using List.reverseRecOn with
    | nil =>
        refine ⟨?_, rfl⟩
        exact disciplined_concat_iff.mpr ⟨Clean.nil.disciplined, by
          intro another held
          cases held⟩
    | append_singleton body op ih =>
        obtain ⟨disciplined, held⟩ := ih fun other member =>
          inside other (List.mem_append_left _ member)
        rw [← List.cons_append, disciplined_concat_iff,
          Locks.heldAfter_append, held]
        rcases inside op (List.mem_append_right _ List.mem_cons_self) with
          rfl | rfl
        · exact ⟨⟨disciplined, Finset.mem_singleton_self lock⟩, rfl⟩
        · exact ⟨⟨disciplined, trivial⟩, rfl⟩
  constructor
  · rw [disciplined_concat_iff, entered.2]
    exact ⟨entered.1, Finset.mem_singleton_self lock⟩
  · rw [Locks.heldAfter_append, entered.2]
    exact Finset.erase_singleton lock

theorem Clean.not_release (clean : Clean trace) (lock : Lock) :
    ¬Disciplined (trace ++ [.release lock]) := by
  rw [disciplined_concat_iff, clean.released]
  rintro ⟨_, held⟩
  cases held

theorem Clean.not_write (clean : Clean trace) (lock : Lock) :
    ¬Disciplined (trace ++ [.write lock]) := by
  rw [disciplined_concat_iff, clean.released]
  rintro ⟨_, held⟩
  cases held

end Locks
