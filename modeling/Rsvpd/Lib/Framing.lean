import Mathlib.Tactic.Common

/-!
# Walking objects that carry their own length

A reader that knows only where the first object starts, and how long the
object at a position says it is, moves from object to object.
-/

namespace Framing

/-- The objects met on the way from a position up to exactly `stop`. -/
inductive Walk (lengthAt : Nat → Nat) (stop : Nat) : Nat → List Nat → Prop
  | done : Walk lengthAt stop stop []
  | object {start : Nat} {objects : List Nat}
      (nonempty : 0 < lengthAt start)
      (inside : start + lengthAt start ≤ stop)
      (further : Walk lengthAt stop (start + lengthAt start) objects) :
      Walk lengthAt stop start (start :: objects)

/-- Where objects of the given sizes start when they lie side by side. -/
def starts (start : Nat) : List Nat → List Nat
  | [] => []
  | size :: sizes => start :: starts (start + size) sizes

def finish (start : Nat) (sizes : List Nat) : Nat :=
  sizes.foldl (· + ·) start

section Walks

variable {lengthAt : Nat → Nat} {stop start : Nat} {objects : List Nat}

theorem Walk.start_le (walk : Walk lengthAt stop start objects) :
    start ≤ stop := by
  cases walk with
  | done => exact Nat.le_refl stop
  | object _ inside _ =>
      exact Nat.le_trans (Nat.le_add_right start _) inside

theorem Walk.unique {others : List Nat}
    (walk : Walk lengthAt stop start objects)
    (other : Walk lengthAt stop start others) : objects = others := by
  induction walk generalizing others with
  | done =>
      cases other with
      | done => rfl
      | object nonempty inside _ => omega
  | object nonempty inside further ih =>
      cases other with
      | done => omega
      | object _ _ otherFurther => rw [ih otherFurther]

theorem Walk.of_sizes {sizes : List Nat}
    (declared : (starts start sizes).map lengthAt = sizes)
    (positive : ∀ size ∈ sizes, 0 < size) :
    Walk lengthAt (finish start sizes) start (starts start sizes) := by
  induction sizes generalizing start with
  | nil => exact .done
  | cons size sizes ih =>
      obtain ⟨here, rest⟩ := List.cons.inj declared
      have further : Walk lengthAt (finish start (size :: sizes))
          (start + lengthAt start) (starts (start + size) sizes) := by
        rw [here]
        exact ih rest fun other member =>
          positive other (List.mem_cons_of_mem size member)
      refine .object ?_ further.start_le further
      rw [here]
      exact positive size List.mem_cons_self

end Walks

end Framing
