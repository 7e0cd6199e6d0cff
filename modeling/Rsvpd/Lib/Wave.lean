import Mathlib.Algebra.BigOperators.Group.Finset.Piecewise
import Mathlib.Logic.Function.Basic
import Mathlib.Logic.Relation
import Mathlib.Tactic.Common

/-!
# A wave down a line and back

Nodes stand in a line from 0 to `last`.  A node that takes a request is asked
and passes the request on; the last node answers it.  A node that takes a
reply for the first time has answered and passes a reply on.  Nodes may repeat
what they sent, and messages may be lost.
-/

namespace Wave

/-- Who was asked, who has answered, and how many messages of each node are
in flight: requests to the node behind it, replies to the one before it. -/
@[ext] structure State where
  asked : Nat → Bool
  answered : Nat → Bool
  requests : Nat → Nat
  replies : Nat → Nat

namespace State

/-- A node sends requests. -/
def sendRequests (node count : Nat) (s : State) : State :=
  { s with
    requests := Function.update s.requests node (s.requests node + count) }

def sendReplies (node count : Nat) (s : State) : State :=
  { s with
    replies := Function.update s.replies node (s.replies node + count) }

/-- A request leaves flight. -/
def dropRequest (node : Nat) (s : State) : State :=
  { s with
    requests := Function.update s.requests node (s.requests node - 1) }

def dropReply (node : Nat) (s : State) : State :=
  { s with replies := Function.update s.replies node (s.replies node - 1) }

/-- A node takes a request. -/
def ask (last node : Nat) (s : State) : State :=
  let s := { s with asked := Function.update s.asked node true }
  if node = last then
    sendReplies node 1
      { s with answered := Function.update s.answered node true }
  else s.sendRequests node 1

/-- A node takes a reply; only the first one counts. -/
def answer (node : Nat) (s : State) : State :=
  if s.asked node = true ∧ s.answered node = false then
    sendReplies node (if node = 0 then 0 else 1)
      { s with answered := Function.update s.answered node true }
  else s

end State

inductive Kind where
  | deliver
  | repeats
  | lose
deriving DecidableEq

open State

inductive Step (last : Nat) (s : State) : Kind → State → Prop
  | request (node : Nat) (within : node < last)
      (flying : 0 < s.requests node) :
      Step last s .deliver ((s.dropRequest node).ask last (node + 1))
  | reply (node : Nat) (within : node < last)
      (flying : 0 < s.replies (node + 1)) :
      Step last s .deliver ((s.dropReply (node + 1)).answer node)
  | idle : Step last s .repeats s
  | requests (node count : Nat) (within : node < last)
      (asked : s.asked node = true) :
      Step last s .repeats (s.sendRequests node count)
  | replies (node count : Nat) (inner : 0 < node)
      (answered : s.answered node = true) :
      Step last s .repeats (s.sendReplies node count)
  | loseRequest (node : Nat) (flying : 0 < s.requests node) :
      Step last s .lose (s.dropRequest node)
  | loseReply (node : Nat) (flying : 0 < s.replies node) :
      Step last s .lose (s.dropReply node)

/-- Node 0 is asked, and its request is in flight. -/
def start : State where
  asked node := node = 0
  answered _ := false
  requests node := if node = 0 then 1 else 0
  replies _ := 0

/-- What a node knows or sends, it learned: requests come from asked nodes and
replies from nodes that have answered, and both facts reach back along the
line. -/
structure Grounded (last : Nat) (s : State) : Prop where
  asked : ∀ node < last, s.asked (node + 1) = true → s.asked node = true
  answered : ∀ node < last, s.answered node = true →
    s.answered (node + 1) = true
  answersAsked : ∀ node, s.answered node = true → s.asked node = true
  requests : ∀ node, 0 < s.requests node → s.asked node = true
  replies : ∀ node, 0 < s.replies node → s.answered node = true

theorem start_grounded (last : Nat) : Grounded last start := by
  constructor <;> grind [start]

variable {last : Nat} {s s' : State} {kind : Kind}

theorem Grounded.step (grounded : Grounded last s)
    (taken : Step last s kind s') : Grounded last s' := by
  obtain ⟨asked, answered, answersAsked, requests, replies⟩ := grounded
  cases taken with
  | request node within flying =>
      have sender := requests node flying
      unfold ask dropRequest
      split
      all_goals
        constructor <;>
          simp only [sendReplies, sendRequests, Function.update_apply] <;>
          grind
  | reply node within flying =>
      have sender := replies (node + 1) flying
      unfold answer dropReply
      split
      all_goals
        constructor <;>
          simp only [sendReplies, Function.update_apply] <;> grind
  | idle => exact ⟨asked, answered, answersAsked, requests, replies⟩
  | requests node count within held =>
      refine ⟨asked, answered, answersAsked, ?_, replies⟩
      simp only [sendRequests, Function.update_apply]
      grind
  | replies node count inner held =>
      refine ⟨asked, answered, answersAsked, requests, ?_⟩
      simp only [sendReplies, Function.update_apply]
      grind
  | loseRequest node flying =>
      refine ⟨asked, answered, answersAsked, ?_, replies⟩
      simp only [dropRequest, Function.update_apply]
      grind
  | loseReply node flying =>
      refine ⟨asked, answered, answersAsked, requests, ?_⟩
      simp only [dropReply, Function.update_apply]
      grind

/-- Where the wave has come to, a message is on its way to carry it on. -/
structure Advancing (last : Nat) (s : State) : Prop where
  first : s.asked 0 = true
  request : ∀ node < last, s.asked node = true →
    s.asked (node + 1) = true ∨ 0 < s.requests node
  turn : s.asked last = true → s.answered last = true
  reply : ∀ node < last, s.answered (node + 1) = true →
    s.answered node = true ∨ 0 < s.replies (node + 1)

theorem start_advancing {last : Nat} (some : 0 < last) :
    Advancing last start := by
  constructor <;> grind [start]

theorem Advancing.step (advancing : Advancing last s)
    (grounded : Grounded last s) (taken : Step last s kind s')
    (kept : kind ≠ .lose) : Advancing last s' := by
  obtain ⟨first, request, turn, reply⟩ := advancing
  cases taken with
  | request node within flying =>
      unfold ask dropRequest
      split
      all_goals
        constructor <;>
          simp only [sendReplies, sendRequests, Function.update_apply] <;>
          grind
  | reply node within flying =>
      have sender := grounded.replies (node + 1) flying
      have heard : s.asked node = true :=
        grounded.asked node within (grounded.answersAsked _ sender)
      unfold answer dropReply
      split
      all_goals
        constructor <;>
          simp only [sendReplies, Function.update_apply] <;> grind
  | idle => exact ⟨first, request, turn, reply⟩
  | requests node count within held =>
      refine ⟨first, ?_, turn, reply⟩
      simp only [sendRequests, Function.update_apply]
      grind
  | replies node count inner held =>
      refine ⟨first, request, turn, ?_⟩
      simp only [sendReplies, Function.update_apply]
      grind
  | loseRequest node flying => exact absurd rfl kept
  | loseReply node flying => exact absurd rfl kept

/-- The reply of the node behind has been taken or is on its way. -/
def State.Joined (s : State) (node : Nat) : Prop :=
  s.answered (node + 1) = true →
    s.answered node = true ∨ 0 < s.replies (node + 1)

theorem all_answered (turned : s.answered last = true)
    (joined : ∀ node < last, s.Joined node)
    (noReply : ∀ node ≤ last, s.replies node = 0) :
    ∀ node ≤ last, s.answered node = true := by
  have answered : ∀ behind ≤ last, s.answered (last - behind) = true := by
    intro behind within
    induction behind with
    | zero => exact turned
    | succ behind ih =>
        have next : last - (behind + 1) + 1 = last - behind := by omega
        have here := joined (last - (behind + 1)) (by omega)
          (next ▸ ih (by omega))
        rwa [noReply _ (by omega), or_iff_left (Nat.lt_irrefl 0)] at here
  intro node within
  rw [← Nat.sub_sub_self within]
  exact answered (last - node) (Nat.sub_le ..)

/-- When nothing is in flight any more, every node was asked and has
answered. -/
theorem Advancing.complete (advancing : Advancing last s)
    (noRequest : ∀ node ≤ last, s.requests node = 0)
    (noReply : ∀ node ≤ last, s.replies node = 0) :
    ∀ node ≤ last, s.asked node = true ∧ s.answered node = true := by
  have asked : ∀ node ≤ last, s.asked node = true := by
    intro node within
    induction node with
    | zero => exact advancing.first
    | succ node ih =>
        have here := advancing.request node within (ih (by omega))
        rwa [noRequest node (by omega), or_iff_left (Nat.lt_irrefl 0)] at here
  exact fun node within => ⟨asked node within, all_answered
    (advancing.turn (asked last le_rfl)) advancing.reply noReply node within⟩

theorem Step.keeps (taken : Step last s kind s') (node : Nat) :
    (s.asked node = true → s'.asked node = true) ∧
      (s.answered node = true → s'.answered node = true) := by
  cases taken with
  | request sender within flying =>
      unfold ask dropRequest
      split
      all_goals
        simp only [sendReplies, sendRequests, Function.update_apply]
        grind
  | reply sender within flying =>
      unfold answer dropReply
      split
      all_goals
        simp only [sendReplies, Function.update_apply]
        grind
  | _ => exact ⟨id, id⟩

/-- All nodes were asked.  A new request is on its way to the last one or has
been answered by it, and no node in between has kept its reply to itself. -/
structure Rejoining (last : Nat) (s : State) : Prop where
  asked : ∀ node ≤ last, s.asked node = true
  inner : ∀ node, node + 1 < last → s.Joined node
  turn : (∃ node < last, 0 < s.requests node) ∨
    s.answered last = true ∧ ∀ node < last, s.Joined node

theorem State.Joined.step (taken : Step last s kind s') (kept : kind ≠ .lose)
    (asked : ∀ node ≤ last, s.asked node = true) {node : Nat}
    (within : node < last) (joined : s.Joined node) : s'.Joined node := by
  have heard := asked node (by omega)
  unfold State.Joined at *
  cases taken with
  | request sender inside flying =>
      unfold ask dropRequest
      split
      all_goals
        simp only [sendReplies, sendRequests, Function.update_apply]
        grind
  | reply sender inside flying =>
      unfold answer dropReply
      split
      all_goals
        simp only [sendReplies, Function.update_apply]
        grind
  | replies sender count inner held =>
      simp only [sendReplies, Function.update_apply]
      grind
  | loseRequest sender flying => exact absurd rfl kept
  | loseReply sender flying => exact absurd rfl kept
  | _ => exact joined

theorem Step.request_turns (taken : Step last s kind s') (kept : kind ≠ .lose)
    {node : Nat} (within : node < last) (flying : 0 < s.requests node) :
    (∃ node < last, 0 < s'.requests node) ∨
      s'.answered last = true ∧ 0 < s'.replies last := by
  cases taken with
  | request sender inside sent =>
      unfold ask dropRequest
      split
      case isTrue turn => simp [sendReplies, turn]
      case isFalse passes =>
        exact .inl ⟨sender + 1, by omega, by simp [sendRequests]⟩
  | reply sender inside sent =>
      refine .inl ⟨node, within, ?_⟩
      unfold answer
      split <;> exact flying
  | requests sender count inside asked =>
      refine .inl ⟨node, within, ?_⟩
      simp only [sendRequests, Function.update_apply]
      grind
  | loseRequest sender sent => exact absurd rfl kept
  | loseReply sender sent => exact absurd rfl kept
  | _ => exact .inl ⟨node, within, flying⟩

theorem Rejoining.step (rejoining : Rejoining last s)
    (taken : Step last s kind s') (kept : kind ≠ .lose) :
    Rejoining last s' := by
  obtain ⟨asked, inner, turn⟩ := rejoining
  have inner' : ∀ node, node + 1 < last → s'.Joined node :=
    fun node within =>
      (inner node within).step taken kept asked (by omega)
  refine ⟨fun node within => (taken.keeps node).1 (asked node within), inner',
    ?_⟩
  rcases turn with ⟨node, within, flying⟩ | ⟨turned, joined⟩
  · refine (taken.request_turns kept within flying).imp_right ?_
    rintro ⟨turned, replied⟩
    refine ⟨turned, fun other inside => ?_⟩
    by_cases next : other + 1 = last
    · intro _
      rw [next]
      exact .inr replied
    · exact inner' other (by omega)
  · exact .inr ⟨(taken.keeps last).2 turned, fun node within =>
      (joined node within).step taken kept asked within⟩

theorem Rejoining.complete (rejoining : Rejoining last s)
    (noRequest : ∀ node ≤ last, s.requests node = 0)
    (noReply : ∀ node ≤ last, s.replies node = 0) :
    ∀ node ≤ last, s.answered node = true := by
  rcases rejoining.turn with ⟨node, within, flying⟩ | ⟨turned, joined⟩
  · rw [noRequest node (by omega)] at flying
    exact absurd flying (Nat.lt_irrefl 0)
  · exact all_answered turned joined noReply

/-- The deliveries that the messages in flight can still cause. -/
def work (last : Nat) (s : State) : Nat :=
  ∑ node ∈ Finset.range last, s.requests node * (2 * last - node) +
    ∑ node ∈ Finset.range (last + 1), s.replies node * node

theorem start_work {last : Nat} (some : 0 < last) :
    work last start = 2 * last := by
  simp [work, start, ite_mul, Finset.sum_ite_eq', some]

private theorem sum_update {bound node : Nat} (within : node < bound)
    (count weight : Nat → Nat) (value : Nat) :
    (∑ i ∈ Finset.range bound, Function.update count node value i * weight i) +
        count node * weight node =
      (∑ i ∈ Finset.range bound, count i * weight i) +
        value * weight node := by
  have member := Finset.mem_range.mpr within
  rw [← Finset.add_sum_erase _ _ member, ← Finset.add_sum_erase _ _ member,
    Function.update_self]
  have others : ∀ i ∈ (Finset.range bound).erase node,
      Function.update count node value i * weight i = count i * weight i := by
    intro i other
    rw [Function.update_of_ne (Finset.ne_of_mem_erase other)]
  rw [Finset.sum_congr rfl others]
  omega

section Work

variable {node : Nat} (count : Nat)

theorem work_sendRequests (within : node < last) :
    work last (s.sendRequests node count) =
      work last s + count * (2 * last - node) := by
  have changed := sum_update within s.requests (2 * last - ·)
    (s.requests node + count)
  rw [Nat.add_mul] at changed
  simp only [work, sendRequests]
  omega

theorem work_sendReplies (within : node ≤ last) :
    work last (s.sendReplies node count) = work last s + count * node := by
  have changed := sum_update (Nat.lt_add_one_of_le within) s.replies (·)
    (s.replies node + count)
  rw [Nat.add_mul] at changed
  simp only [work, sendReplies]
  omega

theorem work_dropRequest (within : node < last)
    (flying : 0 < s.requests node) :
    work last (s.dropRequest node) + (2 * last - node) = work last s := by
  have changed := sum_update within s.requests (2 * last - ·)
    (s.requests node - 1)
  have split : s.requests node * (2 * last - node) =
      (s.requests node - 1) * (2 * last - node) + (2 * last - node) := by
    rw [← Nat.succ_mul, Nat.succ_eq_add_one, Nat.sub_add_cancel flying]
  simp only [work, dropRequest]
  omega

theorem work_dropReply (within : node ≤ last) (flying : 0 < s.replies node) :
    work last (s.dropReply node) + node = work last s := by
  have changed := sum_update (Nat.lt_add_one_of_le within) s.replies (·)
    (s.replies node - 1)
  have split : s.replies node * node =
      (s.replies node - 1) * node + node := by
    rw [← Nat.succ_mul, Nat.succ_eq_add_one, Nat.sub_add_cancel flying]
  simp only [work, dropReply]
  omega

end Work

theorem work_ask_lt {node : Nat} (within : node < last) :
    work last (s.ask last (node + 1)) < work last s + (2 * last - node) := by
  unfold ask
  split
  case isTrue turn =>
    rw [work_sendReplies 1 (by omega)]
    change work last s + _ < _
    omega
  case isFalse passes =>
    rw [work_sendRequests 1 (by omega)]
    change work last s + _ < _
    omega

theorem work_answer_le {node : Nat} (within : node ≤ last) :
    work last (s.answer node) ≤ work last s + node := by
  unfold answer
  split
  case isTrue =>
    rw [work_sendReplies _ within]
    change work last s + _ ≤ _
    split <;> omega
  case isFalse => omega

/-- Every delivery uses up work. -/
theorem Step.work_lt (taken : Step last s .deliver s') :
    work last s' < work last s := by
  cases taken with
  | request node within flying =>
      have dropped := work_dropRequest within flying
      have asked := work_ask_lt (s := s.dropRequest node) within
      omega
  | reply node within flying =>
      have dropped := @work_dropReply last _ (node + 1) within flying
      have answered :=
        work_answer_le (s := s.dropReply (node + 1)) (Nat.le_of_lt within)
      omega

end Wave
