import Rsvpd.Lib.Sweep
import Mathlib.Data.List.Basic

/-!
# What a sweep leaves behind

A sweep that passes a doomed cell over has deleted the cell in front of it.
It therefore leaves at most half of the doomed cells, and each of them nearer
to the head.
-/

namespace Sweep

variable {α : Type*} {doomed : α → Prop} [DecidablePred doomed]

variable (doomed) in
theorem remaining_append (before rest : List α) :
    ∃ left, remaining doomed before rest = before ++ left ∧
      left.Sublist rest := by
  induction before, rest using sweep_induction doomed with
  | nil before => exact ⟨[], by simp, List.Sublist.refl []⟩
  | keep before cell after kept ih =>
      obtain ⟨left, shape, order⟩ := ih
      rw [remaining_keep _ _ kept, shape]
      exact ⟨cell :: left, by simp, order.cons_cons cell⟩
  | first cell after gone ih =>
      obtain ⟨left, shape, order⟩ := ih
      rw [remaining_first _ gone, shape]
      exact ⟨left, rfl, order.cons cell⟩
  | last before cell behind gone =>
      rw [remaining_last behind gone]
      exact ⟨[], by simp, List.nil_sublist _⟩
  | pull before cell next after behind gone ih =>
      obtain ⟨left, shape, order⟩ := ih
      rw [remaining_pull _ behind gone, shape]
      exact ⟨next :: left, by simp, (order.cons_cons next).cons cell⟩

theorem mem_of_mem_remaining {before rest : List α} {cell : α}
    (left : cell ∈ remaining doomed before rest) : cell ∈ before ++ rest := by
  obtain ⟨after, shape, order⟩ := remaining_append doomed before rest
  rw [shape] at left
  exact ((List.Sublist.refl before).append order).subset left

/-- No cell moves away from the head, and a doomed cell that is left comes
nearer: the one in front of it was deleted. -/
theorem nearer_of_remaining {before rest mid post : List α} {cell : α}
    (nodup : (before ++ rest).Nodup) (shape : rest = mid ++ cell :: post)
    (left : cell ∈ remaining doomed before rest) :
    ∃ front' post', remaining doomed before rest = front' ++ cell :: post' ∧
      front'.length + (if doomed cell then 1 else 0) ≤
        before.length + mid.length := by
  induction before, rest using sweep_induction doomed
    generalizing mid with
  | nil before => simp at shape
  | keep before first after kept ih =>
      rw [remaining_keep _ _ kept] at left ⊢
      cases mid with
      | nil =>
          cases shape
          obtain ⟨after', split, _⟩ :=
            remaining_append doomed (before ++ [cell]) post
          exact ⟨before, after', by rw [split]; simp, by simp [kept]⟩
      | cons _ mid =>
          obtain ⟨rfl, rfl⟩ := List.cons.inj shape
          obtain ⟨front', post', split, near⟩ :=
            ih (by simpa using nodup) rfl left
          refine ⟨front', post', split, ?_⟩
          simp only [List.length_append, List.length_cons,
            List.length_nil] at near ⊢
          omega
  | first first after goes ih =>
      rw [remaining_first _ goes] at left ⊢
      cases mid with
      | nil =>
          obtain ⟨rfl, rfl⟩ := List.cons.inj shape
          exact absurd (mem_of_mem_remaining left)
            (List.nodup_cons.mp nodup).1
      | cons _ mid =>
          obtain ⟨rfl, rfl⟩ := List.cons.inj shape
          obtain ⟨front', post', split, near⟩ :=
            ih (List.nodup_cons.mp nodup).2 rfl left
          refine ⟨front', post', split, ?_⟩
          simp only [List.length_cons, List.length_nil] at near ⊢
          omega
  | last before last behind goes =>
      rw [remaining_last behind goes] at left
      have apart := List.nodup_append.mp nodup
      have inside : cell ∈ [last] := shape ▸ List.mem_append_cons_self
      exact absurd rfl (apart.2.2 cell left cell inside)
  | pull before first next after behind goes ih =>
      rw [remaining_pull _ behind goes] at left ⊢
      have pulled : (before ++ [next] ++ after).Nodup := by
        rw [List.append_assoc]
        exact nodup.sublist
          ((List.Sublist.refl before).append (List.sublist_cons_self _ _))
      match mid with
      | [] =>
          obtain ⟨rfl, rfl⟩ := List.cons.inj shape
          have member := mem_of_mem_remaining left
          rw [List.append_assoc, List.singleton_append] at member
          exact absurd member (List.nodup_middle.mp nodup).notMem
      | [_] =>
          obtain ⟨rfl, tail⟩ := List.cons.inj shape
          obtain ⟨rfl, rfl⟩ := List.cons.inj tail
          obtain ⟨after', split, _⟩ :=
            remaining_append doomed (before ++ [next]) after
          refine ⟨before, after', by rw [split]; simp, ?_⟩
          rw [List.length_singleton]
          split_ifs <;> omega
      | _ :: _ :: mid =>
          obtain ⟨rfl, tail⟩ := List.cons.inj shape
          obtain ⟨rfl, rfl⟩ := List.cons.inj tail
          obtain ⟨front', post', split, near⟩ := ih pulled rfl left
          refine ⟨front', post', split, ?_⟩
          simp only [List.length_append, List.length_cons,
            List.length_nil] at near ⊢
          omega

variable (doomed) in
theorem countP_remaining_le (before rest : List α) :
    2 * (remaining doomed before rest).countP doomed ≤
      2 * before.countP doomed + rest.countP doomed := by
  induction before, rest using sweep_induction doomed with
  | nil before => simp
  | keep before cell after kept ih =>
      rw [remaining_keep _ _ kept]
      simpa [List.countP_cons_of_neg, kept] using ih
  | first cell after gone ih =>
      rw [remaining_first _ gone]
      refine Nat.le_trans ih (Nat.add_le_add_left ?_ _)
      exact (List.sublist_cons_self cell after).countP_le
  | last before cell behind gone =>
      rw [remaining_last behind gone]
      exact Nat.le_add_right _ _
  | pull before cell next after behind gone ih =>
      rw [remaining_pull _ behind gone]
      simp only [List.countP_append, List.countP_cons, List.countP_nil, gone,
        decide_true, if_true] at ih ⊢
      split at ih
      case isTrue nextGone =>
        rw [if_pos nextGone]
        omega
      case isFalse nextKept =>
        rw [if_neg nextKept]
        omega

end Sweep
