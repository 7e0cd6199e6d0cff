import Mathlib.Data.List.Basic
import Mathlib.Order.Lattice

/-!
# Ascending keyed lists as finite maps

A list whose keys strictly increase is the canonical form of a finite map.
`insertNew` adds an item unless its key is taken, `erase` removes one key, and
`lookup` reads the map.  The splitting lemmas say how each operation acts on
`before ++ pivot :: after`, which is the shape in which a search tree lists
its items.
-/

namespace KeyedList

variable {α κ : Type*} [LinearOrder κ] (key : α → κ)

/-- Keys strictly increase along the list. -/
def Ascending (items : List α) : Prop :=
  items.Pairwise fun first second => key first < key second

/-- The item stored under a key. -/
def lookup (target : κ) (items : List α) : Option α :=
  items.find? fun item => decide (key item = target)

/-- Insert at the place given by the key; an item already stored under the
same key stays. -/
def insertNew (item : α) : List α → List α
  | [] => [item]
  | head :: tail =>
      if key item < key head then item :: head :: tail
      else if key head < key item then head :: insertNew item tail
      else head :: tail

/-- Remove the item stored under a key. -/
def erase (target : κ) (items : List α) : List α :=
  items.eraseP fun item => decide (key item = target)

variable {key}

theorem ascending_split {before after : List α} {pivot : α}
    (ascending : Ascending key (before ++ pivot :: after)) :
    Ascending key before ∧ Ascending key after ∧
      (∀ item ∈ before, key item < key pivot) ∧
      (∀ item ∈ after, key pivot < key item) := by
  unfold Ascending at ascending ⊢
  rw [List.pairwise_append, List.pairwise_cons] at ascending
  obtain ⟨beforeOk, ⟨afterAbove, afterOk⟩, cross⟩ := ascending
  refine ⟨beforeOk, afterOk, ?_, afterAbove⟩
  intro item member
  exact cross item member pivot List.mem_cons_self

theorem ascending_cons {head : α} {tail : List α}
    (ascending : Ascending key (head :: tail)) :
    Ascending key tail ∧ ∀ item ∈ tail, key head < key item := by
  obtain ⟨headBelow, tailOk⟩ := List.pairwise_cons.mp ascending
  exact ⟨tailOk, headBelow⟩

theorem lookup_eq_none_iff {target : κ} {items : List α} :
    lookup key target items = none ↔ ∀ item ∈ items, key item ≠ target := by
  simp [lookup, List.find?_eq_none]

theorem lookup_some {target : κ} {items : List α} {item : α}
    (found : lookup key target items = some item) :
    item ∈ items ∧ key item = target := by
  unfold lookup at found
  exact ⟨List.mem_of_find?_eq_some found,
    by simpa using List.find?_some found⟩

theorem lookup_head (head : α) (tail : List α) :
    lookup key (key head) (head :: tail) = some head :=
  List.find?_cons_of_pos (decide_eq_true rfl)

theorem lookup_split_left {before after : List α} {pivot : α} {target : κ}
    (ascending : Ascending key (before ++ pivot :: after))
    (below : target < key pivot) :
    lookup key target (before ++ pivot :: after) =
      lookup key target before := by
  obtain ⟨_, _, _, afterAbove⟩ := ascending_split ascending
  have afterNone : lookup key target (pivot :: after) = none := by
    rw [lookup_eq_none_iff]
    intro item member
    rcases List.mem_cons.mp member with rfl | later
    · exact below.ne'
    · exact (below.trans (afterAbove item later)).ne'
  unfold lookup at afterNone ⊢
  rw [List.find?_append, afterNone, Option.or_none]

theorem lookup_split_here {before after : List α} {pivot : α}
    (ascending : Ascending key (before ++ pivot :: after)) :
    lookup key (key pivot) (before ++ pivot :: after) = some pivot := by
  obtain ⟨_, _, beforeBelow, _⟩ := ascending_split ascending
  have beforeNone : lookup key (key pivot) before = none := by
    rw [lookup_eq_none_iff]
    exact fun item member => (beforeBelow item member).ne
  unfold lookup at beforeNone ⊢
  simp [List.find?_append, beforeNone]

theorem lookup_split_right {before after : List α} {pivot : α} {target : κ}
    (ascending : Ascending key (before ++ pivot :: after))
    (above : key pivot < target) :
    lookup key target (before ++ pivot :: after) = lookup key target after := by
  obtain ⟨_, _, beforeBelow, _⟩ := ascending_split ascending
  have beforeNone : lookup key target before = none := by
    rw [lookup_eq_none_iff]
    exact fun item member => ((beforeBelow item member).trans above).ne
  unfold lookup at beforeNone ⊢
  simp [List.find?_append, beforeNone, above.ne]

theorem lookup_of_mem {items : List α} (ascending : Ascending key items)
    {item : α} (member : item ∈ items) :
    lookup key (key item) items = some item := by
  obtain ⟨before, after, rfl⟩ := List.append_of_mem member
  exact lookup_split_here ascending

theorem mem_iff_lookup {items : List α} (ascending : Ascending key items)
    {item : α} : item ∈ items ↔ lookup key (key item) items = some item :=
  ⟨lookup_of_mem ascending, fun found => (lookup_some found).1⟩

theorem ascending_map {change : α → α}
    (keeps : ∀ item, key (change item) = key item) {items : List α}
    (ascending : Ascending key items) :
    Ascending key (items.map change) := by
  rw [Ascending, List.pairwise_map]
  simp only [keeps]
  exact ascending

theorem lookup_map {change : α → α}
    (keeps : ∀ item, key (change item) = key item) (target : κ)
    (items : List α) :
    lookup key target (items.map change) =
      (lookup key target items).map change := by
  simp only [lookup, List.find?_map, Function.comp_def, keeps]

theorem insertNew_split_left {before after : List α} {pivot item : α}
    (below : key item < key pivot) :
    insertNew key item (before ++ pivot :: after) =
      insertNew key item before ++ pivot :: after := by
  induction before with
  | nil => simp [insertNew, below]
  | cons head tail ih =>
      simp only [List.cons_append, insertNew, ih]
      split
      · rfl
      · split <;> rfl

theorem insertNew_split_right {before after : List α} {pivot item : α}
    (ascending : Ascending key (before ++ pivot :: after))
    (above : key pivot < key item) :
    insertNew key item (before ++ pivot :: after) =
      before ++ pivot :: insertNew key item after := by
  have beforeBelow := (ascending_split ascending).2.2.1
  clear ascending
  induction before with
  | nil => simp [insertNew, above, above.not_gt]
  | cons head tail ih =>
      have headBelow : key head < key item :=
        (beforeBelow head (by simp)).trans above
      have tailBelow : ∀ other ∈ tail, key other < key pivot :=
        fun other member => beforeBelow other (by simp [member])
      simp only [List.cons_append, insertNew, headBelow.not_gt, headBelow,
        if_false, if_true, ih tailBelow]

theorem insertNew_of_present {items : List α} {item stored : α}
    (ascending : Ascending key items)
    (found : lookup key (key item) items = some stored) :
    insertNew key item items = items := by
  induction items with
  | nil => simp [lookup] at found
  | cons head tail ih =>
      have tailOk := (ascending_cons ascending).1
      have split : Ascending key ([] ++ head :: tail) := ascending
      rcases lt_trichotomy (key item) (key head) with below | same | above
      · have missing := lookup_split_left split below
        rw [List.nil_append, found] at missing
        simp [lookup] at missing
      · simp [insertNew, same]
      · have tailFound : lookup key (key item) tail = some stored := by
          rw [← lookup_split_right split above]
          exact found
        simp [insertNew, above, above.not_gt, ih tailOk tailFound]

theorem insertNew_perm {items : List α} {item : α}
    (ascending : Ascending key items)
    (missing : lookup key (key item) items = none) :
    (insertNew key item items).Perm (item :: items) := by
  induction items with
  | nil => simp [insertNew]
  | cons head tail ih =>
      have tailOk := (ascending_cons ascending).1
      rw [lookup_eq_none_iff] at missing
      have tailMissing : lookup key (key item) tail = none := by
        rw [lookup_eq_none_iff]
        exact fun other member => missing other (by simp [member])
      rcases lt_trichotomy (key item) (key head) with below | same | above
      · simp [insertNew, below]
      · exact absurd same.symm (missing head (by simp))
      · rw [insertNew, if_neg above.not_gt, if_pos above]
        exact ((ih tailOk tailMissing).cons head).trans (List.Perm.swap _ _ _)

theorem mem_insertNew {items : List α} {item other : α}
    (member : other ∈ insertNew key item items) :
    other = item ∨ other ∈ items := by
  induction items with
  | nil => simpa [insertNew] using member
  | cons head tail ih =>
      rw [insertNew] at member
      split at member
      · simpa using member
      · split at member
        · rcases List.mem_cons.mp member with rfl | later
          · simp
          · rcases ih later with same | stored
            · exact Or.inl same
            · exact Or.inr (by simp [stored])
        · exact Or.inr member

theorem ascending_insertNew {items : List α} (item : α)
    (ascending : Ascending key items) :
    Ascending key (insertNew key item items) := by
  induction items with
  | nil => simp [insertNew, Ascending]
  | cons head tail ih =>
      obtain ⟨tailOk, tailAbove⟩ := ascending_cons ascending
      rw [insertNew]
      split
      case isTrue below =>
        unfold Ascending at ascending ⊢
        refine List.pairwise_cons.mpr ⟨?_, ascending⟩
        intro other member
        rcases List.mem_cons.mp member with rfl | later
        · exact below
        · exact below.trans (tailAbove other later)
      case isFalse notBelow =>
        split
        case isTrue above =>
          refine List.pairwise_cons.mpr ⟨?_, ih tailOk⟩
          intro other member
          rcases mem_insertNew member with rfl | stored
          · exact above
          · exact tailAbove other stored
        case isFalse => exact ascending

/-- Lookup after insertion: only the inserted key may change, and only if it
was free. -/
theorem lookup_insertNew {items : List α} (ascending : Ascending key items)
    (item : α) (target : κ) :
    lookup key target (insertNew key item items) =
      if target = key item then (lookup key target items).or (some item)
      else lookup key target items := by
  have grown := ascending_insertNew item ascending
  cases found : lookup key (key item) items with
  | some stored =>
      rw [insertNew_of_present ascending found]
      split
      case isTrue same => rw [same, found]; rfl
      case isFalse => rfl
  | none =>
      have members : ∀ other, other ∈ insertNew key item items ↔
          other ∈ item :: items :=
        fun _ => (insertNew_perm ascending found).mem_iff
      split
      case isTrue same =>
        subst same
        rw [found, Option.none_or]
        exact lookup_of_mem grown ((members item).mpr (by simp))
      case isFalse different =>
        cases stored : lookup key target items with
        | some other =>
            obtain ⟨member, rfl⟩ := lookup_some stored
            exact lookup_of_mem grown ((members other).mpr (by simp [member]))
        | none =>
            rw [lookup_eq_none_iff] at stored ⊢
            intro other member
            rcases List.mem_cons.mp ((members other).mp member) with rfl | later
            · exact Ne.symm different
            · exact stored other later

theorem erase_split_left {before after : List α} {pivot : α} {target : κ}
    (ascending : Ascending key (before ++ pivot :: after))
    (below : target < key pivot) :
    erase key target (before ++ pivot :: after) =
      erase key target before ++ pivot :: after := by
  obtain ⟨_, _, _, afterAbove⟩ := ascending_split ascending
  have afterKept : erase key target (pivot :: after) = pivot :: after := by
    apply List.eraseP_of_forall_not
    intro item member
    rcases List.mem_cons.mp member with rfl | later
    · simp [below.ne']
    · simp [(below.trans (afterAbove item later)).ne']
  unfold erase at afterKept ⊢
  by_cases present : ∃ item ∈ before, key item = target
  · obtain ⟨item, member, same⟩ := present
    exact List.eraseP_append_left (by simp [same]) _ member
  · have absent : ∀ item ∈ before, ¬decide (key item = target) = true := by
      intro item member
      simpa using fun same => present ⟨item, member, same⟩
    rw [List.eraseP_append_right _ absent, afterKept,
      List.eraseP_of_forall_not absent]

theorem erase_head (head : α) (tail : List α) :
    erase key (key head) (head :: tail) = tail :=
  List.eraseP_cons_of_pos (decide_eq_true rfl)

theorem erase_split_here {before after : List α} {pivot : α}
    (ascending : Ascending key (before ++ pivot :: after)) :
    erase key (key pivot) (before ++ pivot :: after) = before ++ after := by
  obtain ⟨_, _, beforeBelow, _⟩ := ascending_split ascending
  unfold erase
  rw [List.eraseP_append_right, List.eraseP_cons_of_pos (by simp)]
  intro item member
  simpa using (beforeBelow item member).ne

theorem erase_split_right {before after : List α} {pivot : α} {target : κ}
    (ascending : Ascending key (before ++ pivot :: after))
    (above : key pivot < target) :
    erase key target (before ++ pivot :: after) =
      before ++ pivot :: erase key target after := by
  obtain ⟨_, _, beforeBelow, _⟩ := ascending_split ascending
  unfold erase
  rw [List.eraseP_append_right, List.eraseP_cons_of_neg (by simp [above.ne])]
  intro item member
  simpa using ((beforeBelow item member).trans above).ne

theorem ascending_erase {items : List α} (target : κ)
    (ascending : Ascending key items) :
    Ascending key (erase key target items) :=
  List.Pairwise.sublist List.eraseP_sublist ascending

theorem erase_of_absent {items : List α} {target : κ}
    (missing : lookup key target items = none) :
    erase key target items = items := by
  apply List.eraseP_of_forall_not
  intro item member
  simpa using lookup_eq_none_iff.mp missing item member

theorem lookup_erase {items : List α} (ascending : Ascending key items)
    (removed target : κ) :
    lookup key target (erase key removed items) =
      if target = removed then none else lookup key target items := by
  cases found : lookup key removed items with
  | none =>
      rw [erase_of_absent found]
      split
      case isTrue same => rw [same, found]
      case isFalse => rfl
  | some stored =>
      obtain ⟨member, rfl⟩ := lookup_some found
      obtain ⟨before, after, rfl⟩ := List.append_of_mem member
      obtain ⟨beforeOk, afterOk, beforeBelow, afterAbove⟩ :=
        ascending_split ascending
      rw [erase_split_here ascending]
      split
      case isTrue same =>
        rw [lookup_eq_none_iff, same]
        intro item itemMember
        rcases List.mem_append.mp itemMember with left | right
        · exact (beforeBelow item left).ne
        · exact (afterAbove item right).ne'
      case isFalse different =>
        simp [lookup, List.find?_append, List.find?_cons_of_neg,
          Ne.symm different]

end KeyedList
