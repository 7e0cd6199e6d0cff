import Rsvpd.Lib.Sweep
import Rsvpd.Record
import Mathlib.Data.List.Count
import Mathlib.Data.List.Nodup

/-!
# Session lists

The list functions of `rsvp_db.c`.  A cursor into a list is a pair: the cells
in front of it, and the cells from it on.  Reading through a pointer to a cell
that was just freed gives the last contents of the cell.
-/

namespace Rsvpd

/-- `search_session`: find the session and refresh its time in place. -/
def searchSession (now : Int) (tunnelId : U16) :
    List Session → Option Session × List Session
  | [] => (none, [])
  | temp :: rest =>
      if temp.tunnelId = tunnelId then
        let temp := { temp with lastPathTime := now }
        (some temp, temp :: rest)
      else
        let (found, rest) := searchSession now tunnelId rest
        (found, temp :: rest)

/-- `insert_session`: the new session becomes the head. -/
def insertSession (now : Int) (tunnelId : U16) (sender receiver : InAddr)
    (dest : U8) (sess : List Session) : List Session :=
  { sender, receiver, tunnelId, dest, del := 0, lastPathTime := now } :: sess

/-- `delete_session(head, sess, prev)` for the cell `sess` between `before` and
`after`.  Gives the cells in front of the next cell to visit, what `sess` reads
as after the call, and the cells from the next one on. -/
def deleteSession (before : List Session) (sess : Session)
    (after : List Session) : List Session × Session × List Session :=
  match before, after with
  | [], after => ([], sess, after)
  | before, [] => (before, sess, [])
  -- `*sess = *sess->next`: the cell now holds its successor and stays linked
  | before, next :: rest => (before ++ [next], next, rest)

theorem deleteSession_eq (before : List Session) (sess : Session)
    (after : List Session) :
    deleteSession before sess after =
      Sweep.deleteInPlace before sess after := by
  cases before <;> cases after <;> rfl

/-- The loop of `resv_timer_handler` over the reservation list: delete the
first session of a tunnel id.  `none` when there is none. -/
def deleteResvSession (tunnelId : U16) (before : List Session) :
    List Session → Option (List Session)
  | [] => none
  | temp1 :: after =>
      if tunnelId = temp1.tunnelId then
        let (before, _, after) := deleteSession before temp1 after
        some (before ++ after)
      else
        deleteResvSession tunnelId (before ++ [temp1]) after

/-- Whatever the cursor, the list loses the first session of the tunnel
id. -/
theorem deleteResvSession_eq (tunnelId : U16) (before sessions : List Session) :
    (deleteResvSession tunnelId before sessions).getD (before ++ sessions) =
      before ++ sessions.eraseP (fun sess => tunnelId = sess.tunnelId) := by
  induction sessions generalizing before with
  | nil => rfl
  | cons temp1 after ih =>
      rw [deleteResvSession]
      split
      case isTrue same =>
        simp [deleteSession_eq, Sweep.deleteInPlace_list, same]
      case isFalse different =>
        have rest := ih (before ++ [temp1])
        rw [List.append_assoc, List.singleton_append] at rest
        rw [rest, List.eraseP_cons_of_neg (by simpa using different)]
        simp

/-- What the receive code makes of a list: refresh the session of the tunnel
id, or insert one. -/
def noteSession (now : Int) (tunnelId : U16) (sender receiver : InAddr)
    (dest : U8) (sess : List Session) : List Session :=
  match searchSession now tunnelId sess with
  | (some _, list) => list
  | (none, list) => insertSession now tunnelId sender receiver dest list

/-- The first session of a tunnel id. -/
def findSession (tunnelId : U16) (sess : List Session) : Option Session :=
  sess.find? fun temp => temp.tunnelId = tunnelId

@[simp] theorem findSession_nil (tunnelId : U16) :
    findSession tunnelId [] = none := rfl

theorem findSession_cons (tunnelId : U16) (temp : Session)
    (rest : List Session) :
    findSession tunnelId (temp :: rest) =
      if temp.tunnelId = tunnelId then some temp
      else findSession tunnelId rest := by
  unfold findSession
  by_cases same : temp.tunnelId = tunnelId
  · simp [same]
  · simp [same]

theorem findSession_tunnelId {tunnelId : U16} {sess : List Session}
    {temp : Session} (found : findSession tunnelId sess = some temp) :
    temp.tunnelId = tunnelId := by
  simpa using List.find?_some found

theorem findSession_eq_none {tunnelId : U16} {sess : List Session} :
    findSession tunnelId sess = none ↔
      ∀ temp ∈ sess, temp.tunnelId ≠ tunnelId := by
  simp [findSession]

theorem mem_of_findSession {tunnelId : U16} {sess : List Session}
    {temp : Session} (found : findSession tunnelId sess = some temp) :
    temp ∈ sess := List.mem_of_find?_eq_some found

theorem searchSession_found (now : Int) (tunnelId : U16)
    (sess : List Session) :
    (searchSession now tunnelId sess).1 =
      (findSession tunnelId sess).map
        ({ · with lastPathTime := now }) := by
  induction sess with
  | nil => rfl
  | cons temp rest ih =>
      rw [searchSession, findSession_cons]
      split
      case isTrue same => rfl
      case isFalse different => exact ih

theorem searchSession_missing {now : Int} {tunnelId : U16}
    {sess : List Session} (missing : findSession tunnelId sess = none) :
    searchSession now tunnelId sess = (none, sess) := by
  induction sess with
  | nil => rfl
  | cons temp rest ih =>
      rw [findSession_eq_none, List.forall_mem_cons,
        ← findSession_eq_none] at missing
      rw [searchSession, if_neg missing.1, ih missing.2]

theorem findSession_searchSession (now : Int) (tunnelId target : U16)
    (sess : List Session) :
    findSession target (searchSession now tunnelId sess).2 =
      if target = tunnelId then
        (findSession tunnelId sess).map ({ · with lastPathTime := now })
      else findSession target sess := by
  induction sess with
  | nil => simp [searchSession]
  | cons temp rest ih =>
      rw [searchSession]
      split
      case isTrue same =>
        simp only [findSession_cons, same, if_true, Option.map_some]
        by_cases here : target = tunnelId
        · simp [here]
        · simp [here, Ne.symm here]
      case isFalse different =>
        simp only [findSession_cons, different, if_false, ih]
        by_cases here : target = tunnelId
        · simp [here, different]
        · simp [here]

theorem mem_searchSession {now : Int} {tunnelId : U16} {sess : List Session}
    {temp : Session} (member : temp ∈ sess) :
    ∃ lastPathTime, { temp with lastPathTime } ∈
      (searchSession now tunnelId sess).2 := by
  induction sess with
  | nil => cases member
  | cons first rest ih =>
      rw [searchSession]
      split
      case isTrue same =>
        rcases List.mem_cons.mp member with rfl | later
        · exact ⟨now, List.mem_cons_self⟩
        · exact ⟨temp.lastPathTime, List.mem_cons_of_mem _ later⟩
      case isFalse different =>
        rcases List.mem_cons.mp member with rfl | later
        · exact ⟨temp.lastPathTime, List.mem_cons_self⟩
        · obtain ⟨lastPathTime, kept⟩ := ih later
          exact ⟨lastPathTime, List.mem_cons_of_mem _ kept⟩

theorem map_searchSession {β : Type} {view : Session → β}
    (untimed : ∀ temp lastPathTime,
      view { temp with lastPathTime } = view temp)
    (now : Int) (tunnelId : U16) (sess : List Session) :
    (searchSession now tunnelId sess).2.map view = sess.map view := by
  induction sess with
  | nil => rfl
  | cons temp rest ih =>
      rw [searchSession]
      split
      · exact congrArg (· :: rest.map view) (untimed temp now)
      · exact congrArg (view temp :: ·) ih

@[simp] theorem searchSession_tunnelIds (now : Int) (tunnelId : U16)
    (sess : List Session) :
    (searchSession now tunnelId sess).2.map Session.tunnelId =
      sess.map Session.tunnelId :=
  map_searchSession (fun _ _ => rfl) now tunnelId sess

section NoteSession

variable {now : Int} {tunnelId : U16} {sender receiver : InAddr} {dest : U8}
  {sess : List Session}

theorem noteSession_missing (missing : findSession tunnelId sess = none) :
    noteSession now tunnelId sender receiver dest sess =
      insertSession now tunnelId sender receiver dest sess := by
  rw [noteSession, searchSession_missing missing]

theorem noteSession_found {temp : Session}
    (found : findSession tunnelId sess = some temp) :
    noteSession now tunnelId sender receiver dest sess =
      (searchSession now tunnelId sess).2 := by
  have search := searchSession_found now tunnelId sess
  rw [found, Option.map_some] at search
  rw [noteSession]
  split
  case h_1 shape => rw [shape]
  case h_2 shape =>
    rw [shape] at search
    cases search

variable (now tunnelId sender receiver dest sess) in
theorem findSession_noteSession (target : U16) :
    findSession target (noteSession now tunnelId sender receiver dest sess) =
      if target = tunnelId then
        some (match findSession tunnelId sess with
          | some temp => { temp with lastPathTime := now }
          | none => { sender, receiver, tunnelId, dest, del := 0,
                      lastPathTime := now })
      else findSession target sess := by
  cases found : findSession tunnelId sess with
  | some temp =>
      rw [noteSession_found found, findSession_searchSession, found]
      rfl
  | none =>
      rw [noteSession_missing found, insertSession, findSession_cons]
      by_cases here : target = tunnelId
      · simp [here]
      · simp [here, Ne.symm here]

theorem mem_noteSession {temp : Session} (member : temp ∈ sess) :
    ∃ lastPathTime, { temp with lastPathTime } ∈
      noteSession now tunnelId sender receiver dest sess := by
  cases found : findSession tunnelId sess with
  | some known =>
      rw [noteSession_found found]
      exact mem_searchSession member
  | none =>
      rw [noteSession_missing found]
      exact ⟨temp.lastPathTime, List.mem_cons_of_mem _ member⟩

theorem exists_noteSession :
    ∃ temp ∈ noteSession now tunnelId sender receiver dest sess,
      temp.tunnelId = tunnelId := by
  have noted := findSession_noteSession now tunnelId sender receiver dest
    sess tunnelId
  rw [if_pos rfl] at noted
  exact ⟨_, mem_of_findSession noted, findSession_tunnelId noted⟩

end NoteSession

/-- No tunnel id occurs twice in the list. -/
def DistinctIds (sess : List Session) : Prop :=
  (sess.map Session.tunnelId).Nodup

instance : DecidablePred DistinctIds := fun _ =>
  inferInstanceAs (Decidable (List.Nodup _))

namespace DistinctIds

variable {sess sess' : List Session} {temp : Session}

theorem eq_of_tunnelId (distinct : DistinctIds sess) {first second : Session}
    (firstMember : first ∈ sess) (secondMember : second ∈ sess)
    (same : first.tunnelId = second.tunnelId) : first = second :=
  List.inj_on_of_nodup_map distinct firstMember secondMember same

theorem of_sublist (distinct : DistinctIds sess)
    (part : sess'.Sublist sess) : DistinctIds sess' :=
  List.Nodup.sublist (part.map _) distinct

theorem cons_iff :
    DistinctIds (temp :: sess) ↔
      findSession temp.tunnelId sess = none ∧ DistinctIds sess := by
  simp [DistinctIds, findSession_eq_none]

theorem findSession_iff (distinct : DistinctIds sess) {tunnelId : U16} :
    findSession tunnelId sess = some temp ↔
      temp ∈ sess ∧ temp.tunnelId = tunnelId := by
  constructor
  · intro found
    exact ⟨mem_of_findSession found, findSession_tunnelId found⟩
  · rintro ⟨member, rfl⟩
    cases found : findSession temp.tunnelId sess with
    | none => exact absurd rfl (findSession_eq_none.mp found temp member)
    | some other =>
        rw [distinct.eq_of_tunnelId (mem_of_findSession found) member
          (findSession_tunnelId found)]

protected theorem noteSession (distinct : DistinctIds sess) (now : Int)
    (tunnelId : U16) (sender receiver : InAddr) (dest : U8) :
    DistinctIds (noteSession now tunnelId sender receiver dest sess) := by
  cases found : findSession tunnelId sess with
  | some temp =>
      rw [noteSession_found found, DistinctIds, searchSession_tunnelIds]
      exact distinct
  | none =>
      rw [noteSession_missing found]
      exact cons_iff.mpr ⟨found, distinct⟩

variable {doomed : Session → Prop} [DecidablePred doomed]

theorem of_perm (distinct : DistinctIds sess) (same : sess'.Perm sess) :
    DistinctIds sess' :=
  (same.map Session.tunnelId).nodup_iff.mpr distinct

protected theorem remaining (distinct : DistinctIds sess) :
    DistinctIds (Sweep.remaining doomed [] sess) :=
  (distinct.of_perm (Sweep.deletions_append_remaining doomed [] sess)
    ).of_sublist (List.sublist_append_right _ _)

/-- A sweep hides exactly the tunnel ids of the sessions it deletes. -/
theorem findSession_remaining (distinct : DistinctIds sess) (target : U16) :
    findSession target (Sweep.remaining doomed [] sess) =
      if ∃ temp ∈ Sweep.deletions doomed [] sess, temp.tunnelId = target
      then none else findSession target sess := by
  have placed := Sweep.deletions_append_remaining doomed [] sess
  have apart := distinct.of_perm placed
  split
  case isTrue gone =>
    obtain ⟨temp, deleted, same⟩ := gone
    rw [findSession_eq_none]
    intro other left
    rw [DistinctIds, List.map_append, List.nodup_append] at apart
    rw [← same]
    exact (apart.2.2 _ (List.mem_map_of_mem deleted) _
      (List.mem_map_of_mem left)).symm
  case isFalse kept =>
    apply Option.ext
    intro temp
    rw [distinct.remaining.findSession_iff, distinct.findSession_iff]
    constructor
    · rintro ⟨left, same⟩
      exact ⟨Sweep.mem_of_remaining left, same⟩
    · rintro ⟨member, same⟩
      refine ⟨(Sweep.mem_deletions_or doomed member).resolve_left ?_, same⟩
      exact fun deleted => kept ⟨temp, deleted, same⟩

end DistinctIds

/-- Delete the first session of each tunnel id in turn. -/
def eraseSessions (tunnelIds : List U16) (sess : List Session) :
    List Session :=
  tunnelIds.foldl (fun head tunnelId =>
    head.eraseP fun temp => tunnelId = temp.tunnelId) sess

theorem findSession_eraseP {removed target : U16} {sess : List Session}
    (different : target ≠ removed) :
    findSession target (sess.eraseP fun temp => removed = temp.tunnelId) =
      findSession target sess := by
  induction sess with
  | nil => rfl
  | cons temp rest ih =>
      by_cases here : removed = temp.tunnelId
      · have other : ¬temp.tunnelId = target :=
          fun same => different (same.symm.trans here.symm)
        rw [List.eraseP_cons_of_pos (by simpa using here), findSession_cons,
          if_neg other]
      · rw [List.eraseP_cons_of_neg (by simpa using here), findSession_cons,
          findSession_cons, ih]

theorem findSession_eraseP_self {removed : U16} {sess : List Session}
    (distinct : DistinctIds sess) :
    findSession removed (sess.eraseP fun temp => removed = temp.tunnelId) =
      none := by
  induction sess with
  | nil => rfl
  | cons temp rest ih =>
      rw [DistinctIds.cons_iff] at distinct
      by_cases here : removed = temp.tunnelId
      · rw [List.eraseP_cons_of_pos (by simpa using here), here]
        exact distinct.1
      · rw [List.eraseP_cons_of_neg (by simpa using here), findSession_cons,
          if_neg (Ne.symm here)]
        exact ih distinct.2

theorem eraseSessions_sublist (tunnelIds : List U16) (sess : List Session) :
    (eraseSessions tunnelIds sess).Sublist sess := by
  induction tunnelIds generalizing sess with
  | nil => exact List.Sublist.refl _
  | cons tunnelId tunnelIds ih => exact (ih _).trans List.eraseP_sublist

theorem findSession_eraseSessions {tunnelIds : List U16}
    {sess : List Session} (distinct : DistinctIds sess) (target : U16) :
    findSession target (eraseSessions tunnelIds sess) =
      if target ∈ tunnelIds then none else findSession target sess := by
  induction tunnelIds generalizing sess with
  | nil => rfl
  | cons tunnelId tunnelIds ih =>
      have rest := ih (distinct.of_sublist (List.eraseP_sublist
        (p := fun temp => tunnelId = temp.tunnelId)))
      rw [eraseSessions, List.foldl_cons, ← eraseSessions, rest]
      by_cases here : target = tunnelId
      · subst here
        simp [findSession_eraseP_self distinct]
      · rw [findSession_eraseP here]
        simp [here]

theorem eraseSessions_tunnelIds (tunnelIds : List U16)
    (sess : List Session) :
    (eraseSessions tunnelIds sess).map Session.tunnelId =
      (sess.map Session.tunnelId).diff tunnelIds := by
  induction tunnelIds generalizing sess with
  | nil => rfl
  | cons tunnelId tunnelIds ih =>
      rw [eraseSessions, List.foldl_cons, ← eraseSessions, ih,
        List.diff_cons, List.erase_eq_eraseP, List.eraseP_map]
      rfl

theorem findSession_eraseSessions_iff {tunnelIds : List U16}
    {sess : List Session} {target : U16} :
    findSession target (eraseSessions tunnelIds sess) = none ↔
      (sess.map Session.tunnelId).count target ≤ tunnelIds.count target := by
  have absent (list : List Session) : findSession target list = none ↔
      (list.map Session.tunnelId).count target = 0 := by
    simp [findSession_eq_none, List.count_eq_zero]
  rw [absent, eraseSessions_tunnelIds, List.count_diff,
    Nat.sub_eq_zero_iff_le]

theorem mem_eraseSessions {tunnelIds : List U16} {sess : List Session}
    {temp : Session} (member : temp ∈ sess)
    (kept : temp.tunnelId ∉ tunnelIds) :
    temp ∈ eraseSessions tunnelIds sess := by
  induction tunnelIds generalizing sess with
  | nil => exact member
  | cons tunnelId tunnelIds ih =>
      simp only [List.mem_cons, not_or] at kept
      apply ih ?_ kept.2
      rw [List.mem_eraseP_of_neg (by simpa using Ne.symm kept.1)]
      exact member

end Rsvpd
