import Rsvpd.Netlink

/-!
# The walks over a dump datagram stay inside it

On any received bytes both loops of `route_dump.c` read the records that
`Framing.Layout.records` takes: they stop, they read no header outside of the
bytes, and the table that `parse_rtattr` fills tells the last attribute of
each type.  An `NLMSG_ERROR` alone makes the message walk read what it has
freed.
-/

namespace Rsvpd.Netlink

open Framing

def nlmsgLengthAt (bytes : List U8) (h : Nat) : Nat :=
  (load32 (received bytes) h).toNat

def rtaLengthAt (bytes : List U8) (rta : Nat) : Nat :=
  (load16 (received bytes) rta).toNat

def rtaTypeAt (bytes : List U8) (rta : Nat) : Nat :=
  (load16 (received bytes) (rta + 2)).toNat

/-- Records whose starts are aligned to four bytes. -/
def aligned (header : Nat) (positive : 0 < header) : Layout :=
  { header := header
    headerPositive := positive
    advance := fun length => (length + 3) / 4 * 4
    covers := fun length => by omega }

theorem aligned_fits_iff {header : Nat} {positive : 0 < header}
    {lengthAt : Nat → Nat} {stop start : Nat} :
    (aligned header positive).Fits lengthAt stop start ↔
      start + header ≤ stop ∧ header ≤ lengthAt start ∧
        start + lengthAt start ≤ stop :=
  Iff.rfl

@[simp] theorem aligned_advance (header : Nat) (positive : 0 < header)
    (length : Nat) :
    (aligned header positive).advance length = (length + 3) / 4 * 4 := rfl

abbrev nlmsgLayout : Layout := aligned 16 (by decide)
abbrev rtaLayout : Layout := aligned 4 (by decide)

/-- Where a signed length behind a position ends. -/
def endOf (position : Nat) (len : U32) : Nat :=
  ((position : Int) + len.toInt).toNat

theorem read_of_inside {α : Type} (load : Buffer → Nat → α) {size at' : Nat}
    {bytes : List U8} (inside : at' + size ≤ bytes.length) :
    read load size bytes at' = some (load (received bytes) at') :=
  if_pos inside

section Macros

variable {size position stop : Nat} {positive : 0 < size}
  {lengthAt : Nat → Nat} {stated : Option U32} {len : U32}
  (room : endOf position len = stop)
  (header : position + size ≤ stop →
    stated.map BitVec.toNat = some (lengthAt position))

include room header

theorem recordOk_eq :
    recordOk stated size len =
      some (decide ((aligned size positive).Fits lengthAt stop position)) := by
  unfold endOf at room
  unfold recordOk
  split_ifs with left
  · have unsigned : len.toInt = len.toNat := by
      rw [BitVec.toInt_eq_toNat_cond] at left ⊢
      split_ifs at left ⊢ <;> omega
    obtain ⟨length, rfl, same⟩ := Option.map_eq_some_iff.mp
      (header (by omega))
    have accepted : (size ≤ length.toNat ∧ length ≤ len) ↔
        (aligned size positive).Fits lengthAt stop position := by
      rw [aligned_fits_iff, BitVec.le_def, same]
      omega
    simp only [Option.bind_eq_bind, Option.bind_some, Option.pure_def,
      ← accepted, Bool.decide_and]
  · have misfit : ¬(aligned size positive).Fits lengthAt stop position := by
      rw [aligned_fits_iff]
      omega
    rw [decide_eq_false misfit]

theorem recordOk_of_fits
    (fits : (aligned size positive).Fits lengthAt stop position) :
    recordOk stated size len = some true :=
  (recordOk_eq room header).trans (congrArg some (decide_eq_true fits))

theorem recordOk_of_not_fits
    (misfit : ¬(aligned size positive).Fits lengthAt stop position) :
    recordOk stated size len = some false :=
  (recordOk_eq room header).trans (congrArg some (decide_eq_false misfit))

theorem recordNext_eq
    (fits : (aligned size positive).Fits lengthAt stop position) :
    ∃ rest, recordNext stated position len =
        some (position + (aligned size positive).advance (lengthAt position),
          rest) ∧
      endOf (position + (aligned size positive).advance (lengthAt position))
        rest = stop := by
  obtain ⟨headerFits, long, whole⟩ := aligned_fits_iff.mp fits
  obtain ⟨length, rfl, same⟩ := Option.map_eq_some_iff.mp
    (header headerFits)
  unfold endOf at room
  have word := len.toInt_lt
  have within : (length.toNat : Int) ≤ len.toInt := by omega
  have step : (align length).toNat = (length.toNat + 3) / 4 * 4 :=
    align_toNat (by omega)
  refine ⟨len - align length, ?_, ?_⟩
  · simp only [recordNext, Option.bind_eq_bind, Option.bind_some,
      Option.pure_def, step, same, aligned_advance]
  · rw [endOf, sub_align_toInt within, step, same, aligned_advance]
    omega

end Macros

section AttributeWalk

variable {bytes : List U8} {max rta stop : Nat} {len : U32}
  {seen : Attributes}

theorem rtaLen_header (inside : stop ≤ bytes.length)
    (header : rta + 4 ≤ stop) :
    ((rtaLen bytes rta).map (BitVec.setWidth 32)).map BitVec.toNat =
      some (rtaLengthAt bytes rta) := by
  have read : rtaLen bytes rta = some (load16 (received bytes) rta) :=
    read_of_inside load16 (by omega)
  have short := (load16 (received bytes) rta).isLt
  rw [read, Option.map_some, Option.map_some, BitVec.toNat_setWidth,
    Nat.mod_eq_of_lt (by omega), rtaLengthAt]

theorem visitRtattr_eq (inside : rta + 4 ≤ bytes.length)
    (slots : seen.tb.length = max + 1) :
    visitRtattr bytes max rta seen =
      some { tb := note (rtaTypeAt bytes) seen.tb rta
             visited := seen.visited ++ [rta] } := by
  have read : rtaType bytes rta = some (load16 (received bytes) (rta + 2)) :=
    read_of_inside load16 (by omega)
  by_cases known : (load16 (received bytes) (rta + 2)).toNat ≤ max
  · have room : (load16 (received bytes) (rta + 2)).toNat < seen.tb.length :=
      by omega
    simp only [visitRtattr, read, storeTb, known, room, if_true,
      Option.bind_eq_bind, Option.bind_some, Option.pure_def, note,
      rtaTypeAt]
  · have kept : note (rtaTypeAt bytes) seen.tb rta = seen.tb :=
      List.set_eq_of_length_le (by rw [rtaTypeAt]; omega)
    simp only [visitRtattr, read, known, if_false, Option.bind_eq_bind,
      Option.bind_some, Option.pure_def, kept]

theorem rtattrLoop_done (ok : rtaOk bytes rta len = some false) :
    rtattrLoop bytes max rta len seen = some seen := by
  rw [rtattrLoop, whileOk_false ok]

theorem rtattrLoop_step {after : Attributes} {behind : Nat} {rest : U32}
    (ok : rtaOk bytes rta len = some true)
    (visit : visitRtattr bytes max rta seen = some after)
    (next : rtaNext bytes rta len = some (behind, rest)) :
    rtattrLoop bytes max rta len seen =
      rtattrLoop bytes max behind rest after := by
  rw [rtattrLoop, whileOk_true ok, visit, Option.bind_some,
    Option.pbind_some' next]

theorem rtattrLoop_eq (room : endOf rta len = stop)
    (inside : stop ≤ bytes.length) (slots : seen.tb.length = max + 1) :
    rtattrLoop bytes max rta len seen =
      some { tb := (rtaLayout.records (rtaLengthAt bytes) stop rta).foldl
               (note (rtaTypeAt bytes)) seen.tb
             visited := seen.visited ++
               rtaLayout.records (rtaLengthAt bytes) stop rta } := by
  induction rta using Layout.records.induct rtaLayout (rtaLengthAt bytes)
    stop generalizing len seen with
  | case1 rta fits ih =>
      have header : rta + 4 ≤ stop → _ := rtaLen_header inside
      have ok : rtaOk bytes rta len = some true :=
        recordOk_of_fits room header fits
      obtain ⟨rest, next, ahead⟩ := recordNext_eq room header fits
      have visit : visitRtattr bytes max rta seen = _ :=
        visitRtattr_eq (Nat.le_trans fits.1 inside) slots
      rw [rtattrLoop_step ok visit next, Layout.records_of_fits fits,
        ih ahead ((length_note _ _ _).trans slots), List.append_assoc]
      rfl
  | case2 rta misfit =>
      have ok : rtaOk bytes rta len = some false :=
        recordOk_of_not_fits room (rtaLen_header inside) misfit
      rw [rtattrLoop_done ok, Layout.records_of_not_fits misfit,
        List.append_nil]
      rfl

/-- What `parse_rtattr` has read between two positions: whole attributes, and
in each slot the last one of its type. -/
structure Attributes.Sound (bytes : List U8) (max start stop : Nat)
    (attributes : Attributes) : Prop where
  visited : attributes.visited =
    rtaLayout.records (rtaLengthAt bytes) stop start
  inside : ∀ rta ∈ attributes.visited, start ≤ rta ∧
    4 ≤ rtaLengthAt bytes rta ∧ rta + rtaLengthAt bytes rta ≤ stop
  few : 4 * attributes.visited.length ≤ stop - start
  slots : attributes.tb.length = max + 1
  last : ∀ slot ≤ max, attributes.tb[slot]? =
    some (lastOfKind (rtaTypeAt bytes) slot attributes.visited)

/-- What the attribute walk leaves between two positions. -/
def attributesIn (bytes : List U8) (max start stop : Nat) : Attributes :=
  let records := rtaLayout.records (rtaLengthAt bytes) stop start
  { tb := records.foldl (note (rtaTypeAt bytes))
      (List.replicate (max + 1) none)
    visited := records }

theorem parseRtattr_eq (max : Nat) (room : endOf rta len = stop)
    (inside : stop ≤ bytes.length) :
    parseRtattr bytes max rta len =
      some (attributesIn bytes max rta stop) := by
  have parsed : parseRtattr bytes max rta len = _ :=
    rtattrLoop_eq room inside List.length_replicate
  rwa [List.nil_append] at parsed

theorem attributesIn_sound (bytes : List U8) (max start stop : Nat) :
    (attributesIn bytes max start stop).Sound bytes max start stop := by
  constructor
  · rfl
  · intro record member
    obtain ⟨behind, whole⟩ := Layout.fits_of_mem_records member
    exact ⟨behind, (aligned_fits_iff.mp whole).2⟩
  · exact Layout.header_mul_records_length_le rtaLayout _ stop start
  · rw [attributesIn, length_foldl_note, List.length_replicate]
  · intro slot known
    exact getElem?_foldl_note _ (Nat.lt_succ_of_le known) _

end AttributeWalk

section MessageWalk

variable {State : Type}
  (readRoute : Nat → List (Option Nat) → State → Option (Int × State))
  {bytes : List U8} {h stop : Nat} {msglen : U32} (s : State)

theorem nlmsgLen_header (inside : stop ≤ bytes.length)
    (header : h + 16 ≤ stop) :
    (nlmsgLen bytes h).map BitVec.toNat = some (nlmsgLengthAt bytes h) := by
  have read : nlmsgLen bytes h = some (load32 (received bytes) h) :=
    read_of_inside load32 (by omega)
  rw [read, Option.map_some, nlmsgLengthAt]

/-- What `print_route` computes to be left behind the header of a route. -/
theorem sub_rtmsg_toInt {length : U32} (long : 16 ≤ length.toNat)
    (short : length.toNat < 2 ^ 31) :
    (length - BitVec.ofNat 32 nlmsgLengthRtmsg).toInt =
      length.toNat - nlmsgLengthRtmsg := by
  rw [BitVec.toInt_eq_toNat_cond, BitVec.toNat_sub, BitVec.toNat_ofNat,
    nlmsgLengthRtmsg]
  split_ifs <;> omega

theorem endOf_attributes {length : U32} (long : 16 ≤ length.toNat)
    (short : length.toNat < 2 ^ 31) :
    endOf (h + nlmsgLengthRtmsg)
      (length - BitVec.ofNat 32 nlmsgLengthRtmsg) = h + length.toNat := by
  have rest := sub_rtmsg_toInt long short
  rw [endOf]
  omega

/-- The attributes of a visited message lie in it. -/
def Visit.Sound (bytes : List U8) (visit : Visit) : Prop :=
  ∀ attributes ∈ visit.attributes,
    attributes.Sound bytes rtaMax (visit.h + nlmsgLengthRtmsg)
      (visit.h + nlmsgLengthAt bytes visit.h)

/-- The attributes that `print_route` parses in a message that has room for a
route. -/
def attributesAt (bytes : List U8) (h : Nat) : Option Attributes :=
  if nlmsgLengthAt bytes h < nlmsgLengthRtmsg then none
  else some (attributesIn bytes rtaMax (h + nlmsgLengthRtmsg)
    (h + nlmsgLengthAt bytes h))

theorem attributesAt_sound (bytes : List U8) (h : Nat) :
    Visit.Sound bytes { h, attributes := attributesAt bytes h } := by
  rintro attributes parsed
  rw [attributesAt, Option.mem_def, Option.ite_none_left_eq_some] at parsed
  rw [← Option.some.inj parsed.2]
  exact attributesIn_sound bytes _ _ _

/-- What `print_route` returns for a message, with the variables it sets. -/
def printed (bytes : List U8) (h : Nat) (s : State) : Option (Int × State) :=
  match attributesAt bytes h with
  | none => some (0, s)
  | some attributes => readRoute h attributes.tb s

def flagsAt (bytes : List U8) (h : Nat) : U16 :=
  load16 (received bytes) (h + 6)

def typeAt (bytes : List U8) (h : Nat) : U16 :=
  load16 (received bytes) (h + 4)

section WholeMessage

variable (fits : nlmsgLayout.Fits (nlmsgLengthAt bytes) bytes.length h)
  (short : nlmsgLengthAt bytes h < 2 ^ 31)

include fits short

theorem printRoute_eq :
    printRoute readRoute bytes h s =
      (printed readRoute bytes h s).map (attributesAt bytes h, ·) := by
  obtain ⟨header, long, whole⟩ := aligned_fits_iff.mp fits
  obtain ⟨length, read, same⟩ := Option.map_eq_some_iff.mp
    (nlmsgLen_header (Nat.le_refl _) header)
  rw [← same] at long short whole
  have rest := sub_rtmsg_toInt long short
  unfold printRoute printed attributesAt
  simp only [read, Option.bind_eq_bind, Option.bind_some, Option.pure_def]
  by_cases room : nlmsgLengthAt bytes h < nlmsgLengthRtmsg
  · rw [if_pos (by omega), if_pos room]
    rfl
  · have parsed := parseRtattr_eq rtaMax
      (endOf_attributes (h := h) long short) whole
    rw [same] at parsed
    rw [if_neg (by omega), if_neg room, parsed, Option.bind_some,
      Option.map_eq_bind]
    rfl

/-- One message: flagged as interrupted, an error in whose freed memory the
walk goes on, or a route. -/
theorem visitMessage_eq :
    visitMessage readRoute bytes h s =
      if flagsAt bytes h &&& nlmFDumpIntr ≠ 0 then
        some ({ h, attributes := none }, some (-1), s)
      else if typeAt bytes h = nlmsgError then none
      else (printed readRoute bytes h s).map fun outcome =>
        ({ h, attributes := attributesAt bytes h },
          if outcome.1 ≠ 0 then some 1 else none, outcome.2) := by
  obtain ⟨header, long, whole⟩ := aligned_fits_iff.mp fits
  have flags : nlmsgFlags bytes h = some (flagsAt bytes h) :=
    read_of_inside load16 (by omega)
  have type : nlmsgType bytes h = some (typeAt bytes h) :=
    read_of_inside load16 (by omega)
  unfold visitMessage
  simp only [flags, type, Option.bind_eq_bind, Option.bind_some,
    Option.pure_def]
  split_ifs with interrupted error
  · rfl
  · rfl
  · rw [printRoute_eq readRoute s fits short]
    cases printed readRoute bytes h s <;> rfl

end WholeMessage

/-- The messages of a list in turn, up to the one at which the function
returns. -/
def visitAll (bytes : List U8) (status : Int) :
    List Nat → List Visit → State → Option (Dump State)
  | [], visits, s => some { ret := status, state := s, visits }
  | h :: messages, visits, s =>
      match visitMessage readRoute bytes h s with
      | none => none
      | some (visit, some ret, s) =>
          some { ret, state := s, visits := visits ++ [visit] }
      | some (visit, none, s) =>
          visitAll bytes status messages (visits ++ [visit]) s

/-- The loop visits the messages that fit. -/
theorem messageLoop_eq (status : Int) (room : endOf h msglen = stop)
    (inside : stop ≤ bytes.length) (visits : List Visit) :
    messageLoop readRoute bytes status h msglen visits s =
      visitAll readRoute bytes status
        (nlmsgLayout.records (nlmsgLengthAt bytes) stop h) visits s := by
  induction h using Layout.records.induct nlmsgLayout (nlmsgLengthAt bytes)
    stop generalizing msglen visits s with
  | case1 h fits ih =>
      have header := nlmsgLen_header (h := h) inside
      have ok : nlmsgOk bytes h msglen = some true :=
        recordOk_of_fits room header fits
      obtain ⟨rest, next, ahead⟩ := recordNext_eq room header fits
      have next : nlmsgNext bytes h msglen = _ := next
      rw [Layout.records_of_fits fits, visitAll, messageLoop,
        whileOk_true ok]
      cases visitMessage readRoute bytes h s with
      | none => rfl
      | some outcome =>
          obtain ⟨visit, returned, s⟩ := outcome
          cases returned with
          | some ret => rfl
          | none =>
              rw [Option.bind_some]
              exact (Option.pbind_some' next).trans (ih s ahead _)
  | case2 h misfit =>
      have ok : nlmsgOk bytes h msglen = some false :=
        recordOk_of_not_fits room (nlmsgLen_header inside) misfit
      rw [Layout.records_of_not_fits misfit, visitAll, messageLoop,
        whileOk_false ok]

/-- The walk comes to an `NLMSG_ERROR`: no message up to it is flagged as
interrupted, and `print_route` takes none in front of it. -/
def MeetsError (bytes : List U8) : List Nat → State → Prop
  | [], _ => False
  | h :: messages, s => flagsAt bytes h &&& nlmFDumpIntr = 0 ∧
      (typeAt bytes h = nlmsgError ∨
        ∃ next, printed readRoute bytes h s = some (0, next) ∧
          MeetsError bytes messages next)

theorem visitAll_of_meetsError (status : Int) {messages : List Nat}
    (fits : ∀ h ∈ messages,
      nlmsgLayout.Fits (nlmsgLengthAt bytes) bytes.length h)
    (short : ∀ h ∈ messages, nlmsgLengthAt bytes h < 2 ^ 31)
    (visits : List Visit) (meets : MeetsError readRoute bytes messages s) :
    visitAll readRoute bytes status messages visits s = none := by
  induction messages generalizing visits s with
  | nil => exact absurd meets id
  | cons h messages ih =>
      obtain ⟨fitsHere, fits⟩ := List.forall_mem_cons.mp fits
      obtain ⟨shortHere, short⟩ := List.forall_mem_cons.mp short
      obtain ⟨calm, error | ⟨next, passed, later⟩⟩ := meets
      · rw [visitAll, visitMessage_eq readRoute s fitsHere shortHere,
          if_neg (not_not.mpr calm), if_pos error]
      · by_cases error : typeAt bytes h = nlmsgError
        · rw [visitAll, visitMessage_eq readRoute s fitsHere shortHere,
            if_neg (not_not.mpr calm), if_pos error]
        · rw [visitAll, visitMessage_eq readRoute s fitsHere shortHere,
            if_neg (not_not.mpr calm), if_neg error, passed]
          exact ih next fits short _ later

end MessageWalk

section TotalWalk

/-- What `print_route` makes of every message. -/
def total {State : Type}
    (readRoute : Nat → List (Option Nat) → State → Int × State) :
    Nat → List (Option Nat) → State → Option (Int × State) :=
  fun h tb s => some (readRoute h tb s)

variable {State : Type}
  (readRoute : Nat → List (Option Nat) → State → Int × State)
  {bytes : List U8} (s : State)

theorem printed_total (h : Nat) :
    ∃ outcome, printed (total readRoute) bytes h s = some outcome := by
  unfold printed
  split
  · exact ⟨_, rfl⟩
  · exact ⟨_, rfl⟩

/-- How a walk without an `NLMSG_ERROR` ends: behind the last message, or at
one that is flagged or taken. -/
structure WalkEnds (bytes : List U8) (status : Int) (messages : List Nat)
    (front : List Visit) (ret : Int) : Prop where
  first : front.map Visit.h <+: messages
  all : ret = 1 ∨ ret = -1 ∨
    ret = status ∧ front.map Visit.h = messages
  sound : ∀ visit ∈ front, visit.Sound bytes

theorem WalkEnds.here {status ret : Int} {h : Nat} {messages : List Nat}
    {visit : Visit} (same : visit.h = h) (sound : visit.Sound bytes)
    (returned : ret = 1 ∨ ret = -1) :
    WalkEnds bytes status (h :: messages) [visit] ret where
  first := by
    subst same
    exact (List.prefix_cons_inj _).mpr List.nil_prefix
  all := returned.imp_right .inl
  sound := List.forall_mem_singleton.mpr sound

theorem WalkEnds.cons {status ret : Int} {h : Nat} {messages : List Nat}
    {visit : Visit} {front : List Visit} (same : visit.h = h)
    (sound : visit.Sound bytes)
    (ends : WalkEnds bytes status messages front ret) :
    WalkEnds bytes status (h :: messages) (visit :: front) ret where
  first := by
    subst same
    exact (List.prefix_cons_inj _).mpr ends.first
  all := by
    subst same
    refine ends.all.imp_right fun rest => rest.imp_right fun behind => ?_
    exact ⟨behind.1, by rw [List.map_cons, behind.2]⟩
  sound := List.forall_mem_cons.mpr ⟨sound, ends.sound⟩

theorem visitAll_ends (status : Int) {messages : List Nat}
    (fits : ∀ h ∈ messages,
      nlmsgLayout.Fits (nlmsgLengthAt bytes) bytes.length h)
    (short : ∀ h ∈ messages, nlmsgLengthAt bytes h < 2 ^ 31)
    (visits : List Visit)
    (calm : ¬MeetsError (total readRoute) bytes messages s) :
    ∃ dump front,
      visitAll (total readRoute) bytes status messages visits s =
          some dump ∧
        dump.visits = visits ++ front ∧
        WalkEnds bytes status messages front dump.ret := by
  induction messages generalizing visits s with
  | nil =>
      exact ⟨_, [], rfl, (List.append_nil visits).symm, List.prefix_refl _,
        .inr (.inr ⟨rfl, rfl⟩), nofun⟩
  | cons h messages ih =>
      obtain ⟨fitsHere, fits⟩ := List.forall_mem_cons.mp fits
      obtain ⟨shortHere, short⟩ := List.forall_mem_cons.mp short
      have sound := attributesAt_sound bytes h
      rw [visitAll, visitMessage_eq (total readRoute) s fitsHere shortHere]
      split_ifs with interrupted error
      · refine ⟨_, [⟨h, none⟩], rfl, rfl, .here rfl ?_ (.inr rfl)⟩
        exact nofun
      · exact absurd ⟨not_not.mp interrupted, .inl error⟩ calm
      · obtain ⟨⟨found, next⟩, prints⟩ :=
          @printed_total _ readRoute bytes s h
        rw [prints]
        by_cases taken : found = 0
        · subst taken
          have later : ¬MeetsError (total readRoute) bytes messages next :=
            fun meets => calm ⟨not_not.mp interrupted,
              .inr ⟨next, prints, meets⟩⟩
          obtain ⟨dump, front, walked, appended, ends⟩ :=
            ih next fits short (visits ++ [⟨h, attributesAt bytes h⟩]) later
          refine ⟨dump, ⟨h, attributesAt bytes h⟩ :: front, walked, ?_,
            ends.cons rfl sound⟩
          rw [appended, List.append_assoc, List.singleton_append]
        · simp only [Option.map_some, if_pos (show found ≠ 0 from taken)]
          exact ⟨_, [⟨h, attributesAt bytes h⟩], rfl, rfl,
            .here rfl sound (.inl rfl)⟩

end TotalWalk

/-- The messages that fit into a datagram. -/
def messagesIn (bytes : List U8) : List Nat :=
  nlmsgLayout.records (nlmsgLengthAt bytes) (endOf 0 (recvStatus bytes)) 0

theorem endOf_recvStatus_le (bytes : List U8) :
    endOf 0 (recvStatus bytes) ≤ bytes.length := by
  have le : (BitVec.ofNat 32 bytes.length).toNat ≤ bytes.length := by
    rw [BitVec.toNat_ofNat]
    exact Nat.mod_le _ _
  have signed := BitVec.toInt_eq_toNat_cond (BitVec.ofNat 32 bytes.length)
  unfold endOf recvStatus
  split_ifs at signed <;> omega

theorem fits_of_mem_messagesIn {bytes : List U8} {h : Nat}
    (member : h ∈ messagesIn bytes) :
    nlmsgLayout.Fits (nlmsgLengthAt bytes) bytes.length h ∧
      nlmsgLengthAt bytes h < 2 ^ 31 := by
  obtain ⟨_, fits⟩ := Layout.fits_of_mem_records member
  refine ⟨fits.mono (endOf_recvStatus_le bytes), ?_⟩
  have word := (recvStatus bytes).toInt_lt
  have whole := fits.2.2
  unfold endOf at whole
  omega

theorem getRouteDumpResponse_eq {State : Type}
    (readRoute : Nat → List (Option Nat) → State → Option (Int × State))
    (bytes : List U8) (s : State) :
    getRouteDumpResponse readRoute (.datagram bytes) s =
      if (recvStatus bytes).toInt < 0 then none
      else visitAll readRoute bytes (recvStatus bytes).toInt
        (messagesIn bytes) [] s := by
  rw [getRouteDumpResponse, messageLoop_eq readRoute s _ rfl
    (endOf_recvStatus_le bytes)]
  rfl

/-- The bytes of a caller of `parse_rtattr`. -/
structure Region (bytes : List U8) where
  rta : Nat
  len : U32
  inside : endOf rta len ≤ bytes.length

/-- What the walk over a datagram has read: its messages in turn, all of them
unless it returns at one, with attributes that lie in them. -/
structure Dump.Sound {State : Type} (bytes : List U8) (dump : Dump State) :
    Prop where
  visited : dump.visits.map Visit.h <+: messagesIn bytes
  all : dump.ret = 1 ∨ dump.ret = -1 ∨
    dump.ret = (recvStatus bytes).toInt ∧
      dump.visits.map Visit.h = messagesIn bytes
  inside : ∀ visit ∈ dump.visits, 16 ≤ nlmsgLengthAt bytes visit.h ∧
    visit.h + nlmsgLengthAt bytes visit.h ≤ bytes.length
  few : 16 * dump.visits.length ≤ bytes.length
  attributes : ∀ visit ∈ dump.visits, visit.Sound bytes

/-- Both walks over a datagram end, and what they visit lies inside it. -/
structure WalksInside {State : Type}
    (readRoute : Nat → List (Option Nat) → State → Int × State)
    (bytes : List U8) (s : State) : Prop where
  attributes : ∀ (max : Nat) (region : Region bytes), ∃ attributes,
    parseRtattr bytes max region.rta region.len = some attributes ∧
      attributes.Sound bytes max region.rta (endOf region.rta region.len)
  messages : ∃ dump,
    getRouteDumpResponse (total readRoute) (.datagram bytes) s =
      some dump ∧ dump.Sound bytes

section Walks

variable {State : Type}
  (readRoute : Nat → List (Option Nat) → State → Int × State)
  {bytes : List U8} (s : State)

theorem WalkEnds.dumpSound {status : Int} {dump : Dump State}
    (same : status = (recvStatus bytes).toInt)
    (ends : WalkEnds bytes status (messagesIn bytes) dump.visits dump.ret) :
    dump.Sound bytes := by
  subst same
  refine ⟨ends.first, ends.all, fun visit member => ?_, ?_, ends.sound⟩
  · exact (fits_of_mem_messagesIn
      (ends.first.subset (List.mem_map_of_mem member))).1.2
  · have counted := Layout.header_mul_records_length_le nlmsgLayout
      (nlmsgLengthAt bytes) (endOf 0 (recvStatus bytes)) 0
    have least := ends.first.length_le
    rw [List.length_map] at least
    calc 16 * dump.visits.length
        ≤ 16 * (messagesIn bytes).length := Nat.mul_le_mul_left 16 least
      _ ≤ endOf 0 (recvStatus bytes) := counted
      _ ≤ bytes.length := endOf_recvStatus_le bytes

theorem getRouteDumpResponse_of_meetsError
    (meets : MeetsError (total readRoute) bytes (messagesIn bytes) s) :
    getRouteDumpResponse (total readRoute) (.datagram bytes) s = none := by
  rw [getRouteDumpResponse_eq, visitAll_of_meetsError (total readRoute) s _
    (fun h member => (fits_of_mem_messagesIn member).1)
    (fun h member => (fits_of_mem_messagesIn member).2) [] meets, ite_self]

/-- On every received bytes both walks stay inside, exactly when `recv` can
tell their length and the walk comes to no `NLMSG_ERROR`. -/
theorem walksInside_iff :
    WalksInside readRoute bytes s ↔
      0 ≤ (recvStatus bytes).toInt ∧
        ¬MeetsError (total readRoute) bytes (messagesIn bytes) s := by
  constructor
  · rintro ⟨_, dump, walked, _⟩
    constructor
    · by_contra negative
      rw [getRouteDumpResponse, if_pos (Int.not_le.mp negative)] at walked
      cases walked
    · intro meets
      rw [getRouteDumpResponse_of_meetsError readRoute s meets] at walked
      cases walked
  · rintro ⟨told, calm⟩
    constructor
    · intro max region
      exact ⟨_, parseRtattr_eq max rfl region.inside,
        attributesIn_sound bytes max _ _⟩
    · obtain ⟨dump, front, walked, visits, ends⟩ :=
        visitAll_ends readRoute s (recvStatus bytes).toInt
          (fun h member => (fits_of_mem_messagesIn member).1)
          (fun h member => (fits_of_mem_messagesIn member).2) [] calm
      rw [List.nil_append] at visits
      subst visits
      refine ⟨dump, ?_, ends.dumpSound rfl⟩
      rw [getRouteDumpResponse_eq, if_neg (Int.not_lt.mpr told), walked]

end Walks

/-- What the kernel answers to a request that fails: an `NLMSG_ERROR` with an
error number and the header of the request. -/
def errorDatagram : List U8 :=
  bytes32 36 ++ bytes16 nlmsgError ++ bytes16 0 ++ bytes32 0 ++ bytes32 0 ++
    bytes32 (-1) ++ List.replicate 16 0

theorem errorDatagram_not_walksInside :
    ¬WalksInside (fun _ _ s => (0, s)) errorDatagram () := by
  rintro ⟨_, dump, walked, _⟩
  have fits : nlmsgLayout.Fits (nlmsgLengthAt errorDatagram)
      (endOf 0 (recvStatus errorDatagram)) 0 := by decide
  have error : visitMessage (total fun _ _ s => (0, s)) errorDatagram 0 () =
      none := by decide
  rw [getRouteDumpResponse_eq, if_neg (by decide), messagesIn,
    Layout.records_of_fits fits, visitAll, error] at walked
  cases walked

end Rsvpd.Netlink
