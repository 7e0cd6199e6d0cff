import Rsvpd.CommandText
import Rsvpd.Lib.Stdio

/-!
# The tunnel that is typed in

`main` reads a tunnel id with `scanf` and two addresses with `fgets` into
arrays of 16 bytes.  An address of 15 characters fills its array, and the line
feed behind it is left to the next `fgets`.
-/

namespace Rsvpd

open CString (Byte Holds fgets scanLong numeral clampLong takeLine)

/-- The variables of `main` that are read in. -/
structure TunnelInput where
  tunnelId : U16
  srcip : List Byte
  dstip : List Byte

/-- Drop the line feed at the end of a string; an empty string would be
indexed at -1. -/
def dropNewline (array : List Byte) : Option (List Byte) := do
  let len ← CString.strlen array
  if len = 0 then none
  else if array[len - 1]? = some 10 then CString.store array (len - 1) 0
  else return array

/-- `main` up to the tunnel that was read, with what is left of the input. -/
def readTunnel (stack : TunnelInput) (input : List Byte) :
    Option (TunnelInput × List Byte) := do
  let (number, input) := scanLong input
  let tunnelId := (number.map (BitVec.ofInt 16)).getD stack.tunnelId
  -- `getchar`
  let input := input.tail
  let (srcip, input) ← fgets stack.srcip 16 input
  let (dstip, input) ← fgets stack.dstip 16 input
  let srcip ← dropNewline srcip
  let dstip ← dropNewline dstip
  return ({ tunnelId, srcip, dstip }, input)

/-- The tunnel, if `inet_pton` accepts both addresses. -/
def TunnelInput.config? (t : TunnelInput) : Option TunnelConfig := do
  let srcip ← (CString.read t.srcip).bind inetPton
  let dstip ← (CString.read t.dstip).bind inetPton
  return { tunnelId := t.tunnelId, srcip, dstip }

/-- Three lines and what follows them. -/
def typedLines (number : Int) (src dst rest : List Byte) : List Byte :=
  numeral number ++ 10 :: (src ++ 10 :: (dst ++ 10 :: rest))

/-- The characters of a line. -/
structure PlainLine (line : List Byte) : Prop where
  noZero : 0 ∉ line
  noFeed : 10 ∉ line

def lineRest (line rest : List Byte) : List Byte :=
  if line.length < 15 then rest else line.drop 15 ++ 10 :: rest

theorem inetNtop_plainLine (address : InAddr) :
    PlainLine (inetNtop address).bytes := by
  refine ⟨(inetNtop address).noZero, fun member => ?_⟩
  rcases inetNtop_digit member with dot | digit
  · exact absurd dot (by decide)
  · exact absurd digit.1 (by decide)

theorem PlainLine.drop {line : List Byte} (plain : PlainLine line)
    (count : Nat) : PlainLine (line.drop count) :=
  ⟨mt List.mem_of_mem_drop plain.noZero, mt List.mem_of_mem_drop plain.noFeed⟩

theorem dropNewline_feed {array text : List Byte}
    (holds : Holds array (text ++ [10])) :
    ∃ array', dropNewline array = some array' ∧ Holds array' text := by
  have length := CString.strlen_holds holds
  obtain ⟨noZero, rest, rfl⟩ := holds
  refine ⟨text ++ 0 :: 0 :: rest, ?_, ?_, 0 :: rest, rfl⟩
  · rw [dropNewline, length]
    simp [CString.store]
  · exact fun member => noZero (List.mem_append_left _ member)

theorem dropNewline_none {array text : List Byte} (holds : Holds array text)
    (some' : text ≠ []) (noFeed : 10 ∉ text) :
    dropNewline array = some array := by
  have length := CString.strlen_holds holds
  obtain ⟨_, rest, rfl⟩ := holds
  have positive := List.length_pos_of_ne_nil some'
  have last : ¬(text ++ 0 :: rest)[text.length - 1]? = some 10 := by
    rw [List.getElem?_append_left (Nat.sub_lt positive Nat.one_pos)]
    exact fun feed => noFeed (List.mem_of_getElem? feed)
  rw [dropNewline, length, Option.bind_eq_bind, Option.bind_some,
    if_neg positive.ne', if_neg last]
  rfl

/-- The array behind both calls has the first 15 characters of the line. -/
theorem fgets_line {array line : List Byte} (length : array.length = 16)
    (plain : PlainLine line) (rest : List Byte) :
    ∃ read array', fgets array 16 (line ++ 10 :: rest) =
        some (read, lineRest line rest) ∧
      dropNewline read = some array' ∧ Holds array' (line.take 15) := by
  have more : line ++ 10 :: rest ≠ [] := by simp
  by_cases short : line.length < 15
  · have noZero : 0 ∉ line ++ [10] := by simpa using plain.noZero
    have room : (line ++ [10]).length < array.length := by
      rw [List.length_append, List.length_singleton, length]
      omega
    have whole : takeLine (16 - 1) (line ++ 10 :: rest) =
        (line ++ [10], rest) := CString.takeLine_short plain.noFeed short rest
    obtain ⟨read, taken, _, holds⟩ :=
      CString.fgets_holds more whole noZero room
    obtain ⟨array', dropped, holds'⟩ := dropNewline_feed holds
    rw [lineRest, if_pos short, List.take_of_length_le short.le]
    exact ⟨read, array', taken, dropped, holds'⟩
  · have long := not_lt.mp short
    have most : (line.take 15).length = 15 := List.length_take_of_le long
    have room : (line.take 15).length < array.length := by
      rw [most, length]
      decide
    have cut : takeLine (16 - 1) (line ++ 10 :: rest) =
        (line.take 15, line.drop 15 ++ 10 :: rest) :=
      CString.takeLine_long plain.noFeed long (10 :: rest)
    obtain ⟨read, taken, _, holds⟩ := CString.fgets_holds more cut
      (mt List.mem_of_mem_take plain.noZero) room
    have same := dropNewline_none holds
      (List.ne_nil_of_length_pos (by rw [most]; decide))
      (mt List.mem_of_mem_take plain.noFeed)
    rw [lineRest, if_neg short]
    exact ⟨read, read, taken, same, holds⟩

def dstLine (src dst : List Byte) : List Byte :=
  if src.length < 15 then dst else src.drop 15

def typedRest (src dst rest : List Byte) : List Byte :=
  lineRest (dstLine src dst) (if src.length < 15 then rest
    else dst ++ 10 :: rest)

theorem readTunnel_typedLines {stack : TunnelInput}
    (srcip : stack.srcip.length = 16) (dstip : stack.dstip.length = 16)
    (number : Int) {src dst : List Byte} (plainSrc : PlainLine src)
    (plainDst : PlainLine dst) (rest : List Byte) :
    ∃ t, readTunnel stack (typedLines number src dst rest) =
        some (t, typedRest src dst rest) ∧
      t.tunnelId = BitVec.ofInt 16 (clampLong number) ∧
      Holds t.srcip (src.take 15) ∧
      Holds t.dstip ((dstLine src dst).take 15) := by
  have scanned := CString.scanLong_numeral number
    (show CString.isDigit 10 = false by decide)
    (src ++ 10 :: (dst ++ 10 :: rest))
  obtain ⟨first, srcArray, firstTaken, firstDropped, srcHolds⟩ :=
    fgets_line srcip plainSrc (dst ++ 10 :: rest)
  have left : lineRest src (dst ++ 10 :: rest) = dstLine src dst ++
      10 :: (if src.length < 15 then rest else dst ++ 10 :: rest) := by
    rw [lineRest, dstLine]
    split <;> rfl
  have plain : PlainLine (dstLine src dst) := by
    rw [dstLine]
    split
    · exact plainDst
    · exact plainSrc.drop 15
  obtain ⟨second, dstArray, secondTaken, secondDropped, dstHolds⟩ :=
    fgets_line dstip plain
      (if src.length < 15 then rest else dst ++ 10 :: rest)
  rw [left] at firstTaken
  refine ⟨⟨BitVec.ofInt 16 (clampLong number), srcArray, dstArray⟩, ?_, rfl,
    srcHolds, dstHolds⟩
  rw [readTunnel, typedLines, scanned]
  simp only [List.tail_cons, firstTaken, secondTaken, firstDropped,
    secondDropped, Option.bind_eq_bind, Option.bind_some, Option.map_some,
    Option.getD_some, Option.pure_def, typedRest]

theorem TunnelInput.config?_eq_some {t : TunnelInput} {src dst : List Byte}
    (srcHolds : Holds t.srcip src) (dstHolds : Holds t.dstip dst)
    {config : TunnelConfig} :
    t.config? = some config ↔ config.tunnelId = t.tunnelId ∧
      src = (inetNtop config.srcip).bytes ∧
      dst = (inetNtop config.dstip).bytes := by
  rw [config?, CString.read_holds srcHolds, CString.read_holds dstHolds,
    ← inetPton_eq_some, ← inetPton_eq_some]
  simp only [Option.bind_some, Option.bind_eq_bind, Option.bind_eq_some_iff,
    Option.pure_def, Option.some_inj]
  constructor
  · rintro ⟨srcip, read, dstip, read', rfl⟩
    exact ⟨rfl, read, read'⟩
  · rintro ⟨same, read, read'⟩
    exact ⟨config.srcip, read, config.dstip, read', by rw [← same]⟩

/-- Whatever lines are typed in, both addresses are accepted exactly when the
arrays got the texts of two addresses; two addresses on lines of their own are
read exactly when the first one has less than 15 characters. -/
theorem typed_tunnel_read {stack : TunnelInput}
    (srcip : stack.srcip.length = 16) (dstip : stack.dstip.length = 16)
    (number : Int) {src dst : List Byte} (plainSrc : PlainLine src)
    (plainDst : PlainLine dst) (rest : List Byte) :
    ∃ t, readTunnel stack (typedLines number src dst rest) =
        some (t, typedRest src dst rest) ∧
      (∀ config, t.config? = some config ↔
        config.tunnelId = BitVec.ofInt 16 (clampLong number) ∧
        src.take 15 = (inetNtop config.srcip).bytes ∧
        (dstLine src dst).take 15 = (inetNtop config.dstip).bytes) ∧
      ∀ a b, src = (inetNtop a).bytes → dst = (inetNtop b).bytes →
        t.config? = if src.length < 15
          then some ⟨BitVec.ofInt 16 (clampLong number), a, b⟩ else none := by
  obtain ⟨t, read, tunnelId, srcHolds, dstHolds⟩ :=
    readTunnel_typedLines srcip dstip number plainSrc plainDst rest
  refine ⟨t, read, ?_, ?_⟩
  · intro config
    rw [t.config?_eq_some srcHolds dstHolds, tunnelId]
  · rintro a b rfl rfl
    rw [List.take_of_length_le (inetNtop a).short] at srcHolds
    split_ifs with short
    · rw [dstLine, if_pos short,
        List.take_of_length_le (inetNtop b).short] at dstHolds
      exact (t.config?_eq_some srcHolds dstHolds).mpr
        ⟨tunnelId.symm, rfl, rfl⟩
    · -- The second array got nothing but the line feed.
      rw [Option.eq_none_iff_forall_ne_some]
      intro config accepted
      have text := ((t.config?_eq_some srcHolds dstHolds).mp accepted).2.2
      rw [dstLine, if_neg short, List.drop_of_length_le (inetNtop a).short,
        List.take_nil, ← inetPton_eq_some] at text
      exact absurd text (by simp [inetPton, inetPtonLoop])

def sampleTunnel : TunnelConfig :=
  ⟨7, ⟨htonl 0x0A000001⟩, ⟨htonl 0xC0A864C8⟩⟩

theorem sampleTunnel_read :
    ∃ t, readTunnel ⟨0, List.replicate 16 0, List.replicate 16 0⟩
        (typedLines 7 (inetNtop sampleTunnel.srcip).bytes
          (inetNtop sampleTunnel.dstip).bytes []) = some (t, [10]) ∧
      t.config? = some sampleTunnel := by
  obtain ⟨t, read, _, ownLines⟩ := @typed_tunnel_read
    ⟨0, List.replicate 16 0, List.replicate 16 0⟩ rfl rfl 7 _ _
    (inetNtop_plainLine sampleTunnel.srcip)
    (inetNtop_plainLine sampleTunnel.dstip) []
  have left : typedRest (inetNtop sampleTunnel.srcip).bytes
      (inetNtop sampleTunnel.dstip).bytes [] = [10] := by decide +kernel
  have short : (inetNtop sampleTunnel.srcip).bytes.length < 15 := by
    decide +kernel
  rw [left] at read
  have number : BitVec.ofInt 16 (clampLong 7) = sampleTunnel.tunnelId := by
    decide
  refine ⟨t, read, ?_⟩
  rw [ownLines _ _ rfl rfl, if_pos short, number]

end Rsvpd
