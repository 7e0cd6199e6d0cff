import Rsvpd.AddressText
import Rsvpd.Lib.Format
import Rsvpd.Teardown
import Mathlib.Algebra.Order.BigOperators.Group.List

/-!
# The command lines given to `system`

`receive_resv_message` and `update_tables` print a route into `command[200]`.
The lines fit, and a line tells the route that it names.
-/

namespace Rsvpd

open CString (Byte Text Holds ofString fill Delimited snprintf)

inductive Verb where
  | add
  | del
deriving DecidableEq

/-- The three kinds of routes, each with its format string. -/
inductive RouteKind where
  | push
  | pop
  | swap
deriving DecidableEq

/-- What a format string begins with. -/
def program : Verb → RouteKind → List Byte
  | .add, .push => ofString "ip route add "
  | .del, .push => ofString "ip route del "
  | .add, _ => ofString "ip -M route add "
  | .del, _ => ofString "ip -M route del "

/-- The other literals of a format string. -/
def separators : RouteKind → List (List Byte)
  | .push => ["/", " encap mpls ", " via ", " dev "].map ofString
  | .pop => [" via inet ", " dev "].map ofString
  | .swap => [" as ", " via inet "].map ofString

def KernelRoute.kind : KernelRoute → RouteKind
  | .push .. => .push
  | .pop .. => .pop
  | .swap .. => .swap

/-- The arguments of `snprintf` as they are printed. -/
def KernelRoute.fields : KernelRoute → List (List Byte)
  | .push network prefixLen outLabel via dev =>
      [(inetNtop network).bytes, (Text.u8 prefixLen).bytes,
        (Text.i32 outLabel).bytes, (inetNtop via).bytes, ofString dev]
  | .pop inLabel via dev =>
      [(Text.i32 inLabel).bytes, (inetNtop via).bytes, ofString dev]
  | .swap inLabel outLabel via =>
      [(Text.i32 inLabel).bytes, (Text.i32 outLabel).bytes,
        (inetNtop via).bytes]

/-- The line that names a route. -/
def KernelRoute.line (verb : Verb) (route : KernelRoute) : List Byte :=
  fill (program verb route.kind :: separators route.kind) route.fields

def Command.line : Command → List Byte
  | .add route => route.line .add
  | .del route => route.line .del

/-- `command` as `system` finds it. -/
def Command.buffer (command : Command) : List Byte :=
  snprintf 200 command.line

/-- A name that fits in `dev[16]`. -/
structure DeviceName (dev : String) : Prop where
  bytes : ∀ char ∈ dev.toList, 0 < char.toNat ∧ char.toNat < 256
  short : dev.toList.length < 16

/-- The route goes through a device with a name, if it names one. -/
def KernelRoute.Named : KernelRoute → Prop
  | .push _ _ _ _ dev => DeviceName dev
  | .pop _ _ dev => DeviceName dev
  | .swap .. => True

def Command.Named : Command → Prop
  | .add route => route.Named
  | .del route => route.Named

theorem inetNtop_digit {address : InAddr} {byte : Byte}
    (member : byte ∈ (inetNtop address).bytes) :
    byte = 46 ∨ 48 ≤ byte.toNat ∧ byte.toNat ≤ 57 := by
  rw [inetNtop_bytes] at member
  simp only [List.mem_append, List.mem_cons] at member
  rcases member with inside | rfl | inside | rfl | inside | rfl | inside
  · exact .inr (Text.u8_digit inside)
  · exact .inl rfl
  · exact .inr (Text.u8_digit inside)
  · exact .inl rfl
  · exact .inr (Text.u8_digit inside)
  · exact .inl rfl
  · exact .inr (Text.u8_digit inside)

/-- No field but a device name has a blank or a slash. -/
theorem blank_notMem_inetNtop (address : InAddr) :
    32 ∉ (inetNtop address).bytes := by
  intro member
  rcases inetNtop_digit member with dot | digit
  · exact absurd dot (by decide)
  · exact absurd digit.1 (by decide)

theorem slash_notMem_inetNtop (address : InAddr) :
    47 ∉ (inetNtop address).bytes := by
  intro member
  rcases inetNtop_digit member with dot | digit
  · exact absurd dot (by decide)
  · exact absurd digit.1 (by decide)

theorem blank_notMem_u8 (number : U8) : 32 ∉ (Text.u8 number).bytes :=
  fun member => absurd (Text.u8_digit member).1 (by decide)

theorem blank_notMem_i32 (number : U32) : 32 ∉ (Text.i32 number).bytes := by
  intro member
  rcases Text.i32_digit member with sign | digit
  · exact absurd sign (by decide)
  · exact absurd digit.1 (by decide)

theorem KernelRoute.delimited (verb : Verb) (route : KernelRoute) :
    Delimited (program verb route.kind :: separators route.kind)
      route.fields := by
  cases route with
  | push network prefixLen outLabel via dev =>
      refine ⟨?_, ?_, ?_, ?_, nofun, trivial⟩
      · rintro _ ⟨⟩
        exact ⟨47, _, rfl, slash_notMem_inetNtop network⟩
      · rintro _ ⟨⟩
        exact ⟨32, _, rfl, blank_notMem_u8 prefixLen⟩
      · rintro _ ⟨⟩
        exact ⟨32, _, rfl, blank_notMem_i32 outLabel⟩
      · rintro _ ⟨⟩
        exact ⟨32, _, rfl, blank_notMem_inetNtop via⟩
  | pop inLabel via dev =>
      refine ⟨?_, ?_, nofun, trivial⟩
      · rintro _ ⟨⟩
        exact ⟨32, _, rfl, blank_notMem_i32 inLabel⟩
      · rintro _ ⟨⟩
        exact ⟨32, _, rfl, blank_notMem_inetNtop via⟩
  | swap inLabel outLabel via =>
      refine ⟨?_, ?_, nofun, trivial⟩
      · rintro _ ⟨⟩
        exact ⟨32, _, rfl, blank_notMem_i32 inLabel⟩
      · rintro _ ⟨⟩
        exact ⟨32, _, rfl, blank_notMem_i32 outLabel⟩

theorem KernelRoute.length_fields (route : KernelRoute) :
    route.fields.length = (separators route.kind).length + 1 := by
  cases route <;> rfl

theorem DeviceName.noZero {dev : String} (name : DeviceName dev) :
    0 ∉ ofString dev := by
  intro member
  obtain ⟨char, inside, zero⟩ := List.mem_map.mp member
  obtain ⟨positive, small⟩ := name.bytes char inside
  have code := congrArg BitVec.toNat zero
  rw [BitVec.toNat_ofNat, Nat.mod_eq_of_lt small] at code
  rw [code] at positive
  exact absurd positive (by decide)

theorem DeviceName.length_lt {dev : String} (name : DeviceName dev) :
    (ofString dev).length < 16 := by
  rw [ofString, List.length_map]
  exact name.short

theorem KernelRoute.Named.fields {route : KernelRoute} (named : route.Named) :
    ∀ field ∈ route.fields, 0 ∉ field ∧ field.length ≤ 15 := by
  have address (a : InAddr) : 0 ∉ (inetNtop a).bytes ∧
      (inetNtop a).bytes.length ≤ 15 :=
    ⟨(inetNtop a).noZero, (inetNtop a).short⟩
  have label (x : U32) : 0 ∉ (Text.i32 x).bytes ∧
      (Text.i32 x).bytes.length ≤ 15 :=
    ⟨(Text.i32 x).noZero, (Text.i32 x).short.trans (by decide)⟩
  have device {dev : String} (name : DeviceName dev) :
      0 ∉ ofString dev ∧ (ofString dev).length ≤ 15 :=
    ⟨name.noZero, Nat.le_of_lt_succ name.length_lt⟩
  cases route with
  | push network prefixLen outLabel via dev =>
      have length : 0 ∉ (Text.u8 prefixLen).bytes ∧
          (Text.u8 prefixLen).bytes.length ≤ 15 :=
        ⟨(Text.u8 prefixLen).noZero,
          (Text.u8 prefixLen).short.trans (by decide)⟩
      simp only [KernelRoute.fields, List.forall_mem_cons]
      exact ⟨address network, length, label outLabel, address via,
        device named, nofun⟩
  | pop inLabel via dev =>
      simp only [KernelRoute.fields, List.forall_mem_cons]
      exact ⟨label inLabel, address via, device named, nofun⟩
  | swap inLabel outLabel via =>
      simp only [KernelRoute.fields, List.forall_mem_cons]
      exact ⟨label inLabel, label outLabel, address via, nofun⟩

theorem literals_spec (verb : Verb) (kind : RouteKind) :
    (∀ literal ∈ program verb kind :: separators kind, 0 ∉ literal) ∧
      ((program verb kind :: separators kind).map List.length).sum ≤ 45 ∧
      (separators kind).length ≤ 4 := by
  cases verb <;> cases kind <;> decide

theorem KernelRoute.line_fits {route : KernelRoute} (named : route.Named)
    (verb : Verb) :
    0 ∉ route.line verb ∧ (route.line verb).length < 200 := by
  obtain ⟨noZero, literals, few⟩ := literals_spec verb route.kind
  have fields := named.fields
  constructor
  · intro member
    rcases CString.mem_fill member with ⟨literal, inside, zero⟩ |
        ⟨field, inside, zero⟩
    · exact noZero literal inside zero
    · exact (fields field inside).1 zero
  · have length := CString.length_fill_le
      (program verb route.kind :: separators route.kind) route.fields
    have most : (route.fields.map List.length).sum ≤
        (route.fields.map List.length).length * 15 := by
      refine List.sum_le_card_nsmul _ 15 fun size member => ?_
      obtain ⟨field, inside, rfl⟩ := List.mem_map.mp member
      exact (fields field inside).2
    rw [List.length_map, route.length_fields] at most
    rw [KernelRoute.line]
    omega

theorem Command.buffer_holds {command : Command}
    (named : command.Named) : Holds command.buffer command.line := by
  cases command with
  | add route =>
      have fits := KernelRoute.line_fits named .add
      exact CString.snprintf_holds fits.1 fits.2
  | del route =>
      have fits := KernelRoute.line_fits named .del
      exact CString.snprintf_holds fits.1 fits.2

theorem DeviceName.injective {dev other : String} (name : DeviceName dev)
    (name' : DeviceName other) (same : ofString dev = ofString other) :
    dev = other :=
  CString.ofString_injective (fun char member => (name.bytes char member).2)
    (fun char member => (name'.bytes char member).2) same

theorem KernelRoute.fields_injective {route other : KernelRoute}
    (named : route.Named) (named' : other.Named)
    (kind : route.kind = other.kind) (same : route.fields = other.fields) :
    route = other := by
  cases route with
  | push network prefixLen outLabel via dev =>
      cases other with
      | push network' prefixLen' outLabel' via' dev' =>
          simp only [KernelRoute.fields, List.cons.injEq, and_true] at same
          obtain ⟨networks, lengths, labels, vias, devs⟩ := same
          rw [inetNtop_injective networks, Text.u8_injective lengths,
            Text.i32_injective labels, inetNtop_injective vias,
            DeviceName.injective named named' devs]
      | pop | swap => cases kind
  | pop inLabel via dev =>
      cases other with
      | pop inLabel' via' dev' =>
          simp only [KernelRoute.fields, List.cons.injEq, and_true] at same
          obtain ⟨labels, vias, devs⟩ := same
          rw [Text.i32_injective labels, inetNtop_injective vias,
            DeviceName.injective named named' devs]
      | push | swap => cases kind
  | swap inLabel outLabel via =>
      cases other with
      | swap inLabel' outLabel' via' =>
          simp only [KernelRoute.fields, List.cons.injEq, and_true] at same
          obtain ⟨labels, labels', vias⟩ := same
          rw [Text.i32_injective labels, Text.i32_injective labels',
            inetNtop_injective vias]
      | push | pop => cases kind

theorem program_injective {verb verb' : Verb} {kind kind' : RouteKind}
    (same : (program verb kind).take 13 = (program verb' kind').take 13) :
    verb = verb' ∧ (kind = kind' ∨ kind = .pop ∧ kind' = .swap ∨
      kind = .swap ∧ kind' = .pop) := by
  revert same
  cases verb <;> cases verb' <;> cases kind <;> cases kind' <;> decide

theorem KernelRoute.take_line (verb : Verb) (route : KernelRoute) :
    (route.line verb).take 13 = (program verb route.kind).take 13 := by
  have long : 13 ≤ (program verb route.kind).length := by
    cases verb <;> cases route.kind <;> decide
  obtain ⟨rest, shape⟩ := CString.fill_cons (program verb route.kind)
    (separators route.kind) route.fields
  rw [KernelRoute.line, shape, List.take_append_of_le_length long]

/-- The word behind the label tells a pop from a swap. -/
theorem KernelRoute.pop_ne_swap {route other : KernelRoute}
    (pop : route.kind = .pop) (swap : other.kind = .swap) (verb : Verb) :
    route.line verb ≠ other.line verb := by
  intro same
  cases route with
  | pop inLabel via dev =>
      cases other with
      | swap inLabel' outLabel' via' =>
          have programs : program verb .pop = program verb .swap := by
            cases verb <;> rfl
          have lines : program verb .pop ++ ((Text.i32 inLabel).bytes ++
                32 :: (ofString "via inet " ++ _)) =
              program verb .swap ++ ((Text.i32 inLabel').bytes ++
                32 :: (ofString "as " ++ _)) := same
          rw [programs] at lines
          have words := (CString.eq_of_append_cons_eq
            (blank_notMem_i32 inLabel) (blank_notMem_i32 inLabel')
            (List.append_cancel_left lines)).2
          cases words
      | push | pop => cases swap
  | push | swap => cases pop

theorem KernelRoute.line_injective {verb verb' : Verb}
    {route other : KernelRoute} (named : route.Named) (named' : other.Named)
    (same : route.line verb = other.line verb') :
    verb = verb' ∧ route = other := by
  have heads := congrArg (List.take 13) same
  rw [KernelRoute.take_line, KernelRoute.take_line] at heads
  obtain ⟨rfl, kinds⟩ := program_injective heads
  have kinds : route.kind = other.kind := by
    rcases kinds with alike | ⟨pop, swap⟩ | ⟨swap, pop⟩
    · exact alike
    · exact absurd same (KernelRoute.pop_ne_swap pop swap verb)
    · exact absurd same.symm (KernelRoute.pop_ne_swap pop swap verb)
  refine ⟨rfl, KernelRoute.fields_injective named named' kinds ?_⟩
  have delimited := other.delimited verb
  have count := other.length_fields
  rw [KernelRoute.line, KernelRoute.line] at same
  rw [← kinds] at delimited count same
  exact CString.fill_injective (route.delimited verb) delimited
    route.length_fields count same

theorem Command.line_injective {command other : Command}
    (named : command.Named) (named' : other.Named)
    (same : command.line = other.line) : command = other := by
  cases command with
  | add route =>
      cases other with
      | add route' =>
          exact congrArg Command.add
            (KernelRoute.line_injective named named' same).2
      | del route' =>
          cases (KernelRoute.line_injective named named' same).1
  | del route =>
      cases other with
      | del route' =>
          exact congrArg Command.del
            (KernelRoute.line_injective named named' same).2
      | add route' =>
          cases (KernelRoute.line_injective named named' same).1

/-- Every lookup that finds a route gives the name of its device. -/
def Env.NamesDevices (env : Env) : Prop :=
  ∀ dst, (env.insertRoute dst).ret ≠ 0 →
    DeviceName (env.insertRoute dst).dev

def Event.env : Event → Env
  | .datagram env _ => env
  | .pathTimer env => env
  | .resvTimer env => env

theorem newPathMsg_dev {env : Env} {buffer : Buffer} {p : PathMsg}
    (names : env.NamesDevices) (built : newPathMsg env buffer = some p) :
    DeviceName p.dev := by
  unfold newPathMsg at built
  dsimp only at built
  split at built
  case isFalse => cases built
  case isTrue routed =>
    have named := names _ routed
    split at built
    case h_1 => cases built; exact named
    case h_2 => split at built <;> cases built <;> exact named

theorem configuredPathMsg_dev {env : Env} {config : TunnelConfig}
    {p : PathMsg} (names : env.NamesDevices)
    (built : configuredPathMsg env config = some p) : DeviceName p.dev := by
  unfold configuredPathMsg at built
  dsimp only at built
  split at built
  case isFalse => cases built
  case isTrue routed =>
    have named := names _ routed
    split at built
    case h_1 => cases built; exact named
    case h_2 => split at built <;> cases built <;> exact named

theorem addedRoute_named {pa : PathMsg} (named : DeviceName pa.dev)
    (p : ResvMsg) : (addedRoute pa p).Named := by
  unfold addedRoute
  dsimp only
  split
  · exact named
  · split
    · exact named
    · trivial

/-- The path records and the commands so far name devices. -/
structure Daemon.NamesDevices (d : Daemon) : Prop where
  path : ∀ tunnelId p, d.pathTree.find tunnelId = some p → DeviceName p.dev
  commands : ∀ command ∈ d.commands, command.Named

section Steps

variable {env : Env} {config : TunnelConfig} {buffer : Buffer} {d : Daemon}

theorem startup_namesDevices (names : env.NamesDevices) :
    (startup env config).NamesDevices := by
  constructor
  · intro tunnelId p found
    cases built : configuredPathMsg env config with
    | none => simp [startup, built, Daemon.init] at found
    | some path =>
        rw [(startup_of_configured built).1] at found
        rcases RecordTree.find_insert_cases found with rfl | old
        · exact configuredPathMsg_dev names built
        · simp at old
  · simp

theorem receivePathMessage_namesDevices (names : env.NamesDevices)
    (held : d.NamesDevices) :
    (receivePathMessage env buffer d).NamesDevices := by
  constructor
  · intro tunnelId p found
    rw [receivePathMessage_pathTree] at found
    cases receivePathRecord_cases env buffer d with
    | found _ _ _ pathTree =>
        rw [pathTree] at found
        exact held.path tunnelId p found
    | missing _ _ _ pathTree =>
        rw [pathTree] at found
        exact held.path tunnelId p found
    | built made _ _ built _ pathTree =>
        rw [pathTree] at found
        rcases RecordTree.find_insert_cases found with rfl | old
        · exact newPathMsg_dev names built
        · exact held.path tunnelId p old
  · simpa using held.commands

theorem receiveResvMessage_namesDevices (held : d.NamesDevices) :
    (receiveResvMessage env buffer d).NamesDevices := by
  constructor
  · simpa using held.path
  · cases receiveResvMessage_cases env buffer d with
    | kept _ _ _ commands =>
        rw [commands]
        exact held.commands
    | noMemory _ _ _ _ _ _ commands =>
        rw [commands]
        exact held.commands
    | created pa path _ _ _ _ commands =>
        intro command member
        rw [commands, List.mem_append, List.mem_singleton] at member
        rcases member with old | rfl
        · exact held.commands command old
        · exact addedRoute_named (held.path _ pa path) _

theorem resvTimerHandler_namesDevices (held : d.NamesDevices) :
    (resvTimerHandler env d).NamesDevices := by
  constructor
  · intro tunnelId p found
    exact held.path tunnelId p (resvTimerHandler_findPathSome found)
  · simpa using held.commands

theorem pathTimerHandler_namesDevices (held : d.NamesDevices) :
    (pathTimerHandler env d).NamesDevices :=
  ⟨by simpa using held.path, by simpa using held.commands⟩

variable {guard : Daemon → Event → Prop}

theorem Reaches.namesDevices (run : Reaches guard env config d)
    (first : env.NamesDevices)
    (names : ∀ d event, guard d event → event.env.NamesDevices) :
    d.NamesDevices := by
  apply run.invariant
  · exact startup_namesDevices first
  · intro env buffer d held allowed _ _
    apply receivePathMessage_namesDevices (names _ _ allowed)
    exact ⟨by simpa using held.path, by simpa using held.commands⟩
  · intro env buffer d held _ _
    exact receiveResvMessage_namesDevices held
  · intro env d held _
    exact pathTimerHandler_namesDevices held
  · intro env d held _
    exact resvTimerHandler_namesDevices held

theorem removal_named {pa : PathMsg} (named : DeviceName pa.dev)
    {p : ResvMsg} {route : KernelRoute}
    (runs : removal pa p = .run route) : route.Named := by
  unfold removal at runs
  split_ifs at runs
  · cases runs
    trivial
  · cases runs
    exact named

theorem mem_runRemoval {removed : Removal} {command : Command}
    (member : command ∈ (runRemoval removed d).commands) :
    command ∈ d.commands ∨
      ∃ route, removed = .run route ∧ command = .del route := by
  cases removed with
  | run route =>
      rw [runRemoval, Daemon.emit_commands, List.mem_append] at member
      exact member.imp_right fun last => ⟨route, rfl, by simpa using last⟩
  | none => exact .inl member
  | logged route => exact .inl member

theorem updateTables_named (held : d.NamesDevices)
    {lookup : InAddr → NexthopAnswer} {tunnelId : U16} {d' : Daemon}
    (torn : updateTables lookup tunnelId d = some d') :
    ∀ command ∈ d'.commands, command.Named := by
  cases reservation : d.resvTree.find tunnelId with
  | none =>
      simp only [updateTables, reservation, Option.some_inj] at torn
      exact torn ▸ held.commands
  | some p =>
      cases path : d.pathTree.find tunnelId with
      | none => simp [updateTables, reservation, path] at torn
      | some pa =>
          obtain ⟨d'', torn', _, _, _, commands⟩ :=
            updateTables_of_records lookup reservation path
          cases torn.symm.trans torn'
          have device : (refreshPath (lookup pa.destIp) pa).dev = pa.dev := by
            unfold refreshPath
            split <;> rfl
          have named := held.path tunnelId pa path
          rw [← device] at named
          intro command member
          rw [commands] at member
          rcases mem_runRemoval member with old | ⟨route, runs, rfl⟩
          · exact held.commands command old
          · exact removal_named named runs

/-- Every line reaches `system` whole, and different commands have different
lines. -/
structure LinesTell (commands : List Command) : Prop where
  whole : ∀ command ∈ commands, Holds command.buffer command.line
  apart : ∀ command ∈ commands, ∀ other ∈ commands,
    command.line = other.line → command = other

theorem linesTell_of_named {commands : List Command}
    (named : ∀ command ∈ commands, command.Named) : LinesTell commands := by
  constructor
  · intro command member
    exact Command.buffer_holds (named command member)
  · intro command member other member' same
    exact Command.line_injective (named command member)
      (named other member') same

theorem Reaches.linesTell (run : Reaches guard env config d)
    (first : env.NamesDevices)
    (names : ∀ d event, guard d event → event.env.NamesDevices) :
    LinesTell d.commands ∧
      ∀ lookup tunnelId d', updateTables lookup tunnelId d = some d' →
        LinesTell d'.commands := by
  have held := run.namesDevices first names
  constructor
  · exact linesTell_of_named held.commands
  · intro lookup tunnelId d' torn
    exact linesTell_of_named (updateTables_named held torn)

end Steps

theorem toward_namesDevices (nhip : Option InAddr) (now : Int) :
    (Env.toward nhip now).NamesDevices := by
  intro dst _
  have letters : "eth0".toList = ['e', 't', 'h', '0'] := by decide
  have name : DeviceName "eth0" := by
    constructor
    · rw [letters]
      simp only [List.forall_mem_cons]
      exact ⟨by decide, by decide, by decide, by decide, nofun⟩
    · rw [letters]
      decide
  exact name

theorem isolated_namesDevices (now : Int) : (Env.isolated now).NamesDevices :=
  fun _ routed => absurd rfl routed

theorem transitEvents_linesTell :
    ∃ d, Transition.runEvents step
        (startup (.isolated 0) ⟨1, .any, .any⟩) transitEvents = some d ∧
      d.commands.map Command.line =
        [ofString "ip -M route add 16 via inet 3.0.0.0 dev eth0"] ∧
      (LinesTell d.commands ∧
        ∀ lookup tunnelId d', updateTables lookup tunnelId d = some d' →
          LinesTell d'.commands) := by
  have allowed : ∀ event ∈ transitEvents, ∀ _ : Daemon,
      event.env.NamesDevices := by
    intro event member _
    simp only [transitEvents, List.mem_cons, List.not_mem_nil, or_false]
      at member
    rcases member with rfl | rfl
    · exact toward_namesDevices _ _
    · exact toward_namesDevices _ _
  have printed : ((Transition.runEvents step
      (startup (.isolated 0) ⟨1, .any, .any⟩) transitEvents).map
        fun d => d.commands.map Command.line) =
      some [ofString "ip -M route add 16 via inet 3.0.0.0 dev eth0"] := by
    decide +kernel
  obtain ⟨d, run, lines⟩ := Option.map_eq_some_iff.mp printed
  have reached : Reaches (fun _ event => event.env.NamesDevices)
      (.isolated 0) ⟨1, .any, .any⟩ d :=
    .of_runEvents (fun event member d => allowed event member d) run
  exact ⟨d, run, lines, reached.linesTell (isolated_namesDevices 0)
    fun _ _ named => named⟩

end Rsvpd
