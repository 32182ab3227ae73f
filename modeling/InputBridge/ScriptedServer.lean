-- SUMMARY: A display server that follows a script and writes down what it is asked.
import InputBridge.Assoc
import InputBridge.Server

/-!
# Scripted display servers

A display server that grants what it is asked for unless a script says otherwise,
and writes down every request. It answers warps and barriers with numbers that
count up on each link. Its keymaps are given key by key.
-/

namespace InputBridge

/-! ## Keymaps given key by key -/

/-- A key: its symbol name, and its characters level by level, without and with
Caps Lock. -/
structure ScriptedKey where
  name : Option String := none
  levels : List (Option Char) := []
  /-- Caps Lock turns Shift around. -/
  capsInvertsShift : Bool := false
  capsLevels : Option (List (Option Char)) := none
  deriving DecidableEq, Repr, Inhabited

structure ScriptedGroup where
  description : Option String := none
  keys : Assoc UInt32 ScriptedKey := []
  deriving DecidableEq, Repr, Inhabited

structure ScriptedKeymap where
  minKeycode : UInt32 := 8
  maxKeycode : UInt32 := 255
  /-- The number of groups that is told, if it is not that of `groups`. -/
  groupCount : Option UInt32 := none
  groups : List ScriptedGroup := [{}]
  modifiers : Assoc String UInt32 :=
    [("Shift", 1), ("Lock", 2), ("Control", 4), ("Mod1", 8), ("Mod2", 16), ("Mod5", 128)]
  /-- Every key is named by its keycode, padded to this width. -/
  namesOfWidth : Option Nat := none
  deriving DecidableEq, Repr, Inhabited

/-- The level of a key under modifiers: one more under Shift, two more under the
fifth modifier. -/
def levelOf (capsInvertsShift : Bool) (modifiers : UInt32) : Nat :=
  let lock := modifiers &&& 2 != 0
  let shift := (modifiers &&& 1 != 0) != (capsInvertsShift && lock)
  (if shift then 1 else 0) + (if modifiers &&& 0x80 != 0 then 2 else 0)

def ScriptedKey.character (k : ScriptedKey) (modifiers : UInt32) : Option Char :=
  let levels :=
    match k.capsLevels with
    | some levels => if modifiers &&& 2 != 0 then levels else k.levels
    | none => k.levels
  (levels[levelOf k.capsInvertsShift modifiers]?).join

def ScriptedKeymap.toKeymap (k : ScriptedKeymap) : Keymap where
  minKeycode := k.minKeycode
  maxKeycode := k.maxKeycode
  groups := k.groupCount.getD (UInt32.ofNat k.groups.length)
  groupName g := (k.groups[g.toNat]?).bind (·.description)
  symbolName keycode g :=
    match k.namesOfWidth with
    | some width => some (Text.padLeft '0' width (toString keycode.toNat))
    | none => ((k.groups[g.toNat]?).bind (·.keys.get? keycode)).bind (·.name)
  modifierMask name := (k.modifiers.get? name).getD 0
  character keycode g modifiers :=
    ((k.groups[g.toNat]?).bind (·.keys.get? keycode)).bind (·.character modifiers)

/-! ## Scripts -/

/-- The kinds of requests that a script can have refused. -/
inductive RequestKind where
  | barrierSupport
  | pointer
  | keyboard
  | keyboardReport
  | rules
  | keymap
  | startEvents
  | flush
  | selectInput
  | warp
  | createBarrier
  | deleteBarrier
  deriving DecidableEq, Repr, Inhabited

def Request.kind : Request → RequestKind
  | .barrierSupport => .barrierSupport
  | .pointer => .pointer
  | .keyboard => .keyboard
  | .keyboardReport _ => .keyboardReport
  | .rules => .rules
  | .keymap _ => .keymap
  | .startEvents => .startEvents
  | .flush => .flush
  | .selectInput .. => .selectInput
  | .warp .. => .warp
  | .createBarrier _ => .createBarrier
  | .deleteBarrier _ => .deleteBarrier

/-- The word for a kind in a refusal. -/
def RequestKind.word : RequestKind → String
  | .barrierSupport => "xfixes"
  | .pointer => "xinput"
  | .keyboard => "xkb"
  | .keyboardReport => "xkb_state"
  | .rules => "rules"
  | .keymap => "keymap"
  | .startEvents => "start_events"
  | .flush => "flush"
  | .selectInput => "select"
  | .warp => "warp"
  | .createBarrier => "barrier"
  | .deleteBarrier => "unbarrier"

structure Script where
  root : UInt32 := 256
  width : UInt16 := 1920
  height : UInt16 := 1080
  pointer : UInt16 := 2
  axes : List Axis := [⟨0, false, ⟨-1, 0⟩, ⟨-1, 0⟩⟩, ⟨1, false, ⟨-1, 0⟩, ⟨-1, 0⟩⟩]
  keyboard : UInt8 := 3
  report : KeyboardReport := ⟨0, 0⟩
  keymap : ScriptedKeymap := {}
  rules : List UInt8 := []
  refused : List RequestKind := []
  /-- The barrier of a link that is refused, counted from 1. -/
  refusedBarrier : Option Nat := none
  refusedDisplays : List String := []
  deriving DecidableEq, Repr, Inhabited

/-! ## The server -/

/-- What the server writes down. -/
inductive ScriptedCall where
  | openLink (display : String)
  /-- A request, with the number it was answered with, if any. -/
  | request (link : Nat) (r : Request) (number : Option Nat)
  | closeLink (link : Nat)
  deriving DecidableEq, Repr

/-- The counters of a link. -/
structure ScriptedLink where
  nextWarp : Nat := 101
  nextBarrier : Nat := 0x401
  /-- How many barriers have been asked for. -/
  barriers : Nat := 0
  deriving DecidableEq, Repr, Inhabited

structure ScriptedServer where
  script : Script
  links : List ScriptedLink := []
  /-- What was written down, the latest first. -/
  calls : List ScriptedCall := []
  deriving DecidableEq, Repr, Inhabited

namespace ScriptedServer

/-- How a refused request is refused. -/
def refusalOf (r : Request) : Refusal :=
  match r with
  | .barrierSupport | .pointer | .keyboard | .startEvents =>
    .extension "mock" s!"{r.kind.word} refused"
  | .keymap device => .keymap s!"device {device.toNat} refused"
  | _ => .request s!"{r.kind.word} refused"

def note (s : ScriptedServer) (call : ScriptedCall) : ScriptedServer :=
  { s with calls := call :: s.calls }

def openLink (display : String) (s : ScriptedServer) : Except String Link × ScriptedServer :=
  let s := s.note (.openLink display)
  if display ∈ s.script.refusedDisplays then (.error "refused", s)
  else
    (.ok ⟨s.links.length, s.script.root, s.script.width, s.script.height⟩,
      { s with links := s.links ++ [{}] })

/-- Answers a request that carries no number. -/
def answerPlain (link : Nat) (r : Request) (answer : r.Answer) (s : ScriptedServer) :
    Except Refusal r.Answer × ScriptedServer :=
  let s := s.note (.request link r none)
  (if r.kind ∈ s.script.refused then .error (refusalOf r) else .ok answer, s)

def answerWarp (link : Nat) (x y : Int32) (s : ScriptedServer) :
    Except Refusal UInt64 × ScriptedServer :=
  let r := Request.warp x y
  let l := s.links.getD link {}
  if r.kind ∈ s.script.refused then
    (.error (refusalOf r), s.note (.request link r none))
  else
    (.ok (UInt64.ofNat l.nextWarp),
      { s with links := s.links.set link { l with nextWarp := l.nextWarp + 1 } }.note
        (.request link r (some l.nextWarp)))

def answerBarrier (link : Nat) (barrier : Barrier) (s : ScriptedServer) :
    Except Refusal UInt32 × ScriptedServer :=
  let r := Request.createBarrier barrier
  let l := s.links.getD link {}
  let count := l.barriers + 1
  if s.script.refusedBarrier = some count then
    (.error (refusalOf r),
      { s with links := s.links.set link { l with barriers := count } }.note
        (.request link r none))
  else
    let l' := { l with barriers := count, nextBarrier := l.nextBarrier + 1 }
    (.ok (UInt32.ofNat l.nextBarrier),
      { s with links := s.links.set link l' }.note (.request link r (some l.nextBarrier)))

def answer (link : Nat) :
    (r : Request) → ScriptedServer → Except Refusal r.Answer × ScriptedServer
  | .pointer, s => s.answerPlain link .pointer (.ofAxes s.script.pointer s.script.axes)
  | .keyboard, s => s.answerPlain link .keyboard s.script.keyboard
  | .keyboardReport device, s => s.answerPlain link (.keyboardReport device) s.script.report
  | .rules, s => s.answerPlain link .rules (.ofBytes s.script.rules)
  | .keymap device, s => s.answerPlain link (.keymap device) s.script.keymap.toKeymap
  | .warp x y, s => s.answerWarp link x y
  | .createBarrier barrier, s => s.answerBarrier link barrier
  | .barrierSupport, s => s.answerPlain link .barrierSupport ()
  | .startEvents, s => s.answerPlain link .startEvents ()
  | .flush, s => s.answerPlain link .flush ()
  | .selectInput window enable, s => s.answerPlain link (.selectInput window enable) ()
  | .deleteBarrier id, s => s.answerPlain link (.deleteBarrier id) ()

def closeLink (link : Nat) (s : ScriptedServer) : ScriptedServer := s.note (.closeLink link)

/-- The server as one that the bridge can talk to. -/
def display : DisplayServer ScriptedServer where
  openLink
  answer
  closeLink

end ScriptedServer

end InputBridge
