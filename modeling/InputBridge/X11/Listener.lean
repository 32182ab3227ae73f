-- SUMMARY: What waiting for a connection comes to, and the turns of those who listen to it.
import InputBridge.X11.Connection

/-!
# Listeners

A listener waits for a connection to become readable and then takes every event
that is there. If the time is up before, it waits again, whatever others have read and
queued. It ends when nobody takes what it reports, and with a notice when the connection
is broken or an event cannot be read.
-/

namespace InputBridge

namespace X11

/-- What waiting for the connection comes to. -/
inductive Poll where
  | readable
  | timeout
  | interrupted
  | failed (reason : String)
  deriving DecidableEq, Repr

namespace Packet

/-- The extension without which an event is not known. -/
def extensionOf? : WireEvent → Option Extension
  | .newKeyboard _ | .keymapChanged | .keyboardState .. => some .keyboard
  | .error .. | .other => none
  | _ => some .input

/-- The event of the bridge that a packet stands for to one who knows some
extensions, if it stands for any. -/
def toEvent? (known : List Extension) (seq : Nat) (p : Packet) :
    Except ConnectionError (Option Event) :=
  match p with
  | .event e =>
    if (extensionOf? e).all known.contains then .ok (e.toEvent? (UInt64.ofNat seq)) else .ok none
  | .bytes b =>
    match WireEvent.ofBytes? known b with
    | none => .error .short
    | some e => .ok (e.toEvent? (UInt64.ofNat seq))

end Packet

namespace Connection

/-- Reports something, if somebody takes it. -/
def report (c : Connection) (n : Notice) : Connection :=
  if c.isDeaf then c else { c with notices := c.notices ++ [n] }

/-- Ends a listener. -/
def dismiss (c : Connection) : Connection := { c with listeners := c.listeners - 1 }

/-- A listener takes events, until there are none or it ends. -/
def drain (c : Connection) : List (Nat × Packet) → Connection
  | [] =>
    -- whether the connection is broken is seen when no event is left
    let c := { c with events := [] }
    if c.isBroken then (c.report (.failed ConnectionError.broken.message)).dismiss else c
  | (seq, p) :: rest =>
    match p.toEvent? c.known seq with
    | .error e => { c with events := rest }.report (.failed e.message) |>.dismiss
    | .ok none => drain c rest
    | .ok (some e) =>
      if c.isDeaf then { c with events := rest }.dismiss else drain (c.report (.event e)) rest

/-- One turn of a listener after it has waited. -/
def listen (c : Connection) : Poll → Connection
  | .readable => c.read.drain c.read.events
  | .timeout | .interrupted => c
  | .failed reason => (c.report (.failed reason)).dismiss

/-- What waiting for the connection comes to: it is readable if there is something to read or it
is broken. Somebody who waits for an answer may have read the events, and then it is not. Some
connections are readable as long as events are queued, wherever they are. -/
def poll (signalsQueued : Bool) (c : Connection) : Poll :=
  if c.isBroken || !c.incoming.isEmpty || (signalsQueued && !c.events.isEmpty) then .readable
  else .timeout

/-- A turn of each of the listeners. One that goes on takes all there is if it takes anything, so
that further turns change nothing. -/
def settle (signalsQueued : Bool) (c : Connection) : Connection := go c.listeners c
where
  go : Nat → Connection → Connection
    | 0, c => c
    | n + 1, c => go n (c.listen (c.poll signalsQueued))

end Connection

end X11

end InputBridge
