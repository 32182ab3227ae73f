-- SUMMARY: Payloads in frames, and the reader for a stream of them.
import InputBridge.Wire.Decode

/-!
# Frames

A frame is the length of a payload in four bytes, the highest first, and the
payload. Payloads have a largest size. Bytes come in chunks of any sizes; the
reader keeps those that are not used yet, and the length it has already read.
-/

namespace InputBridge

namespace Frame

/-- The largest size of a payload. -/
def maxPayload : Nat := 16777216

/-- The size of a payload that is too large. -/
structure TooLarge where
  size : Nat
  deriving DecidableEq, Repr

def TooLarge.message (e : TooLarge) : String :=
  s!"payload too large: {e.size} bytes (max {maxPayload})"

/-! ## Writing -/

/-- Adds the frame of a payload to the output. Nothing is added if it is too large. -/
def putPayload (payload : List UInt8) : StateM (List UInt8) (Except TooLarge Unit) := do
  if maxPayload < payload.length then return .error ⟨payload.length⟩
  modify (· ++ Wire.bigEndian 4 payload.length)
  modify (· ++ payload)
  return .ok ()

/-- Adds the frame of a message to the output. -/
def put (m : Message) : StateM (List UInt8) (Except TooLarge Unit) := putPayload m.encode

/-- The frame of a message. -/
def ofMessage (m : Message) : Except TooLarge (List UInt8) :=
  let (result, frame) := (put m).run []
  result.map fun _ => frame

/-! ## Reading -/

structure Reader where
  /-- The length of the payload that comes next, if it has been read. -/
  pending : Option Nat := none
  /-- The bytes that are not used yet. -/
  buffer : List UInt8 := []
  deriving DecidableEq, Repr, Inhabited

namespace Reader

def feed (r : Reader) (chunk : List UInt8) : Reader := { r with buffer := r.buffer ++ chunk }

/-- Takes a payload of `length` bytes, if they are there. -/
def takePayload (buffer : List UInt8) (length : Nat) : Option (List UInt8) × Reader :=
  match Wire.Value.readBytes length buffer with
  | some (payload, rest) => (some payload, ⟨none, rest⟩)
  | none => (none, ⟨some length, buffer⟩)

/-- Takes the next payload, if it is complete. A length that is too large is used
up all the same. -/
def next (r : Reader) : Except TooLarge (Option (List UInt8)) × Reader :=
  match r.pending with
  | some length =>
    let (payload, r) := takePayload r.buffer length
    (.ok payload, r)
  | none =>
    match Wire.Value.readNumber 4 r.buffer with
    | none => (.ok none, r)
    | some (length, rest) =>
      -- the length alone decides, before any of the payload has come
      if maxPayload < length then (.error ⟨length⟩, ⟨none, rest⟩)
      else
        let (payload, r) := takePayload rest length
        (.ok payload, r)

/-- Takes payloads up to `limit` in number, while they are complete and before
the first error. -/
def takeUpTo : (limit : Nat) → Reader → List (List UInt8) × Option TooLarge × Reader
  | 0, r => ([], none, r)
  | limit + 1, r =>
    match r.next with
    | (.error e, r) => ([], some e, r)
    | (.ok none, r) => ([], none, r)
    | (.ok (some payload), r) =>
      let (payloads, e, r) := takeUpTo limit r
      (payload :: payloads, e, r)

/-- Takes every payload that is complete, up to the first error. Each of them uses
up a length that was read before, or four bytes at least. -/
def takeAll (r : Reader) : List (List UInt8) × Option TooLarge × Reader :=
  takeUpTo (r.buffer.length + 2) r

end Reader

/-! ## Messages -/

/-- Why the next message of a stream cannot be had. -/
inductive ReadError where
  | tooLarge (e : TooLarge)
  | undecodable
  deriving DecidableEq, Repr

/-- Takes the next message, if its frame is complete. -/
def Reader.nextMessage (r : Reader) : Except ReadError (Option Message) × Reader :=
  match r.next with
  | (.error e, r) => (.error (.tooLarge e), r)
  | (.ok none, r) => (.ok none, r)
  | (.ok (some payload), r) =>
    match Message.decode? payload with
    | some m => (.ok (some m), r)
    | none => (.error .undecodable, r)

/-- Takes messages up to `limit` in number, while they are complete and before the
first error. -/
def Reader.messagesUpTo : (limit : Nat) → Reader → List Message × Option ReadError × Reader
  | 0, r => ([], none, r)
  | limit + 1, r =>
    match r.nextMessage with
    | (.error e, r) => ([], some e, r)
    | (.ok none, r) => ([], none, r)
    | (.ok (some m), r) =>
      let (ms, e, r) := messagesUpTo limit r
      (m :: ms, e, r)

/-- Takes every message that is complete, up to the first error. -/
def Reader.allMessages (r : Reader) : List Message × Option ReadError × Reader :=
  messagesUpTo (r.buffer.length + 2) r

end Frame

end InputBridge
