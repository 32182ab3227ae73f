-- SUMMARY: A stream of frames is taken apart in the same way however it is cut into chunks.
import InputBridge.Proofs.Wire.Message
import InputBridge.Wire.Frame

/-!
# Frames there and back

A stream is frames one after the other, up to a part of a frame or a length that is too
large. Whoever takes payloads from a reader has those of the stream, wherever it is cut
into chunks: a length that the reader has read is as good as its four bytes.
-/

namespace InputBridge.Frame

open Wire

variable {n limit : Nat} {m : Message} {e : TooLarge} {e? : Option TooLarge} {r : Reader}
variable {payload stream rest left left' out out' : List UInt8}
variable {payloads others chunks : List (List UInt8)}

/-! ## Writing -/

/-- The frame of a payload. -/
def ofPayload (payload : List UInt8) : List UInt8 := bigEndian 4 payload.length ++ payload

theorem put_of_le (h : m.encode.length ≤ maxPayload) (out : List UInt8) :
    (put m).run out = (.ok (), out ++ ofPayload m.encode) := by
  have hsize : ¬maxPayload < m.encode.length := Nat.not_lt.mpr h
  simp only [put, putPayload, if_neg hsize, ofPayload, ← List.append_assoc]
  rfl

theorem put_of_lt (h : maxPayload < m.encode.length) (out : List UInt8) :
    (put m).run out = (.error ⟨m.encode.length⟩, out) := by
  simp only [put, putPayload, if_pos h]
  rfl

theorem le_of_put_ok (h : ((put m).run out).1 = .ok ()) : m.encode.length ≤ maxPayload := by
  apply Nat.le_of_not_lt
  intro hlt
  rw [put_of_lt hlt] at h
  cases h

/-- Writes a frame for each message, one after the other. -/
def putEach (ms : List Message) (out : List UInt8) : List UInt8 :=
  ms.foldl (fun out m => ((put m).run out).2) out

theorem putEach_eq {ms : List Message} (h : ∀ m ∈ ms, m.encode.length ≤ maxPayload)
    (out : List UInt8) : putEach ms out = out ++ ms.flatMap (ofPayload ·.encode) := by
  induction ms generalizing out with
  | nil => simp [putEach]
  | cons m ms ih =>
    obtain ⟨hm, hms⟩ := List.forall_mem_cons.mp h
    have step : putEach (m :: ms) out = putEach ms (out ++ ofPayload m.encode) := by
      rw [putEach, List.foldl_cons, put_of_le hm]
      rfl
    rw [step, ih hms, List.flatMap_cons, List.append_assoc]

/-! ## Streams -/

/-- The payloads of a stream, the size that ends them if it is too large, and the bytes
that are no part of them. -/
def parse (stream : List UInt8) : List (List UInt8) × Option TooLarge × List UInt8 :=
  if stream.length < 4 then ([], none, stream)
  else
    let size := ofBigEndian (stream.take 4)
    if maxPayload < size then ([], some ⟨size⟩, stream.drop 4)
    else if stream.length < 4 + size then ([], none, stream)
    else
      let (payloads, e, left) := parse (stream.drop (4 + size))
      ((stream.drop 4).take size :: payloads, e, left)
termination_by stream.length
decreasing_by simp; omega

/-- What is in a stream, as its grammar. -/
inductive Parses : List UInt8 → List (List UInt8) → Option TooLarge → List UInt8 → Prop where
  /-- Fewer bytes than a length has. -/
  | short {stream : List UInt8} (h : stream.length < 4) : Parses stream [] none stream
  | tooLarge {n : Nat} (hn : n < 256 ^ 4) (h : maxPayload < n) (rest : List UInt8) :
      Parses (bigEndian 4 n ++ rest) [] (some ⟨n⟩) rest
  /-- Fewer bytes than the length says. -/
  | cut {n : Nat} {rest : List UInt8} (h : n ≤ maxPayload) (hrest : rest.length < n) :
      Parses (bigEndian 4 n ++ rest) [] none (bigEndian 4 n ++ rest)
  | frame {payload rest left : List UInt8} {payloads : List (List UInt8)} {e? : Option TooLarge}
      (h : payload.length ≤ maxPayload) (hrest : Parses rest payloads e? left) :
      Parses (ofPayload payload ++ rest) (payload :: payloads) e? left

theorem lt_of_le_maxPayload (h : n ≤ maxPayload) : n < 256 ^ 4 :=
  Nat.lt_of_le_of_lt h (by decide)

theorem parse_header (hn : n < 256 ^ 4) (rest : List UInt8) : parse (bigEndian 4 n ++ rest) =
    if maxPayload < n then ([], some ⟨n⟩, rest)
    else if rest.length < n then ([], none, bigEndian 4 n ++ rest)
    else
      let (payloads, e, left) := parse (rest.drop n)
      (rest.take n :: payloads, e, left) := by
  have hlength : (bigEndian 4 n ++ rest).length = 4 + rest.length := by simp
  have htake : (bigEndian 4 n ++ rest).take 4 = bigEndian 4 n := List.take_left' (by simp)
  have hdrop : (bigEndian 4 n ++ rest).drop 4 = rest := List.drop_left' (by simp)
  -- the four bytes of the length are there
  rw [parse, if_neg (by omega)]
  simp only [htake, ofBigEndian_bigEndian hn, ← List.drop_drop, hdrop, hlength,
    Nat.add_lt_add_iff_left]

theorem Parses.parse_eq (h : Parses stream payloads e? left) :
    parse stream = (payloads, e?, left) := by
  induction h with
  | short h => rw [parse, if_pos h]
  | tooLarge hn h rest => rw [parse_header hn, if_pos h]
  | cut h hrest =>
    rw [parse_header (lt_of_le_maxPayload h), if_neg (Nat.not_lt.mpr h), if_pos hrest]
  | frame h hrest ih =>
    rw [ofPayload, List.append_assoc, parse_header (lt_of_le_maxPayload h),
      if_neg (Nat.not_lt.mpr h), if_neg (by simp)]
    simp [ih]

/-- A stream that is long enough begins with a length. -/
theorem exists_header (h : 4 ≤ stream.length) :
    ∃ n rest, n < 256 ^ 4 ∧ stream = bigEndian 4 n ++ rest := by
  have hlength : (stream.take 4).length = 4 := by simp [h]
  have hlt := ofBigEndian_lt (stream.take 4)
  have hhead := bigEndian_ofBigEndian (stream.take 4)
  rw [hlength] at hlt hhead
  exact ⟨ofBigEndian (stream.take 4), stream.drop 4, hlt, by rw [hhead, List.take_append_drop]⟩

theorem exists_parses (stream : List UInt8) :
    ∃ payloads e? left, Parses stream payloads e? left := by
  induction hk : stream.length using Nat.strong_induction_on generalizing stream with
  | h k ih =>
    -- the length may be cut off, or be too large, or the payload may be cut off
    by_cases hshort : stream.length < 4
    · exact ⟨_, _, _, .short hshort⟩
    obtain ⟨n, rest, hlt, rfl⟩ := exists_header (Nat.le_of_not_lt hshort)
    by_cases hn : maxPayload < n
    · exact ⟨_, _, _, .tooLarge hlt hn rest⟩
    by_cases hrest : rest.length < n
    · exact ⟨_, _, _, .cut (Nat.le_of_not_lt hn) hrest⟩
    have hpayload : (rest.take n).length = n := by simp; omega
    have hframe : ofPayload (rest.take n) ++ rest.drop n = bigEndian 4 n ++ rest := by
      rw [ofPayload, hpayload, List.append_assoc, List.take_append_drop]
    -- what is behind the frame is shorter
    obtain ⟨payloads, e?, left, hparse⟩ := ih (rest.drop n).length (by simp at hk ⊢; omega) _ rfl
    rw [← hframe]
    exact ⟨_, _, _, .frame (by omega) hparse⟩

namespace Parses

/-- What follows a size that is too large does not matter. -/
theorem append_of_some (h : Parses stream payloads e? left) (he : e? = some e)
    (more : List UInt8) : Parses (stream ++ more) payloads e? (left ++ more) := by
  induction h with
  | short h | cut h hrest => cases he
  | tooLarge hn h rest =>
    rw [List.append_assoc]
    exact .tooLarge hn h (rest ++ more)
  | frame h hrest ih =>
    rw [List.append_assoc]
    exact .frame h (ih he)

/-- What is left of a stream goes on with what follows. -/
theorem append_of_none {more : List UInt8} {e' : Option TooLarge}
    (h : Parses stream payloads e? left) (he : e? = none)
    (hmore : Parses (left ++ more) others e' left') :
    Parses (stream ++ more) (payloads ++ others) e' left' := by
  induction h with
  | short h | cut h hrest => exact hmore
  | tooLarge hn h rest => cases he
  | frame h hrest ih =>
    rw [List.append_assoc]
    exact .frame h (ih he hmore)

/-- What is left of a stream has no payload. -/
theorem left_parses (h : Parses stream payloads e? left) (he : e? = none) :
    Parses left [] none left := by
  induction h with
  | short h => exact .short h
  | tooLarge hn h rest => cases he
  | cut h hrest => exact .cut h hrest
  | frame h hrest ih => exact ih he

/-- A stream that begins with frames has their payloads first. -/
theorem append_frames (h : ∀ payload ∈ payloads, payload.length ≤ maxPayload)
    (hrest : Parses rest others e? left) :
    Parses (payloads.flatMap ofPayload ++ rest) (payloads ++ others) e? left := by
  induction payloads with
  | nil => exact hrest
  | cons payload payloads ih =>
    obtain ⟨hpayload, hpayloads⟩ := List.forall_mem_cons.mp h
    rw [List.flatMap_cons, List.append_assoc]
    exact .frame hpayload (ih hpayloads)

/-- Frames one after the other have their payloads, and nothing is left. -/
theorem flatMap_ofPayload {ms : List Message} (h : ∀ m ∈ ms, m.encode.length ≤ maxPayload) :
    Parses (ms.flatMap (ofPayload ·.encode)) (ms.map Message.encode) none [] := by
  have hnil : Parses [] [] none [] := .short (by decide)
  have frames := append_frames (List.forall_mem_map.mpr h) hnil
  rwa [List.flatMap_map, List.append_nil, List.append_nil] at frames

end Parses

/-! ## Reading -/

namespace Reader

/-- The bytes that belong to no payload yet: those of a length that has been read, and
those that are not used. -/
def unread (r : Reader) : List UInt8 :=
  match r.pending with
  | some length => bigEndian 4 length ++ r.buffer
  | none => r.buffer

/-- A length that has been read is not too large. -/
def Sound (r : Reader) : Prop := ∀ length ∈ r.pending, length ≤ maxPayload

theorem sound_none (buffer : List UInt8) : Sound ⟨none, buffer⟩ := nofun

theorem sound_some (h : n ≤ maxPayload) (buffer : List UInt8) : Sound ⟨some n, buffer⟩ := by
  intro length hlength
  obtain rfl : n = length := by simpa using hlength
  exact h

theorem Sound.feed (hr : r.Sound) (chunk : List UInt8) : (r.feed chunk).Sound := hr

@[simp] theorem unread_feed (r : Reader) (chunk : List UInt8) :
    (r.feed chunk).unread = r.unread ++ chunk := by
  unfold unread feed
  cases r.pending <;> simp

theorem length_unread_le (r : Reader) : r.unread.length ≤ r.buffer.length + 4 := by
  unfold unread
  cases r.pending <;> simp; omega

theorem eq_of_unread_lt (h : r.unread.length < 4) : r = ⟨none, r.unread⟩ := by
  obtain ⟨pending, buffer⟩ := r
  cases pending with
  | none => rfl
  | some length => simp [unread] at h

/-- Where a length comes next, it has been read or it has not. -/
theorem cases_of_unread (hr : r.Sound) (hn : n < 256 ^ 4) (h : r.unread = bigEndian 4 n ++ rest) :
    r = ⟨none, bigEndian 4 n ++ rest⟩ ∨ n ≤ maxPayload ∧ r = ⟨some n, rest⟩ := by
  obtain ⟨pending, buffer⟩ := r
  cases pending with
  | none => exact .inl (congrArg (Reader.mk none) h)
  | some length =>
    have hle : length ≤ maxPayload := hr length rfl
    obtain ⟨hhead, hbuffer⟩ := List.append_inj h (by simp)
    -- the reader kept the number, and it is the only one with these four bytes
    have hlength : length = n := by
      rw [← ofBigEndian_bigEndian (lt_of_le_maxPayload hle), hhead, ofBigEndian_bigEndian hn]
    subst hlength
    exact .inr ⟨hle, congrArg (Reader.mk (some length)) hbuffer⟩

/-! ### One payload -/

theorem takePayload_append (payload rest : List UInt8) :
    takePayload (payload ++ rest) payload.length = (some payload, ⟨none, rest⟩) := by
  rw [takePayload, Value.readBytes_append]

theorem takePayload_of_lt (h : rest.length < n) : takePayload rest n = (none, ⟨some n, rest⟩) := by
  rw [takePayload, Value.readBytes_eq, if_neg (Nat.not_le.mpr h)]

theorem next_header (hr : r.Sound) (hn : n < 256 ^ 4) (h : r.unread = bigEndian 4 n ++ rest) :
    r.next = if maxPayload < n then (.error ⟨n⟩, ⟨none, rest⟩)
      else (.ok (takePayload rest n).1, (takePayload rest n).2) := by
  rcases cases_of_unread hr hn h with rfl | ⟨hle, rfl⟩
  · simp only [next, Value.readNumber_bigEndian hn]
  · rw [if_neg (Nat.not_lt.mpr hle)]
    rfl

theorem next_short (h : r.unread.length < 4) : r.next = (.ok none, r) := by
  have hread : Value.readNumber 4 r.unread = none := by
    rw [Value.readNumber, Value.readBytes_eq, if_neg (Nat.not_le.mpr h), Option.map_none]
  rw [eq_of_unread_lt h]
  simp only [next, hread]

theorem next_cases (hr : r.Sound) :
    (∃ e r', r.next = (.error e, r')) ∨
      (∃ r', r.next = (.ok none, r') ∧ r'.Sound ∧ r'.unread = r.unread) ∨
      ∃ payload r', r.next = (.ok (some payload), r') ∧ payload.length ≤ maxPayload ∧ r'.Sound ∧
        r.unread = ofPayload payload ++ r'.unread := by
  by_cases hshort : r.unread.length < 4
  · exact .inr (.inl ⟨r, next_short hshort, hr, rfl⟩)
  obtain ⟨n, rest, hn, hunread⟩ := exists_header (Nat.le_of_not_lt hshort)
  have hnext := next_header hr hn hunread
  by_cases hlarge : maxPayload < n
  · rw [if_pos hlarge] at hnext
    exact .inl ⟨_, _, hnext⟩
  have hle : n ≤ maxPayload := Nat.le_of_not_lt hlarge
  rw [if_neg hlarge] at hnext
  -- the length is taken in any case, which does not count as progress
  by_cases hrest : rest.length < n
  · rw [takePayload_of_lt hrest] at hnext
    exact .inr (.inl ⟨_, hnext, sound_some hle rest, hunread.symm⟩)
  · have hlength : (rest.take n).length = n := List.length_take_of_le (Nat.le_of_not_lt hrest)
    have htake := takePayload_append (rest.take n) (rest.drop n)
    rw [List.take_append_drop, hlength] at htake
    rw [htake] at hnext
    refine .inr (.inr ⟨rest.take n, _, hnext, by omega, sound_none _, ?_⟩)
    rw [hunread, ofPayload, hlength, List.append_assoc]
    exact congrArg _ (List.take_append_drop n rest).symm

/-! ### All that is there -/

/-- The payloads that can be taken are those of the bytes that were not used. -/
theorem takeUpTo_eq (h : Parses stream payloads e? left) (hr : r.Sound) (hs : r.unread = stream)
    (hlimit : stream.length < 4 * limit) :
    ∃ r', takeUpTo limit r = (payloads, e?, r') ∧ r'.unread = left ∧ r'.Sound := by
  obtain ⟨limit, rfl⟩ : ∃ k, limit = k + 1 := Nat.exists_eq_succ_of_ne_zero (by omega)
  induction h generalizing r limit with
  | short h =>
    rw [← hs] at h
    exact ⟨r, by rw [takeUpTo, next_short h], hs, hr⟩
  | tooLarge hn h rest =>
    have hnext := next_header hr hn hs
    rw [if_pos h] at hnext
    exact ⟨⟨none, rest⟩, by rw [takeUpTo, hnext], rfl, sound_none rest⟩
  | @cut n rest h hrest =>
    have hnext := next_header hr (lt_of_le_maxPayload h) hs
    rw [if_neg (Nat.not_lt.mpr h), takePayload_of_lt hrest] at hnext
    exact ⟨⟨some n, rest⟩, by rw [takeUpTo, hnext], rfl, sound_some h rest⟩
  | @frame payload rest left payloads e? h hrest ih =>
    rw [ofPayload, List.append_assoc] at hs hlimit
    have hnext := next_header hr (lt_of_le_maxPayload h) hs
    rw [if_neg (Nat.not_lt.mpr h), takePayload_append] at hnext
    -- each frame has a length of four bytes, which pays for one more turn
    have hless : rest.length < 4 * limit := by
      simp only [List.length_append, length_bigEndian] at hlimit
      omega
    obtain ⟨limit, rfl⟩ : ∃ k, limit = k + 1 := Nat.exists_eq_succ_of_ne_zero (by omega)
    obtain ⟨r', htake, hleft⟩ := ih (sound_none rest) rfl limit hless
    exact ⟨r', by rw [takeUpTo, hnext]; simp [htake], hleft⟩

theorem takeAll_eq (h : Parses r.unread payloads e? left) (hr : r.Sound) :
    ∃ r', r.takeAll = (payloads, e?, r') ∧ r'.unread = left ∧ r'.Sound :=
  takeUpTo_eq h hr rfl (by have := r.length_unread_le; omega)

/-! ### Chunks -/

/-- Takes every payload that is complete after each chunk, up to the first error. -/
def receive (r : Reader) : List (List UInt8) → List (List UInt8) × Option TooLarge × Reader
  | [] => ([], none, r)
  | chunk :: chunks =>
    match (r.feed chunk).takeAll with
    | (payloads, some e, r) => (payloads, some e, r)
    | (payloads, none, r) =>
      let (others, e, r) := r.receive chunks
      (payloads ++ others, e, r)

/-- What is received in chunks is what the whole stream holds. -/
theorem receive_eq (hr : r.Sound) (hidle : Parses r.unread [] none r.unread)
    (chunks : List (List UInt8)) :
    ∃ payloads e? r' left, r.receive chunks = (payloads, e?, r') ∧
      Parses (r.unread ++ chunks.flatten) payloads e? left ∧ (e? = none → r'.unread = left) := by
  induction chunks generalizing r with
  | nil => exact ⟨[], none, r, r.unread, rfl, by simpa using hidle, fun _ => rfl⟩
  | cons chunk chunks ih =>
    -- the parse of what has come so far is continued by what comes later
    obtain ⟨payloads, e?, left, hparse⟩ := exists_parses (r.feed chunk).unread
    obtain ⟨r', htake, rfl, hr'⟩ := takeAll_eq hparse (hr.feed chunk)
    rw [unread_feed] at hparse
    rw [List.flatten_cons, ← List.append_assoc]
    -- after an error no chunk is looked at
    cases e? with
    | some e =>
      exact ⟨payloads, some e, r', r'.unread ++ chunks.flatten, by rw [receive, htake],
        hparse.append_of_some rfl _, nofun⟩
    | none =>
      obtain ⟨others, e?, r'', left, hreceive, hothers, hleft⟩ := ih hr' (hparse.left_parses rfl)
      exact ⟨payloads ++ others, e?, r'', left, by rw [receive, htake]; simp [hreceive],
        hparse.append_of_none rfl hothers, hleft⟩

theorem eq_empty_of_unread (h : r.unread = []) : r = {} := by
  rw [eq_of_unread_lt (r := r) (by simp [h]), h]

theorem receive_new (h : Parses chunks.flatten payloads e? left) :
    ∃ r', receive {} chunks = (payloads, e?, r') ∧ (e? = none → r'.unread = left) := by
  obtain ⟨payloads', e', r', left', hreceive, hparse, hleft⟩ :=
    receive_eq (sound_none []) (.short (by decide)) chunks
  obtain ⟨rfl, rfl, rfl⟩ : payloads' = payloads ∧ e' = e? ∧ left' = left := by
    have hagree := hparse.parse_eq.symm.trans h.parse_eq
    simpa using hagree
  exact ⟨r', hreceive, hleft⟩

/-- Chunks of any sizes give the payloads of their stream, and the size that ends them.
Frames that were added one after the other give the messages' payloads and leave nothing
behind; a message that is too large adds nothing to the output. -/
theorem receive_chunks (chunks : List (List UInt8)) :
    ((receive {} chunks).1 = (receive {} [chunks.flatten]).1 ∧
      (receive {} chunks).2.1 = (receive {} [chunks.flatten]).2.1) ∧
    ((receive {} chunks).1 = (parse chunks.flatten).1 ∧
      (receive {} chunks).2.1 = (parse chunks.flatten).2.1) ∧
    (∀ ms : List Message, (∀ m ∈ ms, ∀ out, ((put m).run out).1 = .ok ()) →
      chunks.flatten = putEach ms [] → receive {} chunks = (ms.map Message.encode, none, {})) ∧
    ∀ m out e, ((put m).run out).1 = .error e → ((put m).run out).2 = out := by
  obtain ⟨payloads, e?, left, hparse⟩ := exists_parses chunks.flatten
  obtain ⟨r, hreceive, -⟩ := receive_new hparse
  have hwhole : Parses ([chunks.flatten] : List (List UInt8)).flatten payloads e? left := by
    simpa using hparse
  obtain ⟨r', hone, -⟩ := receive_new hwhole
  refine ⟨by simp [hreceive, hone], by simp [hreceive, hparse.parse_eq], ?_, ?_⟩
  · intro ms hms hchunks
    have hsmall : ∀ m ∈ ms, m.encode.length ≤ maxPayload := fun m hm => le_of_put_ok (hms m hm [])
    -- messages that are small enough are added whole, one behind the other
    rw [putEach_eq hsmall, List.nil_append] at hchunks
    obtain ⟨r, hreceive, hleft⟩ := receive_new (hchunks ▸ Parses.flatMap_ofPayload hsmall)
    rw [hreceive, eq_empty_of_unread (hleft rfl)]
  · intro m out e h
    have hlarge : maxPayload < m.encode.length := by
      apply Nat.lt_of_not_le
      -- a message that fits is never refused
      intro hle
      rw [put_of_le hle] at h
      cases h
    rw [put_of_lt hlarge]

/-- A cut inside a length and a cut inside a payload. -/
theorem receive_three_chunks :
    let ms : List Message := [.listLayouts 1, .connect 2 ":0"]
    let stream := putEach ms []
    receive {} [stream.take 3, (stream.drop 3).take 30, stream.drop 33] =
      (ms.map Message.encode, none, {}) := by
  apply (receive_chunks _).2.2.1
  · intro m hm out
    obtain rfl | rfl : m = .listLayouts 1 ∨ m = .connect 2 ":0" := by simpa using hm
    · rfl
    · rfl
  · rfl

end Reader

/-- The frame that is added for a message is read as this message. -/
theorem nextMessage_put (h : (put m).run out = (.ok (), out')) :
    ∃ payload, out' = out ++ ofPayload payload ∧ Payload.decode payload = .message m ∧
      ∀ rest, (Reader.feed {} (ofPayload payload ++ rest)).nextMessage =
        (.ok (some m), Reader.feed {} rest) := by
  have hle : m.encode.length ≤ maxPayload := le_of_put_ok (congrArg Prod.fst h)
  have hlt : m.encode.length < 2 ^ 32 := lt_of_le_maxPayload hle
  refine ⟨m.encode, ?_, Payload.decode_encode m hlt, ?_⟩
  · rw [put_of_le hle] at h
    exact (congrArg Prod.snd h).symm
  · intro rest
    have hsound : (Reader.feed {} (ofPayload m.encode ++ rest)).Sound := Reader.sound_none _
    -- seen by the reader, the frame is a length with what follows it
    have hunread : (Reader.feed {} (ofPayload m.encode ++ rest)).unread =
        bigEndian 4 m.encode.length ++ (m.encode ++ rest) := List.append_assoc _ _ _
    have hnext := Reader.next_header hsound (lt_of_le_maxPayload hle) hunread
    rw [if_neg (Nat.not_lt.mpr hle), Reader.takePayload_append] at hnext
    rw [Reader.nextMessage, hnext]
    simp only [m.decode?_encode hlt]
    rfl

theorem nextMessage_put_clipCursor :
    let m : Message := .clipCursor 3 (some ⟨0, 0, 640, 480⟩)
    ∃ payload, ((put m).run []).2 = [] ++ ofPayload payload ∧ Payload.decode payload = .message m ∧
      ∀ rest, (Reader.feed {} (ofPayload payload ++ rest)).nextMessage =
        (.ok (some m), Reader.feed {} rest) :=
  nextMessage_put rfl

end InputBridge.Frame
