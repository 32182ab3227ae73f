-- SUMMARY: What is written to a client, as answers in order with what is sent unasked in between.
import InputBridge.Proofs.Daemon.Sides
import InputBridge.Proofs.Seat.Run
import Mathlib.Data.List.Forall2

/-!
# Conversations

What is written to a client are the answers to its requests, in their order, and in between
what the broker sends it unasked, in the order in which it was sent. While the session lives
nothing is lost: at most one request is without its answer, and the broker has that request
or has just answered it.
-/

namespace InputBridge

namespace Daemon

open InputBridge.Frame (maxPayload ofPayload Reader)

variable {x y : Traffic} {s s' : Session} {queue queue' : List Message} {m a : Message}
  {arrived payload : List UInt8} {taken : List (List UInt8)} {reader : Reader}
  {answered owed : List Payload} {p : Payload}

/-! ## What is said -/

/-- The requests among payloads: what is not malformed. -/
def requestsOf (taken : List (List UInt8)) : List Payload :=
  (taken.map Payload.decode).filter (· ≠ .malformed)

/-- The answers among what was written. -/
def repliesOf (written : List Message) : List Message := written.filter fun m => !m.isPush

/-- What was written unasked. -/
def pushesOf (written : List Message) : List Message := written.filter fun m => m.isPush

theorem requestsOf_append (taken more : List (List UInt8)) :
    requestsOf (taken ++ more) = requestsOf taken ++ requestsOf more := by
  simp [requestsOf]

theorem requestsOf_of_decode {p : Payload} (h : Payload.decode payload = p) :
    requestsOf [payload] = if p = .malformed then [] else [p] := by
  by_cases hp : p = .malformed <;> simp [requestsOf, h, hp]

theorem length_requestsOf_singleton (payload : List UInt8) :
    (requestsOf [payload]).length ≤ 1 := by
  rw [requestsOf_of_decode rfl]
  split <;> simp

theorem repliesOf_reply (written : List Message) (h : a.isPush = false) :
    repliesOf (written ++ [a]) = repliesOf written ++ [a] := by
  simp [repliesOf, h]

theorem repliesOf_push (written : List Message) (h : m.isPush = true) :
    repliesOf (written ++ [m]) = repliesOf written := by
  simp [repliesOf, h]

theorem pushesOf_reply (written : List Message) (h : a.isPush = false) :
    pushesOf (written ++ [a]) = pushesOf written := by
  simp [pushesOf, h]

theorem pushesOf_push (written : List Message) (h : m.isPush = true) :
    pushesOf (written ++ [m]) = pushesOf written ++ [m] := by
  simp [pushesOf, h]

/-! ## Reading -/

/-- The session takes the frames of what has arrived, one after the other. -/
structure Reading (arrived : List UInt8) (taken : List (List UInt8)) (s : Session) : Prop where
  sizes : ∀ p ∈ taken, p.length ≤ maxPayload
  frames : taken.flatMap ofPayload <+: arrived
  unread : s.phase ≠ .ended →
    s.reader.Sound ∧ arrived = taken.flatMap ofPayload ++ s.reader.unread

namespace Reading

theorem taken_prefix (h : Reading arrived taken s) : taken <+: (Frame.parse arrived).1 := by
  obtain ⟨rest, rfl⟩ := h.frames
  obtain ⟨others, e?, left, hrest⟩ := Frame.exists_parses rest
  rw [(Frame.Parses.append_frames h.sizes hrest).parse_eq]
  exact List.prefix_append taken others

theorem congr (h : Reading arrived taken s) (hreader : s'.reader = s.reader)
    (hphase : s'.phase ≠ .ended → s.phase ≠ .ended) : Reading arrived taken s' := by
  refine ⟨h.sizes, h.frames, fun hlive => ?_⟩
  rw [hreader]
  exact h.unread (hphase hlive)

theorem finish (h : Reading arrived taken s) : Reading arrived taken s'.finish :=
  ⟨h.sizes, h.frames, fun hlive => absurd rfl hlive⟩

theorem feed (h : Reading arrived taken s) (bytes : List UInt8) :
    Reading (arrived ++ bytes) taken { s with reader := s.reader.feed bytes } := by
  refine ⟨h.sizes, h.frames.trans (List.prefix_append ..), fun hlive => ?_⟩
  obtain ⟨hsound, hunread⟩ := h.unread hlive
  refine ⟨hsound.feed bytes, ?_⟩
  rw [Reader.unread_feed, ← List.append_assoc, ← hunread]

/-- A payload is taken off the front of what has not been read. -/
theorem take (h : Reading arrived taken s) (hlive : s.phase ≠ .ended)
    (htakes : s.Takes payload reader) (hreader : s'.reader = reader) :
    Reading arrived (taken ++ [payload]) s' := by
  obtain ⟨hsound, hunread⟩ := h.unread hlive
  obtain ⟨hsize, hsound', hsplit⟩ := htakes hsound
  have hframes : arrived = (taken ++ [payload]).flatMap ofPayload ++ s'.reader.unread := by
    rw [hunread, hsplit, hreader, List.flatMap_append, List.flatMap_singleton, List.append_assoc]
  refine ⟨?_, ⟨_, hframes.symm⟩, fun _ => ⟨hreader ▸ hsound', hframes⟩⟩
  rw [List.forall_mem_append, List.forall_mem_singleton]
  exact ⟨h.sizes, hsize⟩

theorem reads {payload? : Option (List UInt8)} {handed : Option Message}
    (h : Reading arrived taken s) (reads : s.Reads payload? s' handed) :
    Reading arrived (taken ++ payload?.toList) s' := by
  cases reads with
  -- what is read and not yet used may move from the stream to the reader
  | idle hidle =>
    rw [Option.toList_none, List.append_nil]
    refine ⟨h.sizes, h.frames, fun hlive => ?_⟩
    obtain ⟨hsound, hunread⟩ := h.unread hlive
    obtain ⟨hsound', hsame⟩ := hidle hsound
    exact ⟨hsound', hunread.trans (congrArg _ hsame.symm)⟩
  | close =>
    rw [Option.toList_none, List.append_nil]
    exact h.finish
  | hello hphase htakes | request hphase htakes =>
    exact h.take (by rw [hphase]; decide) htakes rfl
  | @unknown _ reader e hphase htakes =>
    have hlive : s.phase ≠ .ended := by
      rw [hphase]
      decide
    -- whether the answer can be written is of no account for what was read
    rcases { s with reader }.write_cases (.response (.failure e.id "unknown_type")) .ready with
      hwrite | hwrite
    · rw [hwrite]
      exact h.take hlive htakes rfl
    · rw [hwrite]
      exact h.take hlive htakes rfl
  | refuse hreading htakes =>
    refine h.take ?_ htakes rfl
    rintro hended
    simp [Session.isReading, hended] at hreading

theorem writeAnswer (h : Reading arrived taken s) : Reading arrived taken s.writeAnswer := by
  rcases s.writeAnswer_cases with hsame | ⟨a, -, hasking, hwrite | hwrite⟩
  · rwa [hsame]
  · rw [hwrite]
    exact h.finish
  · rw [hwrite]
    refine h.congr rfl fun _ hended => ?_
    simp [Session.isAsking, hended] at hasking

theorem writePush (h : Reading arrived taken s) : Reading arrived taken s.writePush := by
  rcases s.writePush_cases with hsame | ⟨m, pushes, hphase, -, hwrite | hwrite⟩
  · rwa [hsame]
  · rw [hwrite]
    exact h.finish
  · rw [hwrite]
    refine h.congr rfl fun _ => ?_
    rw [hphase]
    decide

theorem tell (h : Reading arrived taken s) (messages : List Message) :
    Reading arrived taken (s.tell messages) := by
  unfold Session.tell
  split
  · exact h
  · exact h.congr rfl id

end Reading

/-! ## Answering -/

/-- What the session owes the client: nothing, or the answer to the one request that waits
for the broker or has just been answered by it. -/
def Owes (s : Session) (queue : List Message) (owed : List Payload) : Prop :=
  match s.phase with
  | .greeting | .ready => owed = [] ∧ queue = [] ∧ s.answer = none
  | .greeted | .waiting => ∃ m, owed = [.message m] ∧ (queue = [m] ∧ s.answer = none ∨
      queue = [] ∧ ∃ a, s.answer = some a ∧ (Payload.message m).AnsweredBy a)
  | .ended => owed.length ≤ 1 ∧ queue = []

/-- The hello is acknowledged before anything else is written. -/
def Begun (written : List Message) : Prop :=
  ∃ status error, written.head? = some (.helloAck 0 status error)

/-- How far the session has come with the hello. -/
def Opens (s : Session) (owed : List Payload) : Prop :=
  match s.phase with
  | .greeting => s.written = []
  | .greeted => s.written = [] ∧ ∃ id version role, owed = [.message (.hello id version role)]
  | .ready | .waiting => Begun s.written
  | .ended => s.written = [] ∨ Begun s.written

/-- Of the requests that the session has taken the first ones are answered, in their order,
and the session owes the others. -/
structure Answering (taken : List (List UInt8)) (s : Session) (queue : List Message)
    (answered owed : List Payload) : Prop where
  requests : requestsOf taken = answered ++ owed
  answers : List.Forall₂ Payload.AnsweredBy answered (repliesOf s.written)
  owes : Owes s queue owed
  opens : Opens s owed

theorem Begun.append {written : List Message} (h : Begun written) (more : List Message) :
    Begun (written ++ more) := by
  obtain ⟨status, error, hhead⟩ := h
  exact ⟨status, error, by rw [List.head?_append, hhead]; rfl⟩

theorem owes_iff_of_reading (hreading : s.isReading = true) :
    Owes s queue owed ↔ owed = [] ∧ queue = [] ∧ s.answer = none := by
  have hphase : s.phase = .greeting ∨ s.phase = .ready := by
    simpa [Session.isReading] using hreading
  rcases hphase with hphase | hphase <;> rw [Owes, hphase]

theorem owes_iff_of_asking (hasking : s.isAsking = true) :
    Owes s queue owed ↔ ∃ m, owed = [.message m] ∧ (queue = [m] ∧ s.answer = none ∨
      queue = [] ∧ ∃ a, s.answer = some a ∧ (Payload.message m).AnsweredBy a) := by
  have hphase : s.phase = .greeted ∨ s.phase = .waiting := by simpa [Session.isAsking] using hasking
  rcases hphase with hphase | hphase <;> rw [Owes, hphase]

/-- A request that waits for the broker is what is owed. -/
theorem Owes.of_queued (h : Owes s (m :: queue) owed) :
    s.isAsking = true ∧ queue = [] ∧ owed = [.message m] := by
  cases hphase : s.phase with
  | greeting | ready | ended => simp [Owes, hphase] at h
  | greeted | waiting =>
    have hasking : s.isAsking = true := by
      rw [Session.isAsking, hphase]
      rfl
    obtain ⟨m', rfl, ⟨hqueue, -⟩ | ⟨hqueue, -⟩⟩ := (owes_iff_of_asking hasking).mp h
    · obtain ⟨rfl, rfl⟩ : m = m' ∧ queue = [] := by simpa using hqueue
      exact ⟨hasking, rfl, rfl⟩
    · cases hqueue

theorem Opens.written (h : Opens s owed) : s.written = [] ∨ Begun s.written := by
  unfold Opens at h
  split at h
  · exact .inl h
  · exact .inl h.1
  · exact .inr h
  · exact .inr h
  · exact h

namespace Answering

theorem congr (h : Answering taken s queue answered owed) (hphase : s'.phase = s.phase)
    (hanswer : s'.answer = s.answer) (hwritten : s'.written = s.written) :
    Answering taken s' queue answered owed := by
  refine ⟨h.requests, hwritten ▸ h.answers, ?_, ?_⟩
  · rw [Owes, hphase, hanswer]
    exact h.owes
  · rw [Opens, hphase, hwritten]
    exact h.opens

/-- A session that ends owes at most one answer for ever. -/
theorem finish (h : Answering taken s queue answered owed) (more : List (List UInt8))
    (hlength : (owed ++ requestsOf more).length ≤ 1) (hwritten : s'.written = s.written) :
    Answering (taken ++ more) s'.finish [] answered (owed ++ requestsOf more) where
  requests := by rw [requestsOf_append, h.requests, List.append_assoc]
  answers := by
    rw [Session.finish, hwritten]
    exact h.answers
  owes := ⟨hlength, rfl⟩
  opens := by
    rw [Opens, Session.finish, hwritten]
    exact h.opens.written

/-- A request goes to the broker. -/
theorem ask (h : Answering taken s queue answered owed) (hreading : s.isReading = true)
    (hdecode : Payload.decode payload = .message m) (hasking : s'.isAsking = true)
    (hanswer : s'.answer = s.answer) (hwritten : s'.written = s.written)
    (hopens : Opens s' [.message m]) :
    Answering (taken ++ [payload]) s' (queue ++ [m]) answered [.message m] := by
  obtain ⟨rfl, rfl, hnone⟩ := (owes_iff_of_reading hreading).mp h.owes
  refine ⟨?_, hwritten ▸ h.answers, ?_, hopens⟩
  · rw [requestsOf_append, h.requests, List.append_nil, requestsOf_of_decode hdecode,
      if_neg Payload.noConfusion]
  · exact (owes_iff_of_asking hasking).mpr ⟨m, rfl, .inl ⟨rfl, hanswer.trans hnone⟩⟩

/-- What is owed is written. -/
theorem reply (hrequests : requestsOf taken = answered ++ [p])
    (hanswers : List.Forall₂ Payload.AnsweredBy answered (repliesOf s.written))
    (hanswered : p.AnsweredBy a) (hwritten : s'.written = s.written ++ [a])
    (howes : Owes s' queue []) (hopens : Opens s' []) :
    Answering taken s' queue (answered ++ [p]) [] where
  requests := by rw [hrequests, List.append_nil]
  answers := by
    rw [hwritten, repliesOf_reply _ hanswered.isPush]
    exact List.rel_append hanswers (.cons hanswered .nil)
  owes := howes
  opens := hopens

theorem reads {payload? : Option (List UInt8)} {handed : Option Message}
    (h : Answering taken s queue answered owed) (reads : s.Reads payload? s' handed) :
    ∃ answered' owed',
      Answering (taken ++ payload?.toList) s' (queue ++ handed.toList) answered' owed' := by
  cases reads with
  | idle =>
    rw [Option.toList_none, List.append_nil, Option.toList_none, List.append_nil]
    exact ⟨answered, owed, h.congr rfl rfl rfl⟩
  | close hreading =>
    -- a session that reads owes nothing
    obtain ⟨rfl, rfl, -⟩ := (owes_iff_of_reading hreading).mp h.owes
    exact ⟨answered, _, h.finish [] (Nat.zero_le _) rfl⟩
  | hello hphase htakes hdecode =>
    have hwritten : s.written = [] := by simpa only [Opens, hphase] using h.opens
    exact ⟨answered, _, h.ask (by rw [Session.isReading, hphase]; rfl) hdecode rfl rfl rfl
      ⟨hwritten, _, _, _, rfl⟩⟩
  | request hphase htakes hdecode =>
    have hbegun : Begun s.written := by simpa only [Opens, hphase] using h.opens
    exact ⟨answered, _, h.ask (by rw [Session.isReading, hphase]; rfl) hdecode rfl rfl rfl hbegun⟩
  | @unknown payload reader e hphase htakes hdecode =>
    have hreading : s.isReading = true := by rw [Session.isReading, hphase]; rfl
    have hbegun : Begun s.written := by simpa only [Opens, hphase] using h.opens
    obtain ⟨rfl, rfl, hnone⟩ := (owes_iff_of_reading hreading).mp h.owes
    rcases { s with reader }.write_cases (.response (.failure e.id "unknown_type")) .ready with
      hwrite | hwrite
    · rw [hwrite]
      exact ⟨answered, _, h.finish [payload] (length_requestsOf_singleton _) rfl⟩
    · -- the session gives this answer by itself, and the request never waits
      rw [hwrite]
      have hrequests : requestsOf (taken ++ [payload]) = answered ++ [.unknown e] := by
        rw [requestsOf_append, h.requests, List.append_nil, requestsOf_of_decode hdecode,
          if_neg Payload.noConfusion]
      exact ⟨_, _, reply hrequests h.answers rfl rfl ⟨rfl, rfl, hnone⟩ (hbegun.append _)⟩
  | refuse hreading htakes hdecode =>
    obtain ⟨rfl, rfl, -⟩ := (owes_iff_of_reading hreading).mp h.owes
    exact ⟨answered, _, h.finish _ (length_requestsOf_singleton _) rfl⟩

/-- The first thing to be written is the answer to the hello. -/
theorem begun_reply (h : Answering taken s queue answered [.message m])
    (hasking : s.isAsking = true) (hanswered : (Payload.message m).AnsweredBy a) :
    Begun (s.written ++ [a]) := by
  have hopens := h.opens
  have hphase : s.phase = .greeted ∨ s.phase = .waiting := by simpa [Session.isAsking] using hasking
  rcases hphase with hphase | hphase <;> simp only [Opens, hphase] at hopens
  · obtain ⟨hwritten, id, version, role, hhello⟩ := hopens
    obtain rfl : m = .hello id version role := by simpa using hhello
    obtain ⟨status, error, rfl⟩ := hanswered
    exact ⟨status, error, by rw [hwritten]; rfl⟩
  · exact hopens.append [a]

theorem writeAnswer (h : Answering taken s queue answered owed) :
    ∃ answered' owed', Answering taken s.writeAnswer queue answered' owed' := by
  rcases s.writeAnswer_cases with hsame | ⟨a, hanswer, hasking, hwrite⟩
  · rw [hsame]
    exact ⟨answered, owed, h⟩
  -- one request is owed an answer, and the broker has given it
  obtain ⟨m, rfl, ⟨-, hnone⟩ | ⟨rfl, a', hanswer', hanswered⟩⟩ :=
    (owes_iff_of_asking hasking).mp h.owes
  · rw [hanswer] at hnone
    cases hnone
  obtain rfl : a' = a := Option.some.inj (hanswer'.symm.trans hanswer)
  rcases hwrite with hwrite | hwrite <;> rw [hwrite]
  · have finished : Answering (taken ++ []) { s with answer := none }.finish [] answered _ :=
      h.finish [] (Nat.le_refl 1) rfl
    rw [List.append_nil] at finished
    exact ⟨answered, _, finished⟩
  · have hbegun := h.begun_reply hasking hanswered
    -- after an answer the session either goes on to requests or has ended
    have hnext : s.afterAnswer a' = .ready ∨ s.afterAnswer a' = .ended := by
      unfold Session.afterAnswer Session.afterHello
      split
      · split <;> simp
      · exact .inl rfl
    refine ⟨_, _, reply h.requests h.answers hanswered rfl ?_ ?_⟩
    · rcases hnext with hnext | hnext <;> simp [Owes, hnext]
    · rcases hnext with hnext | hnext <;> simp [Opens, hnext, hbegun]

theorem writePush (h : Answering taken s queue answered owed)
    (hpush : ∀ m ∈ s.pushes, m.isPush = true) :
    Answering taken s.writePush queue answered owed := by
  rcases s.writePush_cases with hsame | ⟨m, pushes, hphase, hpushes, hwrite⟩
  · rwa [hsame]
  -- it is time for this because no answer is owed
  have hreading : s.isReading = true := by
    rw [Session.isReading, hphase]
    rfl
  obtain ⟨rfl, rfl, hnone⟩ := (owes_iff_of_reading hreading).mp h.owes
  rcases hwrite with hwrite | hwrite <;> rw [hwrite]
  · have finished : Answering (taken ++ []) { s with pushes }.finish [] answered _ :=
      h.finish [] (Nat.zero_le 1) rfl
    rwa [List.append_nil] at finished
  · have hbegun : Begun s.written := by simpa only [Opens, hphase] using h.opens
    have hm : m.isPush = true := hpush m (by rw [hpushes]; exact List.mem_cons_self)
    refine ⟨h.requests, ?_, ⟨rfl, rfl, hnone⟩, hbegun.append [m]⟩
    rw [repliesOf_push _ hm]
    exact h.answers

/-- The broker answers the request that waits for it. -/
theorem handle (h : Answering taken s (m :: queue) answered owed)
    (hanswered : (Payload.message m).AnsweredBy a) :
    Answering taken { s with answer := some a } queue answered owed := by
  obtain ⟨hasking, rfl, rfl⟩ := h.owes.of_queued
  have hasking' : ({ s with answer := some a } : Session).isAsking = true := hasking
  refine ⟨h.requests, h.answers, ?_, h.opens⟩
  exact (owes_iff_of_asking hasking').mpr ⟨m, rfl, .inr ⟨rfl, a, rfl, hanswered⟩⟩

theorem tell (h : Answering taken s queue answered owed) (messages : List Message) :
    Answering taken (s.tell messages) queue answered owed := by
  unfold Session.tell
  split
  · exact h
  · exact h.congr rfl rfl rfl

end Answering

/-! ## Telling -/

/-- What the broker sends unasked is written, or waits to be written, in its order. -/
structure Telling (told : List Message) (s : Session) : Prop where
  answer : ∀ a, s.answer = some a → a.isPush = false
  pushes : ∀ m ∈ s.pushes, m.isPush = true
  written : pushesOf s.written <+: told
  all : s.phase ≠ .ended → told = pushesOf s.written ++ s.pushes

namespace Telling

variable {told messages : List Message}

theorem congr (h : Telling told s) (hanswer : s'.answer = s.answer)
    (hpushes : s'.pushes = s.pushes) (hwritten : s'.written = s.written)
    (hphase : s'.phase ≠ .ended → s.phase ≠ .ended) : Telling told s' where
  answer := hanswer ▸ h.answer
  pushes := hpushes ▸ h.pushes
  written := hwritten ▸ h.written
  all hlive := by
    rw [hwritten, hpushes]
    exact h.all (hphase hlive)

theorem finish (h : Telling told s) (hanswer : ∀ a, s'.answer = some a → a.isPush = false)
    (hpushes : ∀ m ∈ s'.pushes, m.isPush = true) (hwritten : s'.written = s.written) :
    Telling told s'.finish where
  answer := hanswer
  pushes := hpushes
  written := by
    rw [Session.finish, hwritten]
    exact h.written
  all hlive := absurd rfl hlive

/-- An answer does not count among the messages that are sent unasked. -/
theorem reply (h : Telling told s) (ha : a.isPush = false) (hlive : s.phase ≠ .ended)
    (hanswer : ∀ a, s'.answer = some a → a.isPush = false) (hpushes : s'.pushes = s.pushes)
    (hwritten : s'.written = s.written ++ [a]) : Telling told s' where
  answer := hanswer
  pushes := hpushes ▸ h.pushes
  written := by
    rw [hwritten, pushesOf_reply _ ha]
    exact h.written
  all _ := by
    rw [hwritten, hpushes, pushesOf_reply _ ha]
    exact h.all hlive

theorem reads {payload? : Option (List UInt8)} {handed : Option Message} (h : Telling told s)
    (reads : s.Reads payload? s' handed) : Telling told s' := by
  cases reads with
  | idle => exact h.congr rfl rfl rfl id
  | close | refuse => exact h.finish h.answer h.pushes rfl
  -- the reader changes, which is no part of what was told
  | hello hphase | request hphase =>
    refine h.congr rfl rfl rfl fun _ => ?_
    rw [hphase]
    decide
  | @unknown _ reader e hphase =>
    rcases { s with reader }.write_cases (.response (.failure e.id "unknown_type")) .ready with
      hwrite | hwrite <;> rw [hwrite]
    · exact h.finish h.answer h.pushes rfl
    · exact h.reply rfl (by rw [hphase]; decide) h.answer rfl rfl

theorem writeAnswer (h : Telling told s) : Telling told s.writeAnswer := by
  rcases s.writeAnswer_cases with hsame | ⟨a, hanswer, hasking, hwrite⟩
  · rwa [hsame]
  have hlive : s.phase ≠ .ended := by
    intro hended
    simp [Session.isAsking, hended] at hasking
  have hnone : ∀ a : Message, none = some a → a.isPush = false :=
    fun a ha => absurd ha.symm (Option.some_ne_none a)
  rcases hwrite with hwrite | hwrite <;> rw [hwrite]
  · exact h.finish hnone h.pushes rfl
  · exact h.reply (h.answer a hanswer) hlive hnone rfl rfl

/-- The message that has waited longest is written. -/
theorem writePush (h : Telling told s) : Telling told s.writePush := by
  rcases s.writePush_cases with hsame | ⟨m, pushes, hphase, hpushes, hwrite⟩
  · rwa [hsame]
  have hpush := h.pushes
  rw [hpushes, List.forall_mem_cons] at hpush
  obtain ⟨hm, hrest⟩ := hpush
  rcases hwrite with hwrite | hwrite <;> rw [hwrite]
  · exact h.finish h.answer hrest rfl
  · have hall : told = pushesOf (s.written ++ [m]) ++ pushes := by
      rw [h.all (by rw [hphase]; decide), pushesOf_push _ hm, hpushes, List.append_assoc]
      rfl
    exact ⟨h.answer, hrest, ⟨pushes, hall.symm⟩, fun _ => hall⟩

theorem handle (h : Telling told s) (ha : a.isPush = false) :
    Telling told { s with answer := some a } where
  answer _ ha' := Option.some.inj ha' ▸ ha
  pushes := h.pushes
  written := h.written
  all := h.all

theorem tell (h : Telling told s) (hpush : ∀ m ∈ messages, m.isPush = true) :
    Telling (told ++ messages) (s.tell messages) := by
  unfold Session.tell
  split
  · next hended =>
    exact ⟨h.answer, h.pushes, h.written.trans (List.prefix_append ..),
      fun hlive => absurd hended hlive⟩
  · next hlive =>
    refine ⟨h.answer, ?_, h.written.trans (List.prefix_append ..), fun _ => ?_⟩
    · rw [List.forall_mem_append]
      exact ⟨h.pushes, hpush⟩
    · rw [h.all hlive, List.append_assoc]

end Telling

/-! ## All along -/

/-- What holds of a session all along. -/
structure Conversing (x : Traffic) (side : Side) : Prop where
  reading : Reading x.arrived x.taken side.session
  answering : ∃ answered owed, Answering x.taken side.session side.queued answered owed
  telling : Telling x.told side.session

theorem conversing_new : Conversing {} ⟨{}, []⟩ where
  reading := ⟨List.forall_mem_nil _, List.prefix_rfl, fun _ => ⟨Reader.sound_none [], rfl⟩⟩
  answering := ⟨[], [], rfl, .nil, ⟨rfl, rfl, rfl⟩, rfl⟩
  telling := ⟨fun a ha => absurd ha.symm (Option.some_ne_none a), List.forall_mem_nil _,
    List.prefix_rfl, fun _ => rfl⟩

theorem Conversing.goes {side side' : Side} (h : Conversing x side) (goes : side.Goes y side') :
    Conversing (x ++ y) side' := by
  obtain ⟨reading, ⟨answered, owed, answering⟩, telling⟩ := h
  rw [Traffic.append_def]
  cases goes with
  | arrive bytes =>
    simp only [List.append_nil]
    exact ⟨reading.feed bytes, ⟨answered, owed, answering.congr rfl rfl rfl⟩,
      telling.congr rfl rfl rfl id⟩
  | leave gone =>
    simp only [List.append_nil]
    exact ⟨reading.congr rfl id, ⟨answered, owed, answering.congr rfl rfl rfl⟩,
      telling.congr rfl rfl rfl id⟩
  | @read s queue =>
    simp only [List.append_nil]
    exact ⟨reading.reads s.reads, answering.reads s.reads, telling.reads s.reads⟩
  | writeAnswer =>
    simp only [List.append_nil]
    exact ⟨reading.writeAnswer, answering.writeAnswer, telling.writeAnswer⟩
  | writePush =>
    simp only [List.append_nil]
    exact ⟨reading.writePush, ⟨answered, owed, answering.writePush telling.pushes⟩,
      telling.writePush⟩
  -- first the answer is kept for writing, and then what the broker sent beside it
  | @answer s queue messages m a hanswered hpush =>
    simp only [List.append_nil]
    have handled := answering.handle hanswered
    have reading' : Reading x.arrived x.taken { s with answer := some a } := reading.congr rfl id
    exact ⟨reading'.tell messages, ⟨answered, owed, handled.tell messages⟩,
      (telling.handle hanswered.isPush).tell hpush⟩
  | @tell s queue messages hpush =>
    simp only [List.append_nil]
    exact ⟨reading.tell messages, ⟨answered, owed, answering.tell messages⟩, telling.tell hpush⟩

/-! ## Order -/

/-- After as many unasked messages as `told`, every one comes after as many answers as
`requests`. -/
def Ordered (told requests : Nat) (written : List Message) : Prop :=
  ∀ before push after, written = before ++ push :: after → push.isPush = true →
    told ≤ (pushesOf before).length → requests ≤ (repliesOf before).length

theorem Ordered.snoc {told requests : Nat} {written : List Message}
    (h : Ordered told requests written)
    (hm : m.isPush = true → requests ≤ (repliesOf written).length) :
    Ordered told requests (written ++ [m]) := by
  intro before push after heq hpush htold
  rcases Broker.snoc_eq_append_cons heq.symm with ⟨-, rfl, rfl⟩ | ⟨middle, -, hinit⟩
  · exact hm hpush
  · exact h before push middle hinit.symm hpush htold

theorem Session.Reads.written {payload? : Option (List UInt8)} {handed : Option Message}
    (reads : s.Reads payload? s' handed) :
    s'.written = s.written ∨ ∃ a, s'.written = s.written ++ [a] ∧ a.isPush = false := by
  cases reads with
  | idle | close | hello | request | refuse => exact .inl rfl
  | @unknown _ reader e =>
    rcases { s with reader }.write_cases (.response (.failure e.id "unknown_type")) .ready with
      hwrite | hwrite <;> rw [hwrite]
    · exact .inl rfl
    · exact .inr ⟨_, rfl, rfl⟩

theorem Session.written_tell (s : Session) (messages : List Message) :
    (s.tell messages).written = s.written := by
  unfold tell
  split <;> rfl

/-- In a step at most one message is written, and an unasked one only when no answer is
owed. -/
theorem Side.Goes.written {side side' : Side} (goes : side.Goes y side')
    (telling : Telling x.told side.session) :
    side'.session.written = side.session.written ∨
      ∃ m, side'.session.written = side.session.written ++ [m] ∧
        (m.isPush = true → side.session.phase = .ready) := by
  cases goes with
  | arrive | leave => exact .inl rfl
  | @read s queue =>
    -- what a session writes by itself while it reads is an answer
    refine s.reads.written.imp_right ?_
    rintro ⟨a, hwritten, ha⟩
    refine ⟨a, hwritten, fun hpush => ?_⟩
    rw [ha] at hpush
    cases hpush
  | @writeAnswer s queue =>
    dsimp only at telling ⊢
    rcases s.writeAnswer_cases with hsame | ⟨a, hanswer, -, hwrite | hwrite⟩
    · exact .inl (congrArg Session.written hsame)
    · rw [hwrite]
      exact .inl rfl
    · rw [hwrite]
      refine .inr ⟨a, rfl, fun hpush => ?_⟩
      -- an answer is no push
      rw [telling.answer a hanswer] at hpush
      cases hpush
  | @writePush s queue =>
    dsimp only
    rcases s.writePush_cases with hsame | ⟨m, pushes, hphase, -, hwrite | hwrite⟩
    · exact .inl (congrArg Session.written hsame)
    · rw [hwrite]
      exact .inl rfl
    · rw [hwrite]
      exact .inr ⟨m, rfl, fun _ => hphase⟩
  | answer | tell => exact .inl (Session.written_tell _ _)

theorem Conversing.ordered {side side' : Side} {told requests : Nat} (h : Conversing x side)
    (goes : side.Goes y side') (hrequests : requests ≤ (requestsOf x.taken).length)
    (ordered : Ordered told requests side.session.written) :
    Ordered told requests side'.session.written := by
  rcases goes.written h.telling with hsame | ⟨m, hwritten, hm⟩
  · rwa [hsame]
  · rw [hwritten]
    refine ordered.snoc fun hpush => ?_
    -- all requests so far are answered, those that count among them
    obtain ⟨answered, owed, answering⟩ := h.answering
    have howes := answering.owes
    simp only [Owes, hm hpush] at howes
    rwa [← answering.answers.length_eq, ← List.append_nil answered, ← howes.1,
      ← answering.requests]

theorem ordered_of_length_le {told requests : Nat} {written : List Message}
    (h : (pushesOf written).length ≤ told) : Ordered told requests written := by
  rintro before push after rfl hpush htold
  simp [pushesOf, hpush] at h htold
  omega

/-! ## Conversations -/

/-- What has passed between a client and the daemon, and what the client has of it. -/
structure Conversation (x : Traffic) (s : Session) (queue : List Message) : Prop where
  /-- The session takes the frames that have arrived, in their order. -/
  taken : x.taken <+: (Frame.parse x.arrived).1
  unread : s.phase ≠ .ended → x.arrived = x.taken.flatMap ofPayload ++ s.reader.unread
  begun : s.written = [] ∨ Begun s.written
  /-- The requests are answered, in their order and once each. -/
  replies : List.Forall₂ Payload.AnsweredBy
    ((requestsOf x.taken).take (repliesOf s.written).length) (repliesOf s.written)
  /-- Except for one that the broker has or has just answered no request is without an answer
  while the session lives. -/
  answered : s.phase ≠ .ended → s.isAsking = false →
    (repliesOf s.written).length = (requestsOf x.taken).length
  asked : s.isAsking = true → ∃ m,
    (requestsOf x.taken).drop (repliesOf s.written).length = [.message m] ∧
      (queue = [m] ∧ s.answer = none ∨
        queue = [] ∧ ∃ a, s.answer = some a ∧ (Payload.message m).AnsweredBy a)
  left : ((requestsOf x.taken).drop (repliesOf s.written).length).length ≤ 1
  /-- What is sent unasked is written in its order, and nothing is lost while the session
  lives. -/
  pushed : pushesOf s.written <+: x.told
  waiting : s.phase ≠ .ended → x.told = pushesOf s.written ++ s.pushes

theorem Owes.length_le (h : Owes s queue owed) : owed.length ≤ 1 := by
  unfold Owes at h
  split at h
  · exact h.1 ▸ Nat.zero_le 1
  · exact h.1 ▸ Nat.zero_le 1
  · obtain ⟨m, rfl, -⟩ := h
    exact Nat.le_refl 1
  · obtain ⟨m, rfl, -⟩ := h
    exact Nat.le_refl 1
  · exact h.1

theorem Answering.split (h : Answering taken s queue answered owed) :
    (requestsOf taken).take (repliesOf s.written).length = answered ∧
      (requestsOf taken).drop (repliesOf s.written).length = owed := by
  rw [← h.answers.length_eq, h.requests]
  exact ⟨List.take_left, List.drop_left⟩

theorem Conversing.toConversation (h : Conversing x ⟨s, queue⟩) : Conversation x s queue := by
  obtain ⟨reading, ⟨answered, owed, answering⟩, telling⟩ := h
  obtain ⟨hanswered, howed⟩ := answering.split
  have howes := answering.owes
  refine ⟨reading.taken_prefix, fun hlive => (reading.unread hlive).2, answering.opens.written,
    ?_, fun hlive hidle => ?_, fun hasking => ?_, ?_, telling.written, telling.all⟩
  · rw [hanswered]
    exact answering.answers
  -- a session that is neither over nor asking is reading
  · have hreading : s.isReading = true := by
      cases hphase : s.phase <;> simp_all [Session.isReading, Session.isAsking]
    rw [← answering.answers.length_eq, answering.requests,
      ((owes_iff_of_reading hreading).mp howes).1, List.append_nil]
  · rw [howed]
    exact (owes_iff_of_asking hasking).mp howes
  · rw [howed]
    exact howes.length_le

section Runs

variable {σ : Type} {S : DisplayServer σ} {d : Daemon} {steps : List Step} {c : ClientId}
  {config : BrokerConfig}

theorem Run.conversing (run : Run S (opened config) steps d) (hs : d.sessions.get? c = some s) :
    Conversing (traffic c steps) ⟨s, d.queued c⟩ :=
  run.side hs conversing_new fun _ _ _ _ => Conversing.goes

/-- While the broker handles a request the client's session waits for the answer. What is
sent from then on is written after it. -/
theorem Run.ordered {earlier later : List Step} {t : Step} {b : Broker.Step}
    (run : Run S (opened config) (earlier ++ t :: later) d) (hs : d.sessions.get? c = some s)
    (hturn : t.turn = some b) (haction : b.action = .message c m) :
    (requestsOf (traffic c earlier).taken).getLast? = some (.message m) ∧
      Ordered (traffic c earlier).told.length (requestsOf (traffic c earlier).taken).length
        s.written := by
  obtain ⟨run₁, possible, run₂⟩ := run.split
  have attended := run₁.attended (attended_opened S config)
  obtain ⟨-, -, hnext, -⟩ := possible.of_turn hturn
  rw [haction] at hnext
  have hqueued := queued_of_head? (c := c) hnext
  rw [if_pos rfl] at hqueued
  -- whoever has a request in the queue has a session
  obtain ⟨s₁, hs₁⟩ : ∃ s₁, t.before.sessions.get? c = some s₁ :=
    Option.ne_none_iff_exists'.mp (attended.asking c (by rw [hqueued]; exact List.cons_ne_nil _ _))
  have conversing := run₁.conversing hs₁
  obtain ⟨answered, owed, answering⟩ := conversing.answering
  obtain ⟨-, -, rfl⟩ := Owes.of_queued (hqueued ▸ answering.owes)
  refine ⟨by rw [answering.requests, List.getLast?_concat], ?_⟩
  -- nothing that is written so far comes later
  let told := (traffic c earlier).told.length
  let requests := (requestsOf (traffic c earlier).taken).length
  let P : Traffic → Side → Prop := fun x side =>
    Conversing x side ∧ requests ≤ (requestsOf x.taken).length ∧
      Ordered told requests side.session.written
  have hstart : P (traffic c earlier) ⟨s₁, t.before.queued c⟩ :=
    ⟨conversing, Nat.le_refl _, ordered_of_length_le conversing.telling.written.length_le⟩
  have hstep : ∀ x y side side', P x side → side.Goes y side' → P (x ++ y) side' := by
    rintro x y side side' ⟨hx, hle, hordered⟩ goes
    -- the requests that were counted stay, and more may be added
    refine ⟨hx.goes goes, Nat.le_trans hle ?_, hx.ordered goes hle hordered⟩
    rw [Traffic.append_def, requestsOf_append, List.length_append]
    exact Nat.le_add_right ..
  obtain ⟨s₂, hs₂, goes⟩ := possible.goes attended hs₁
  obtain ⟨s₃, hs₃, -, -, hordered⟩ := run₂.side_from (possible.attended attended) hs₂
    (hstep _ _ _ _ hstart goes) hstep
  obtain rfl : s₃ = s := Option.some.inj (hs₃.symm.trans hs)
  exact hordered

/-- What is written to the client of any session are the answers to its requests and what the
broker sends it unasked, each in order. What the broker sends while it handles a request, or
later, is written after the answer. -/
theorem Run.conversation (run : Run S (opened config) steps d) (hs : d.sessions.get? c = some s) :
    Conversation (traffic c steps) s (d.queued c) ∧
      ∀ earlier t later b m, steps = earlier ++ t :: later → t.turn = some b →
        b.action = .message c m →
          (requestsOf (traffic c earlier).taken).getLast? = some (.message m) ∧
            Ordered (traffic c earlier).told.length
              (requestsOf (traffic c earlier).taken).length s.written := by
  refine ⟨(run.conversing hs).toConversation, ?_⟩
  rintro earlier t later b m rfl hturn haction
  exact run.ordered hs hturn haction

end Runs

/-- A client says hello and connects. Caps Lock is pressed before the broker has handled the
request. In the end the client asks for something that there is not. -/
def lockChange : List (Action × World Unit) :=
  let unknown : Wire.Value := .map [(.text "type", .text "ping"), (.text "id", .unsigned 1 2)]
  let actions : List Action := [.accept,
    .arrive 0 (ofPayload (Message.hello 0 1 .desktop).encode ++
      ofPayload (Message.connect 1 ":0").encode ++ ofPayload unknown.encode),
    .read 0, .handleRequest, .writeAnswer 0, .read 0, .report 0 (.event (.keyboardState 0 2)),
    .handleRequest, .handleNotice, .writeAnswer 0, .writePush 0, .read 0, .writePush 0]
  actions.map fun action => (action, ⟨(), 1⟩)

/-- The client is told of Caps Lock after the answer to its request. -/
theorem lockChange_conversation :
    let steps := (opened ⟨none, true⟩).play Seat.twoGroupServer lockChange
    let d := (opened ⟨none, true⟩).finish steps
    ∃ s, d.sessions.get? 0 = some s ∧
      s.written = [.helloAck 0 .ok none,
        .response { id := 1, root := some 256, screenWidth := some 800, screenHeight := some 600 },
        .lockState 0 ⟨false, false⟩, .response (.failure 2 "unknown_type"),
        .lockState 0 ⟨true, false⟩] ∧
      Conversation (traffic 0 steps) s (d.queued 0) ∧
      ∃ earlier t later b, steps = earlier ++ t :: later ∧ t.turn = some b ∧
        b.action = .message 0 (.connect 1 ":0") ∧ Ordered 0 2 s.written := by
  intro steps d
  obtain ⟨hwritten, hconnect, htold, hrequests⟩ :
      (d.sessions.get? 0).map (·.written) = some [.helloAck 0 .ok none,
        .response { id := 1, root := some 256, screenWidth := some 800, screenHeight := some 600 },
        .lockState 0 ⟨false, false⟩, .response (.failure 2 "unknown_type"),
        .lockState 0 ⟨true, false⟩] ∧
      (steps[7]?.bind (·.turn)).map (·.action) = some (.message 0 (.connect 1 ":0")) ∧
      (traffic 0 (steps.take 7)).told.length = 0 ∧
      (requestsOf (traffic 0 (steps.take 7)).taken).length = 2 := by decide +kernel
  obtain ⟨s, hs, hwritten⟩ := Option.map_eq_some_iff.mp hwritten
  obtain ⟨conversation, ordered⟩ :=
    Run.conversation (run_play Seat.twoGroupServer (opened ⟨none, true⟩) lockChange) hs
  obtain ⟨b, hb, haction⟩ := Option.map_eq_some_iff.mp hconnect
  obtain ⟨t, ht, hturn⟩ := Option.bind_eq_some_iff.mp hb
  obtain ⟨hlt, rfl⟩ := List.getElem?_eq_some_iff.mp ht
  have hsteps : steps = steps.take 7 ++ steps[7] :: steps.drop 8 := by
    rw [← List.drop_eq_getElem_cons, List.take_append_drop]
  obtain ⟨-, later⟩ := ordered _ _ _ b _ hsteps hturn haction
  rw [htold, hrequests] at later
  exact ⟨s, hs, hwritten, conversation, _, _, _, b, hsteps, hturn, haction, later⟩

end Daemon

end InputBridge
