import DAIM.Ani41.Hellos

/-!
# One call of `send_information`

The loop of the benchmark mode over a buffer of whole messages, and the single
message that the normal mode looks at.  Nothing is assumed about the state but
what the buffer holds: no handler touches it, whatever else it overwrites.
-/

namespace DAIM.Ani41

open DAIM.Library DAIM.OpenFlow DAIM.Linked DAIM.Com

/-! ## Messages in the buffer -/

def messageVersion (bytes : List UInt8) : UInt8 := bytes.getD OfpHeader.version 0

/-- What the loop reads at the next message. -/
theorem whole_read {memory : Memory} {message : List UInt8} {rest : List (List UInt8)}
    (starts : memory.Starts (message :: rest).flatten) (whole : messages.Whole message) :
    memory OfpHeader.version = messageVersion message ∧
      memory OfpHeader.type = messageType message ∧
      (ntohs (memory.load16 OfpHeader.length)).toNat = message.length ∧
      (memory.shift message.length).Starts rest.flatten := by
  rw [List.flatten_cons] at starts
  have front := starts.left
  have header : 8 ≤ message.length := whole.header
  refine ⟨?_, ?_, ?_, starts.right⟩
  · exact front.octet (by show 0 < _; omega)
  · exact front.octet (by show 1 < _; omega)
  · rw [front.ntohs_load16 (by show 2 + 2 ≤ _; omega)]
    exact whole.length

/-- Each message with the place where it starts. -/
def placed : Nat → List (List UInt8) → List (Nat × List UInt8)
  | _, [] => []
  | start, message :: rest => (start, message) :: placed (start + message.length) rest

theorem placed_append (start : Nat) (front more : List (List UInt8)) :
    placed start (front ++ more) =
      placed start front ++ placed (start + front.flatten.length) more := by
  induction front generalizing start with
  | nil => rfl
  | cons message rest inductionHypothesis =>
      simp only [List.cons_append, placed, inductionHypothesis, List.flatten_cons,
        List.length_append, Nat.add_assoc]

/-- The handler for the type of the message was called at its start. -/
structure HandedAt (memory : Memory) (call : Call) (entry : Nat × List UInt8) : Prop where
  start : call.message = memory.shift entry.1
  handler : dispatch (messageType entry.2) = some call.handler

/-- The messages that were handed to a handler. -/
def Handed (memory : Memory) (events : List Event) (done : List (List UInt8)) : Prop :=
  List.Forall₂ (HandedAt memory) (calls events)
    ((placed 0 done).filter fun entry => hasHandler entry.2)

theorem Handed.skip {memory : Memory} {events : List Event} {done : List (List UInt8)}
    (handed : Handed memory events done) {message : List UInt8}
    (unhandled : hasHandler message = false) : Handed memory events (done ++ [message]) := by
  have none : (placed (0 + done.flatten.length) [message]).filter
      (fun entry => hasHandler entry.2) = [] := by
    simp [placed, unhandled]
  rwa [Handed, placed_append, List.filter_append, none, List.append_nil]

theorem Handed.call {memory : Memory} {events : List Event} {done : List (List UInt8)}
    (handed : Handed memory events done) {message : List UInt8} {call : Call}
    (here : HandedAt memory call (done.flatten.length, message)) :
    Handed memory (events ++ [.handled call]) (done ++ [message]) := by
  have handled : hasHandler message = true := by rw [hasHandler, here.handler, Option.isSome_some]
  have joined : calls (events ++ [.handled call]) = calls events ++ [call] := calls_append _ _
  rw [Handed, joined, placed_append, List.filter_append]
  refine List.rel_append handed ?_
  simp only [placed, Nat.zero_add, List.filter_singleton, handled]
  exact .cons here .nil

theorem Handed.silent {memory : Memory} {events : List Event} {done : List (List UInt8)}
    {event : Event} (handed : Handed memory events done) (silent : event.call? = none) :
    Handed memory (events ++ [event]) done := by
  rwa [Handed, calls_silent silent]

/-! ## The loop of the benchmark mode -/

/-- No call has failed. -/
def Succeeded (events : List Event) : Prop := ∀ call ∈ calls events, call.result ≠ -1

/-- How far the loop is, when the messages `done` are behind it. -/
def Process.ScanPlace (p : Process) (events : List Event) (done todo : List (List UInt8)) : Prop :=
  match p.place with
  | .sending => done = [] ∧ p.ani.readBufferLen = todo.flatten.length ∧ Succeeded events
  | .scanning counter =>
      counter = todo.flatten.length ∧ p.ani.readBufferp = done.flatten.length ∧ Succeeded events
  | .reading =>
      (todo = [] ∨ ∃ message rest, todo = message :: rest ∧ messageVersion message ≠ ofpVersion) ∧
        p.ani.readBufferp = done.flatten.length ∧ Succeeded events
  | .exited =>
      ∃ earlier last front message, calls events = earlier ++ [last] ∧ last.result = -1 ∧
        (∀ call ∈ earlier, call.result ≠ -1) ∧ done = front ++ [message] ∧
        hasHandler message = true
  | _ => False

/-- The messages before `todo` were passed in their order. -/
structure Looped (memory : Memory) (all : List (List UInt8)) (events : List Event) (p : Process)
    (done todo : List (List UInt8)) : Prop where
  cut : all = done ++ todo
  buffer : p.ani.readBuffer = memory
  cbench : p.ani.cbench = true
  known : ∀ message ∈ done, messageVersion message = ofpVersion
  handed : Handed memory events done
  place : p.ScanPlace events done todo

section Loop

variable {memory : Memory} {all done todo : List (List UInt8)} {events : List Event}
variable {p q : Process} {event : Event}

theorem Succeeded.silent (succeeded : Succeeded events) (silent : event.call? = none) :
    Succeeded (events ++ [event]) := by
  rwa [Succeeded, calls_silent silent]

theorem Succeeded.call (succeeded : Succeeded events) {call : Call} (fine : call.result ≠ -1) :
    Succeeded (events ++ [.handled call]) := by
  intro other member
  simp only [calls, List.filterMap_append, List.mem_append, List.filterMap_cons, Event.call?,
    List.filterMap_nil, List.mem_singleton] at member
  rcases member with before | rfl
  · exact succeeded other before
  · exact fine

/-- What is left of the buffer. -/
theorem Looped.starts (looped : Looped memory all events p done todo)
    (whole : memory.Starts all.flatten) :
    (memory.shift done.flatten.length).Starts todo.flatten := by
  rw [looped.cut, List.flatten_append] at whole
  exact whole.right

/-- A step of a discovery thread is none of the loop. -/
theorem Looped.thread {s next : Ani} {place : MainPlace} {threads others : List Thread}
    {index : Nat} {thread after : Thread} {sent : Option (List UInt8)}
    (looped : Looped memory all events ⟨s, place, threads⟩ done todo)
    (share : ShareStep index s thread sent next after) (silent : event.call? = none) :
    Looped memory all (events ++ [event]) ⟨next, place, others⟩ done todo := by
  obtain ⟨bench, buffer, pointer, length⟩ := share.keeps_buffer
  have joined := calls_silent silent events
  refine ⟨looped.cut, buffer.trans looped.buffer, bench.trans looped.cbench, looped.known,
    looped.handed.silent silent, ?_⟩
  have here := looped.place
  unfold Process.ScanPlace Succeeded at *
  simpa only [pointer, length, joined] using here

/-- While something is left, so is a whole message. -/
theorem rest_cases (whole : ∀ message ∈ all, messages.Whole message)
    (cut : all = done ++ todo) :
    todo = [] ∧ todo.flatten.length = 0 ∨
      ∃ message rest, todo = message :: rest ∧ messages.Whole message ∧ 8 ≤ message.length ∧
        todo.flatten.length = message.length + rest.flatten.length := by
  cases todo with
  | nil => exact .inl ⟨rfl, rfl⟩
  | cons message rest =>
      have isWhole := whole message (by simp [cut])
      refine .inr ⟨message, rest, rfl, isWhole, isWhole.header, ?_⟩
      rw [List.flatten_cons, List.length_append]

/-- While the counter is not used up, the loop is in front of a whole message. -/
theorem Looped.ahead {s : Ani} {counter : Int} {threads : List Thread}
    (looped : Looped memory all events ⟨s, .scanning counter, threads⟩ done todo)
    (starts : memory.Starts all.flatten) (whole : ∀ message ∈ all, messages.Whole message)
    (more : counter > 0) :
    ∃ message later, todo = message :: later ∧ 8 ≤ message.length ∧
      (s.readBuffer.shift s.readBufferp) OfpHeader.version = messageVersion message ∧
      (s.readBuffer.shift s.readBufferp) OfpHeader.type = messageType message ∧
      (ntohs ((s.readBuffer.shift s.readBufferp).load16 OfpHeader.length)).toNat =
        message.length := by
  have rest := looped.starts starts
  have buffer : s.readBuffer = memory := looped.buffer
  obtain ⟨length, pointer, -⟩ := looped.place
  simp only at pointer
  rcases rest_cases whole looped.cut with ⟨rfl, empty⟩ | ⟨message, later, rfl, isWhole, header, -⟩
  · omega
  · obtain ⟨version, type, size, -⟩ := whole_read rest isWhole
    rw [← buffer, ← pointer] at version type size
    exact ⟨message, later, rfl, header, version, type, size⟩

/-- The loop goes on behind the message in front of it. -/
theorem Looped.passed {s : Ani} {counter : Int} {threads : List Thread} {message : List UInt8}
    {later : List (List UInt8)}
    (looped : Looped memory all events ⟨s, .scanning counter, threads⟩ done (message :: later))
    (known : messageVersion message = ofpVersion) :
    all = (done ++ [message]) ++ later ∧
      (∀ other ∈ done ++ [message], messageVersion other = ofpVersion) ∧
      counter - message.length = later.flatten.length ∧
      s.readBufferp + message.length = (done ++ [message]).flatten.length := by
  obtain ⟨length, pointer, -⟩ := looped.place
  refine ⟨?_, ?_, ?_, ?_⟩
  · rw [looped.cut, List.append_assoc]
    rfl
  · intro other member
    rcases List.mem_append.mp member with before | here
    · exact looped.known other before
    · rw [List.mem_singleton.mp here]
      exact known
  · rw [List.flatten_cons, List.length_append] at length
    omega
  · simp only at pointer
    rw [pointer, List.flatten_append, List.flatten_singleton, List.length_append]

theorem Looped.step (looped : Looped memory all events p done todo)
    (starts : memory.Starts all.flatten) (whole : ∀ message ∈ all, messages.Whole message)
    (step : Process.Step p event q) (silent : event.chunk? = none) (connected : event ≠ .lost) :
    ∃ further left, Looped memory all (events ++ [event]) q further left := by
  have buffer := looped.buffer
  cases step with
  | received _ _ => cases silent
  | lost _ => exact absurd rfl connected
  | closed => exact absurd looped.place id
  | freeHosts _ => exact absurd looped.place id
  | freePorts _ => exact absurd looped.place id
  | freeLinks _ => exact absurd looped.place id
  | freeReplys _ => exact absurd looped.place id
  | connected => exact absurd looped.place id
  | refused => exact absurd looped.place id
  | ignored normal _ => exact absurd looped.cbench (by simp [normal])
  | answered normal _ _ => exact absurd looped.cbench (by simp [normal])
  | scan _ =>
      obtain ⟨rfl, length, fine⟩ := looped.place
      exact ⟨[], todo, looped.cut, buffer, looped.cbench, looped.known, looped.handed.silent rfl,
        length, rfl, fine.silent rfl⟩
  | scanned finished =>
      obtain ⟨length, pointer, fine⟩ := looped.place
      rcases rest_cases whole looped.cut with ⟨rfl, -⟩ | ⟨message, more, -, -, header, total⟩
      · exact ⟨done, [], looped.cut, buffer, looped.cbench, looped.known, looped.handed.silent rfl,
          .inl rfl, pointer, fine.silent rfl⟩
      · omega
  | unknown more check =>
      obtain ⟨length, pointer, fine⟩ := looped.place
      obtain ⟨rfl, known⟩ := checkOpenflow_eq check
      obtain ⟨message, later, rfl, -, version, -⟩ := looped.ahead starts whole more
      have other : messageVersion message ≠ ofpVersion := fun same =>
        absurd (known.mpr (version.trans same)) (by decide)
      exact ⟨done, message :: later, looped.cut, buffer, looped.cbench, looped.known,
        looped.handed.silent rfl, .inr ⟨message, later, rfl, other⟩, pointer, fine.silent rfl⟩
  | @skipped s next threads counter more check type =>
      obtain ⟨length, pointer, fine⟩ := looped.place
      obtain ⟨rfl, known⟩ := checkOpenflow_eq check
      obtain ⟨message, later, rfl, -, version, named, size⟩ := looped.ahead starts whole more
      obtain ⟨cut, allKnown, counted, moved⟩ := looped.passed (version.symm.trans (known.mp rfl))
      have unhandled : hasHandler message = false := by
        rw [hasHandler, ← named]
        exact congrArg Option.isSome type
      refine ⟨done ++ [message], later, cut, buffer, looped.cbench, allKnown,
        (looped.handed.skip unhandled).silent rfl, ?_, ?_, fine.silent rfl⟩
      · unfold Ani.view
        simp only [size]
        exact counted
      · unfold Ani.view
        simp only [size]
        exact moved
  | @scanAnswered s next threads counter handler env outcome more check type run =>
      obtain ⟨length, pointer, fine⟩ := looped.place
      obtain ⟨rfl, known⟩ := checkOpenflow_eq check
      obtain ⟨message, later, rfl, -, version, named, size⟩ := looped.ahead starts whole more
      obtain ⟨cut, allKnown, counted, moved⟩ := looped.passed (version.symm.trans (known.mp rfl))
      have kept := handle_reads run
      have bench : outcome.ani.cbench = s.cbench := congrArg Reads.cbench kept
      have sameBuffer : outcome.ani.readBuffer = s.readBuffer := congrArg Reads.readBuffer kept
      have samePointer : outcome.ani.readBufferp = s.readBufferp :=
        congrArg Reads.readBufferp kept
      let call : Call := .of handler s.readBufferp { s with pheader := .read s.readBufferp } env
        outcome
      have here : HandedAt memory call (done.flatten.length, message) := by
        refine ⟨?_, named ▸ type⟩
        simp only at buffer pointer
        rw [← buffer, ← pointer]
        rfl
      have handled : hasHandler message = true := by
        rw [hasHandler, here.handler, Option.isSome_some]
      refine ⟨done ++ [message], later, cut, sameBuffer.trans buffer, bench.trans looped.cbench,
        allKnown, looped.handed.call here, ?_⟩
      unfold Process.ScanPlace afterCall
      simp only
      by_cases failed : outcome.result = -1
      · rw [if_pos failed]
        exact ⟨calls events, call, done, message, by simp [calls, Event.call?, call], failed,
          fine, rfl, handled⟩
      · rw [if_neg failed]
        refine ⟨?_, ?_, fine.call failed⟩
        · unfold Ani.view
          simp only [size]
          exact counted
        · unfold Ani.view
          simp only [size, samePointer]
          exact moved
  | thread found share => exact ⟨done, todo, looped.thread share rfl⟩
  | shared found share => exact ⟨done, todo, looped.thread share rfl⟩

/-- The loop goes on unless a handler does not return. -/
theorem Looped.moves (looped : Looped memory all events p done todo)
    (starts : memory.Starts all.flatten) (whole : ∀ message ∈ all, messages.Whole message)
    (busy : p.place ≠ .reading) (alive : p.place ≠ .exited) :
    p.Moves ∨ ∃ message rest, todo = message :: rest ∧ p.StuckAt message := by
  have here := looped.place
  obtain ⟨s, place, threads⟩ := p
  cases place with
  | sending => exact .inl ⟨_, _, .scan looped.cbench, fun same => nomatch same⟩
  | scanning counter =>
      by_cases more : counter > 0
      · obtain ⟨message, later, rfl, header, -, named, size⟩ := looped.ahead starts whole more
        exact (Process.scanning_moves (Nat.lt_of_lt_of_le (by decide) header) named size).imp id
          fun stuck => ⟨message, later, rfl, stuck⟩
      · exact .inl ⟨_, _, .scanned more, fun same => nomatch same⟩
  | reading => exact absurd rfl busy
  | exited => exact absurd rfl alive
  | _ => exact absurd here id

/-- The run lemma: from the call of `send_information` on. -/
theorem looped_run (sending : p.place = .sending) (cbench : p.ani.cbench = true)
    (starts : p.ani.readBuffer.Starts all.flatten)
    (length : p.ani.readBufferLen = all.flatten.length)
    (whole : ∀ message ∈ all, messages.Whole message) (run : Run Process.Step p events q) :
    chunks events = [] → Event.lost ∉ events →
      ∃ done todo, Looped p.ani.readBuffer all events q done todo := by
  induction run with
  | refl =>
      intro _ _
      refine ⟨[], all, rfl, rfl, cbench, by simp, .nil, ?_⟩
      rw [Process.ScanPlace, sending]
      exact ⟨rfl, length, by simp [Succeeded, calls]⟩
  | @snoc events middle finish event _ step inductionHypothesis =>
      intro unread connected
      obtain ⟨before, silent⟩ := chunks_snoc_eq_nil.mp unread
      obtain ⟨done, todo, looped⟩ := inductionHypothesis before fun lost =>
        connected (List.mem_append_left _ lost)
      apply looped.step starts whole step silent
      rintro rfl
      exact connected (List.mem_append_right _ List.mem_cons_self)

end Loop

/-- On a buffer of whole messages the loop hands each one in front of the first
of another version to its handler, in their order and at its own start, up to
the first handler that fails.  Its counter is what is left of the buffer
whenever it tests it, and it goes on unless a handler does not return. -/
theorem scan_hands_out {p q : Process} {events : List Event} {all : List (List UInt8)}
    (sending : p.place = .sending) (cbench : p.ani.cbench = true)
    (starts : p.ani.readBuffer.Starts all.flatten)
    (length : p.ani.readBufferLen = all.flatten.length)
    (whole : ∀ message ∈ all, messages.Whole message) (run : Run Process.Step p events q)
    (unread : chunks events = []) (connected : Event.lost ∉ events) :
    ∃ done todo, Looped p.ani.readBuffer all events q done todo ∧
      (q.place ≠ .reading → q.place ≠ .exited →
        q.Moves ∨ ∃ message rest, todo = message :: rest ∧ q.StuckAt message) := by
  obtain ⟨done, todo, looped⟩ :=
    looped_run sending cbench starts length whole run unread connected
  exact ⟨done, todo, looped, looped.moves starts whole⟩

theorem scan_hands_out_messages :
    ∃ p q events, p.place = .sending ∧ Run Process.Step p events q ∧ q.place = .reading ∧
      (calls events).length = 2 ∧
      ∃ done todo, Looped p.ani.readBuffer [hello, statsReply, echoMessage] events q done todo ∧
        (q.place ≠ .reading → q.place ≠ .exited →
          q.Moves ∨ ∃ message rest, todo = message :: rest ∧ q.StuckAt message) := by
  let all := [hello, statsReply, echoMessage]
  let p : Process :=
    ⟨{ Ani.initial true with
        readBuffer := Memory.ofList all.flatten Memory.zero
        readBufferLen := all.flatten.length }, .sending, []⟩
  have computed : (p.scans 5).map (fun run => (chunks run.1, (calls run.1).length, run.2.place)) =
      some ([], 2, .reading) := by decide +kernel
  obtain ⟨⟨events, q⟩, scans, same⟩ := Option.map_eq_some_iff.mp computed
  simp only [Prod.mk.injEq] at same
  obtain ⟨unread, many, reading⟩ := same
  have whole : ∀ message ∈ all, messages.Whole message := by
    simp only [all, List.forall_mem_cons]
    exact ⟨⟨by decide, by decide⟩, ⟨by decide, by decide⟩, ⟨by decide, by decide⟩, nofun⟩
  have run := Process.scans_run scans
  exact ⟨p, q, events, rfl, run, reading, many,
    scan_hands_out rfl rfl (Memory.starts_ofList _ _) rfl whole run unread
      (Process.scans_lasts scans)⟩

end DAIM.Ani41
