import DAIM.Ani41.Branches
import DAIM.Ani41.Tables

/-!
# Messages in the byte stream

In the benchmark mode the main thread takes every chunk that it receives for a
sequence of whole messages.  When the chunks end where messages end, the
handlers are called for the messages of the stream in their order.
-/

namespace DAIM.Ani41

open DAIM.Library DAIM.OpenFlow DAIM.Linked DAIM.Com

/-! ## What no handler changes -/

/-- What `send_information` reads. -/
structure Reads where
  cbench : Bool
  readBuffer : Memory
  readBufferp : Nat
  readBufferLen : Int

def Ani.reads (s : Ani) : Reads := ⟨s.cbench, s.readBuffer, s.readBufferp, s.readBufferLen⟩

theorem Ani.reads_transactionId (s : Ani) (xid : UInt32) :
    { s with transactionId := xid }.reads = s.reads := rfl

section Handlers

variable {env : Env} {ofBuffer : Nat} {s : Ani} {message : Memory} {packet : PacketIn}
variable {sending : Sending} {outcome : Outcome}

theorem stable_reads (env : Env) (reads : Reads) : Stable env fun s => s.reads = reads where
  learnt := fun _ _ _ kept => kept
  looked := fun _ _ kept => kept
  sent := fun _ _ kept => kept

theorem packoutLldp_reads (run : packoutLldp env message packet s = some sending) :
    sending.1.reads = s.reads := by
  rw [packoutLldp_frame run]
  rfl

theorem packoutBranch_reads (run : packoutBranch env message packet s = some sending) :
    sending.1.reads = s.reads :=
  (stable_reads env s.reads).packoutBranch rfl (fun _ discovery => packoutLldp_reads discovery) run

theorem actionPackout_reads (run : actionPackout env ofBuffer s = some outcome) :
    outcome.ani.reads = s.reads := by
  unfold actionPackout at run
  simp only at run
  split at run
  · cases run
  · rename_i ended sent branch
    have kept := (packoutBranch_reads branch).trans (s.reads_transactionId _)
    split at run
    · cases run
      exact kept
    · cases run
      exact kept

theorem actionFeaturesReply_reads (run : actionFeaturesReply env ofBuffer s = some outcome) :
    outcome.ani.reads = s.reads := by
  unfold actionFeaturesReply at run
  simp only at run
  split at run
  · cases run
  · split at run
    · cases run
      rfl
    · split at run
      · cases run
      · split at run
        · cases run
        · cases run
          rw [sendSwitchConfig_frame]
          rfl

/-- A handler leaves the received bytes and the position in them alone. -/
theorem handle_reads {handler : Handler} (run : handle handler env ofBuffer s = some outcome) :
    outcome.ani.reads = s.reads := by
  cases handler with
  | hello =>
      cases run
      rw [actionHello_frame]
      rfl
  | echo =>
      cases run
      rw [actionEcho_frame]
      rfl
  | packout => exact actionPackout_reads run
  | featuresReply => exact actionFeaturesReply_reads run

theorem handle_keeps {handler : Handler} (run : handle handler env ofBuffer s = some outcome) :
    outcome.ani.cbench = s.cbench ∧ outcome.ani.readBuffer = s.readBuffer ∧
      outcome.ani.readBufferp = s.readBufferp := by
  have kept := handle_reads run
  exact ⟨congrArg Reads.cbench kept, congrArg Reads.readBuffer kept,
    congrArg Reads.readBufferp kept⟩

end Handlers

/-! ## Chunks and calls of a history -/

def Event.call? : Event → Option Call
  | .handled call => some call
  | _ => none

def Event.chunk? : Event → Option (List UInt8)
  | .received chunk => some chunk
  | _ => none

/-- The calls of handlers in a history, and the chunks received in it. -/
def calls (events : List Event) : List Call := events.filterMap Event.call?
def chunks (events : List Event) : List (List UInt8) := events.filterMap Event.chunk?

theorem calls_append (before after : List Event) :
    calls (before ++ after) = calls before ++ calls after :=
  List.filterMap_append

theorem calls_silent {event : Event} (silent : event.call? = none) (events : List Event) :
    calls (events ++ [event]) = calls events := by
  rw [calls_append, calls, calls, List.filterMap_cons_none silent, List.filterMap_nil,
    List.append_nil]

theorem chunks_append (before after : List Event) :
    chunks (before ++ after) = chunks before ++ chunks after :=
  List.filterMap_append

theorem chunks_silent {event : Event} (silent : event.chunk? = none) (events : List Event) :
    chunks (events ++ [event]) = chunks events := by
  rw [chunks_append, chunks, chunks, List.filterMap_cons_none silent, List.filterMap_nil,
    List.append_nil]

/-- Nothing was received, by the last event neither. -/
theorem chunks_snoc_eq_nil {events : List Event} {event : Event} :
    chunks (events ++ [event]) = [] ↔ chunks events = [] ∧ event.chunk? = none := by
  rw [chunks_append, List.append_eq_nil_iff]
  simp [chunks]

theorem calls_mem {events : List Event} {call : Call} (member : call ∈ calls events) :
    Event.handled call ∈ events := by
  obtain ⟨event, happened, isCall⟩ := List.mem_filterMap.mp member
  cases event with
  | handled other =>
      cases isCall
      exact happened
  | _ => cases isCall

def hasHandler (message : List UInt8) : Bool := (dispatch (messageType message)).isSome

/-- The handler for the type of the message is called with the whole message. -/
structure Takes (call : Call) (message : List UInt8) : Prop where
  whole : call.message.Starts message
  handler : dispatch (messageType message) = some call.handler

/-- A delivery calls the handler with the chunk that it delivers. -/
theorem Process.deliver_takes {p q : Process} {chunk : List UInt8} {env : Env} {call : Call}
    (delivered : p.deliver chunk env = some (call, q)) (header : OfpHeader.size ≤ chunk.length) :
    Takes call chunk := by
  unfold Process.deliver at delivered
  split at delivered
  · split at delivered
    · cases delivered
    · rename_i next handler chosen
      obtain ⟨rfl, type⟩ := normalHandler_eq chosen
      split at delivered
      · cases delivered
      · cases delivered
        have starts : ((Memory.ofList chunk Memory.zero).shift 0).Starts chunk := by
          rw [Memory.shift_zero]
          exact Memory.starts_ofList chunk Memory.zero
        have dispatched := type handler rfl
        rw [starts.octet (Nat.lt_of_lt_of_le (by decide) header)] at dispatched
        exact ⟨starts, dispatched⟩
  · cases delivered

/-- The messages of the current chunk that the main thread has not come to. -/
def Process.Faces (p : Process) (todo : List (List UInt8)) : Prop :=
  match p.place with
  | .reading => todo = []
  | .sending =>
      p.ani.readBuffer.Starts todo.flatten ∧ p.ani.readBufferLen = todo.flatten.length
  | .scanning counter =>
      (p.ani.readBuffer.shift p.ani.readBufferp).Starts todo.flatten ∧
        counter = todo.flatten.length
  | .exited => True
  | _ => False

/-- What the loop of `send_information` reads at the next message. -/
theorem head_read {memory : Memory} {message : List UInt8} {rest : List (List UInt8)}
    (starts : memory.Starts (message :: rest).flatten) (framed : Framed message) :
    memory.Starts message ∧ memory OfpHeader.version = ofpVersion ∧
      memory OfpHeader.type = messageType message ∧
      (ntohs (memory.load16 OfpHeader.length)).toNat = message.length ∧
      (memory.shift message.length).Starts rest.flatten := by
  rw [List.flatten_cons] at starts
  have whole := starts.left
  have header : 8 ≤ message.length := framed.header
  refine ⟨whole, ?_, ?_, ?_, starts.right⟩
  · rw [whole.octet (by show 0 < _; omega)]
    exact framed.version
  · exact whole.octet (by show 1 < _; omega)
  · rw [whole.ntohs_load16 (by show 2 + 2 ≤ _; omega)]
    exact framed.length

/-- While something remains of the chunk, so does a whole message. -/
theorem todo_cases {todo : List (List UInt8)} (framed : ∀ message ∈ todo, Framed message) :
    todo = [] ∧ todo.flatten.length = 0 ∨
      ∃ message rest, todo = message :: rest ∧ 8 ≤ message.length ∧
        todo.flatten.length = message.length + rest.flatten.length := by
  cases todo with
  | nil => exact .inl ⟨rfl, rfl⟩
  | cons message rest =>
      refine .inr ⟨message, rest, rfl, (framed message List.mem_cons_self).header, ?_⟩
      rw [List.flatten_cons, List.length_append]

/-- What one step does about the messages of the current chunk: it passes
`done`, calling the handler if there is one. -/
structure Passes (p : Process) (event : Event) (q : Process) (done rest : List (List UInt8)) :
    Prop where
  cbench : q.ani.cbench = true
  faces : q.Faces rest
  takes : List.Forall₂ Takes (calls [event]) (done.filter hasHandler)
  exited : q.place = .exited →
    p.place = .exited ∧ event.call? = none ∨ ∃ call, event = .handled call ∧ call.result = -1

/-- A step of a discovery thread is none of the loop. -/
theorem ShareStep.faces {s next : Ani} {place : MainPlace} {threads others : List Thread}
    {index : Nat} {thread after : Thread} {sent : Option (List UInt8)}
    {todo : List (List UInt8)} (share : ShareStep index s thread sent next after)
    (faces : Process.Faces ⟨s, place, threads⟩ todo) :
    next.cbench = s.cbench ∧ Process.Faces ⟨next, place, others⟩ todo := by
  obtain ⟨bench, buffer, pointer, length⟩ := share.keeps_buffer
  refine ⟨bench, ?_⟩
  unfold Process.Faces at *
  simpa only [buffer, pointer, length] using faces

theorem ShareStep.passes {s next : Ani} {place : MainPlace} {threads others : List Thread}
    {event : Event} {index : Nat} {thread after : Thread} {sent : Option (List UInt8)}
    {todo : List (List UInt8)} (share : ShareStep index s thread sent next after)
    (cbench : s.cbench = true) (faces : Process.Faces ⟨s, place, threads⟩ todo)
    (silent : event.call? = none) :
    Passes ⟨s, place, threads⟩ event ⟨next, place, others⟩ [] todo := by
  obtain ⟨bench, kept⟩ := share.faces faces
  refine ⟨bench.trans cbench, kept, ?_, fun exited => .inl ⟨exited, silent⟩⟩
  rw [calls, List.filterMap_cons, silent]
  exact .nil

theorem Process.Step.passes {p q : Process} {event : Event} {todo : List (List UInt8)}
    (step : Process.Step p event q) (cbench : p.ani.cbench = true) (faces : p.Faces todo)
    (framed : ∀ message ∈ todo, Framed message) (silent : event.chunk? = none)
    (connected : event ≠ .lost) :
    ∃ done rest, todo = done ++ rest ∧ Passes p event q done rest := by
  cases step with
  | received _ _ => cases silent
  | lost _ => exact absurd rfl connected
  | closed => cases faces
  | freeHosts _ => cases faces
  | freePorts _ => cases faces
  | freeLinks _ => cases faces
  | freeReplys _ => cases faces
  | connected => cases faces
  | refused => cases faces
  | scan _ =>
      obtain ⟨starts, length⟩ := faces
      refine ⟨[], todo, rfl, cbench, ⟨?_, length⟩, .nil, fun impossible => nomatch impossible⟩
      rwa [Memory.shift_zero]
  | ignored normal _ => exact absurd cbench (by simp [normal])
  | answered normal _ _ => exact absurd cbench (by simp [normal])
  | scanned finished =>
      obtain ⟨-, length⟩ := faces
      rcases todo_cases framed with ⟨rfl, -⟩ | ⟨message, rest, -, header, total⟩
      · exact ⟨[], [], rfl, cbench, rfl, .nil, fun impossible => nomatch impossible⟩
      · omega
  | unknown more check =>
      obtain ⟨starts, length⟩ := faces
      rcases todo_cases framed with ⟨rfl, empty⟩ | ⟨message, rest, rfl, -, -⟩
      · omega
      · obtain ⟨-, version, -⟩ := head_read starts (framed message List.mem_cons_self)
        have known := (checkOpenflow_eq check).2.mpr version
        cases known
  | @skipped s next threads counter more check type =>
      obtain ⟨starts, length⟩ := faces
      obtain ⟨rfl, -⟩ := checkOpenflow_eq check
      rcases todo_cases framed with ⟨rfl, empty⟩ | ⟨message, rest, rfl, -, total⟩
      · omega
      · obtain ⟨-, -, named, size, onward⟩ :=
          head_read starts (framed message List.mem_cons_self)
        have unhandled : hasHandler message = false := by
          rw [hasHandler, ← named]
          exact congrArg Option.isSome type
        refine ⟨[message], rest, rfl, cbench, ?_, ?_, fun impossible => nomatch impossible⟩
        · unfold Ani.view
          simp only [size]
          refine ⟨?_, by omega⟩
          rwa [Memory.shift_shift] at onward
        · rw [List.filter_singleton, unhandled]
          exact .nil
  | @scanAnswered s next threads counter handler env outcome more check type run =>
      obtain ⟨starts, length⟩ := faces
      obtain ⟨rfl, -⟩ := checkOpenflow_eq check
      rcases todo_cases framed with ⟨rfl, empty⟩ | ⟨message, rest, rfl, -, total⟩
      · omega
      · obtain ⟨whole, -, named, size, onward⟩ :=
          head_read starts (framed message List.mem_cons_self)
        have chosen : dispatch (messageType message) = some handler := by
          rw [← named]
          exact type
        have handled : hasHandler message = true := by rw [hasHandler, chosen, Option.isSome_some]
        obtain ⟨bench, buffer, pointer⟩ := handle_keeps run
        refine ⟨[message], rest, rfl, bench.trans cbench, ?_, ?_, ?_⟩
        · unfold Ani.view afterCall
          simp only [size, buffer, pointer]
          split
          · trivial
          · refine ⟨?_, by omega⟩
            rwa [Memory.shift_shift] at onward
        · rw [List.filter_singleton, handled]
          exact .cons ⟨whole, chosen⟩ .nil
        · intro exited
          unfold afterCall at exited
          split at exited
          · rename_i negative
            exact .inr ⟨_, rfl, negative⟩
          · cases exited
  | thread found share => exact ⟨[], todo, rfl, share.passes cbench faces rfl⟩
  | shared found share => exact ⟨[], todo, rfl, share.passes cbench faces rfl⟩

/-- What one step does about the messages of the current chunk outside of the
benchmark mode: nothing, or it is done with all of them, with a call for the
first one if that has a handler. -/
inductive Finishes (p : Process) (event : Event) (q : Process) (todo : List (List UInt8)) :
    Prop where
  | still : q.place = p.place → q.Faces todo → event.call? = none → Finishes p event q todo
  | ignored : p.place = .sending → q.place = .reading → event.call? = none →
      (∀ message ∈ todo.head?, hasHandler message = false) → Finishes p event q todo
  | answered {call : Call} : p.place = .sending → q.place = .reading ∨ q.place = .exited →
      event = .handled call → (∀ message ∈ todo.head?, Takes call message) →
      Finishes p event q todo

theorem Process.Step.finishes {p q : Process} {event : Event} {todo : List (List UInt8)}
    (step : Process.Step p event q) (normal : p.ani.cbench = false) (faces : p.Faces todo)
    (framed : ∀ message ∈ todo, Framed message) (silent : event.chunk? = none)
    (connected : event ≠ .lost) (notScanning : ∀ counter, p.place ≠ .scanning counter) :
    Finishes p event q todo := by
  obtain ⟨s, place, threads⟩ := p
  cases step with
  | received _ _ => cases silent
  | lost _ => exact absurd rfl connected
  | scan cbench => exact absurd (cbench.symm.trans normal) (by decide)
  | @ignored s next threads _ chosen =>
      obtain ⟨starts, -⟩ := faces
      refine .ignored rfl rfl rfl fun message first => ?_
      obtain ⟨rest, rfl⟩ := List.head?_eq_some_iff.mp first
      obtain ⟨-, version, named, -⟩ := head_read starts (framed _ List.mem_cons_self)
      have known : ((s.readBuffer).shift 0) OfpHeader.version = ofpVersion := by
        rwa [Memory.shift_zero]
      rw [normalHandler_known known] at chosen
      have unhandled : dispatch ((s.readBuffer.shift 0) OfpHeader.type) = none :=
        (Prod.mk.inj chosen).2
      rw [Memory.shift_zero, named] at unhandled
      rw [hasHandler, unhandled]
      rfl
  | @answered s next threads handler env outcome _ chosen run =>
      obtain ⟨starts, -⟩ := faces
      obtain ⟨rfl, type⟩ := normalHandler_eq chosen
      refine .answered rfl ?_ rfl fun message first => ?_
      · show afterCall outcome.result .reading = .reading ∨
          afterCall outcome.result .reading = .exited
        unfold afterCall
        split
        · exact .inr rfl
        · exact .inl rfl
      · obtain ⟨rest, rfl⟩ := List.head?_eq_some_iff.mp first
        obtain ⟨whole, -, named, -⟩ := head_read starts (framed _ List.mem_cons_self)
        have dispatched := type handler rfl
        rw [Memory.shift_zero, named] at dispatched
        refine ⟨?_, dispatched⟩
        show ((s.readBuffer).shift 0).Starts message
        rwa [Memory.shift_zero]
  | @scanned s threads counter _ => exact absurd rfl (notScanning counter)
  | @unknown s next threads counter _ _ => exact absurd rfl (notScanning counter)
  | @skipped s next threads counter _ _ _ => exact absurd rfl (notScanning counter)
  | @scanAnswered s next threads counter _ _ _ _ _ _ _ => exact absurd rfl (notScanning counter)
  | thread _ share => exact .still rfl (share.faces faces).2 rfl
  | shared _ share => exact .still rfl (share.faces faces).2 rfl
  | _ => cases faces

/-- Between two chunks nothing is left to come to. -/
theorem Process.faces_nil {p : Process} (done : p.place = .reading ∨ p.place = .exited) :
    p.Faces [] := by
  unfold Process.Faces
  rcases done with reading | exited
  · rw [reading]
  · rw [exited]
    trivial

theorem Process.not_busy {p : Process} (done : p.place = .reading ∨ p.place = .exited) :
    p.place ≠ .sending ∧ ∀ counter, p.place ≠ .scanning counter := by
  rcases done with reading | exited
  · exact ⟨fun sending => absurd (reading.symm.trans sending) (by decide),
      fun counter scanning => nomatch reading.symm.trans scanning⟩
  · exact ⟨fun sending => absurd (exited.symm.trans sending) (by decide),
      fun counter scanning => nomatch exited.symm.trans scanning⟩

/-- A handler leaves the mode and what was received alone. -/
theorem Called.keeps {p q : Process} {call : Call} {started : Ani} {ofBuffer : Nat}
    {outcome : Outcome} (called : Called p call q started ofBuffer outcome) :
    q.ani.cbench = p.ani.cbench ∧ q.ani.readBuffer = p.ani.readBuffer := by
  obtain ⟨cbench, buffer, -⟩ := handle_keeps called.run
  rw [called.ended, cbench, buffer, called.pointers]
  exact ⟨rfl, rfl⟩

theorem Process.Step.cbench {p q : Process} {event : Event} (step : Process.Step p event q) :
    q.ani.cbench = p.ani.cbench := by
  by_cases silent : ∀ call, event ≠ .handled call
  · exact (step.frame silent).1
  · obtain ⟨call, handled⟩ := not_forall_not.mp silent
    subst handled
    obtain ⟨started, ofBuffer, outcome, called⟩ := step.called
    exact called.keeps.1

theorem Process.Reaches.cbench {cbench : Bool} {events : List Event} {p : Process}
    (run : Process.Reaches cbench events p) : p.ani.cbench = cbench := by
  induction run with
  | refl => rfl
  | snoc _ step inductionHypothesis => exact step.cbench.trans inductionHypothesis

/-! ## Whole runs -/

/-- How far the stream has been dispatched: the messages `done` were passed in
their order, each with the handler for its type. -/
structure Dispatched (stream : List (List UInt8)) (after : List Event) (q : Process)
    (done todo : List (List UInt8)) : Prop where
  cut : stream = done ++ todo
  takes : List.Forall₂ Takes (calls after) (done.filter hasHandler)
  faces : q.Faces todo
  exited : q.place = .exited → ∃ call, (calls after).getLast? = some call ∧ call.result = -1

theorem Dispatched.snoc {stream done todo : List (List UInt8)} {after : List Event}
    {p q : Process} {event : Event} (dispatched : Dispatched stream after p done todo)
    (framed : ∀ message ∈ stream, Framed message) (cbench : p.ani.cbench = true)
    (step : Process.Step p event q) (silent : event.chunk? = none)
    (connected : event ≠ .lost) :
    ∃ more rest, Dispatched stream (after ++ [event]) q more rest := by
  have cut := dispatched.cut
  have inTodo : ∀ message ∈ todo, Framed message := by
    intro message member
    apply framed
    rw [cut]
    exact List.mem_append_right _ member
  obtain ⟨passed, rest, rfl, passes⟩ :=
    step.passes cbench dispatched.faces inTodo silent connected
  refine ⟨done ++ passed, rest, ⟨?_, ?_, passes.faces, ?_⟩⟩
  · rw [cut, List.append_assoc]
  · rw [calls_append, List.filter_append]
    exact List.rel_append dispatched.takes passes.takes
  · intro exited
    rcases passes.exited exited with ⟨before, uncalled⟩ | ⟨call, rfl, negative⟩
    · obtain ⟨call, last, negative⟩ := dispatched.exited before
      refine ⟨call, ?_, negative⟩
      rwa [calls_silent uncalled]
    · refine ⟨call, ?_, negative⟩
      rw [calls_append]
      simp [calls, Event.call?]

/-- A chunk of whole messages is received. -/
theorem Dispatched.received {stream done todo group : List (List UInt8)} {after : List Event}
    {p q : Process} {chunk : List UInt8} (dispatched : Dispatched stream after p done todo)
    (step : Process.Step p (.received chunk) q) (whole : chunk = group.flatten) :
    Dispatched (stream ++ group) (after ++ [.received chunk]) q done group := by
  have joined : calls (after ++ [.received chunk]) = calls after := calls_silent rfl after
  have faces := dispatched.faces
  cases step with
  | received _ _ =>
      have finished : todo = [] := faces
      subst whole
      refine ⟨?_, ?_, ⟨Memory.starts_ofList _ _, rfl⟩, fun impossible => nomatch impossible⟩
      · rw [dispatched.cut, finished, List.append_nil]
      · rw [joined]
        exact dispatched.takes

/-- What a run has dispatched, when every chunk was cut where a message ends. -/
theorem dispatched_run {before after : List Event} {p q : Process}
    (start : Process.Reaches true before p) (reading : p.place = .reading)
    (run : Run Process.Step p after q) :
    ∀ groups : List (List (List UInt8)), chunks after = groups.map List.flatten →
      (∀ message ∈ groups.flatten, Framed message) → Event.lost ∉ after →
      ∃ done todo, Dispatched groups.flatten after q done todo := by
  induction run with
  | refl =>
      intro groups cut _ _
      have none : groups = [] := List.map_eq_nil_iff.mp cut.symm
      subst none
      refine ⟨[], [], rfl, .nil, ?_, ?_⟩
      · rw [Process.Faces, reading]
      · intro exited
        rw [reading] at exited
        cases exited
  | @snoc events middle finish event earlier step inductionHypothesis =>
      intro groups cut framed connected
      have lasting : Event.lost ∉ events := fun lost => connected (List.mem_append_left _ lost)
      have here : event ≠ .lost := by
        rintro rfl
        exact connected (List.mem_append_right _ List.mem_cons_self)
      rw [chunks_append] at cut
      cases event with
      | received chunk =>
          obtain ⟨earlierGroups, lastGroups, rfl, beforeCut, lastCut⟩ :=
            List.append_eq_map_iff.mp cut
          obtain ⟨group, rfl, whole⟩ := List.map_eq_singleton_iff.mp lastCut
          rw [List.flatten_append] at framed
          obtain ⟨done, todo, dispatched⟩ := inductionHypothesis earlierGroups beforeCut.symm
            (fun message member => framed message (List.mem_append_left _ member)) lasting
          refine ⟨done, group, ?_⟩
          rw [List.flatten_append, List.flatten_singleton]
          exact dispatched.received step whole.symm
      | _ =>
          have silent : chunks events = groups.map List.flatten := by
            rw [← cut]
            exact (List.append_nil _).symm
          obtain ⟨done, todo, dispatched⟩ := inductionHypothesis groups silent framed lasting
          have reached : Process.Reaches true (before ++ events) middle := start.trans earlier
          exact dispatched.snoc framed reached.cbench step rfl here

/-- The main thread can take a step. -/
def Process.Moves (p : Process) : Prop :=
  ∃ event next, Process.Step p event next ∧ next.place ≠ p.place

/-- The handler of the message does not return from its call here. -/
def Process.StuckAt (p : Process) (message : List UInt8) : Prop :=
  ∃ handler, dispatch (messageType message) = some handler ∧
    ∀ env, handle handler env p.ani.readBufferp
      { p.ani with pheader := .read p.ani.readBufferp } = none

theorem checkOpenflow_unknown {s : Ani} {ofBuffer : Nat}
    (version : (s.readBuffer.shift ofBuffer) OfpHeader.version ≠ ofpVersion) :
    checkOpenflow ofBuffer s = ({ s with pheader := .read ofBuffer }, -1) := by
  unfold checkOpenflow Ani.view
  simp only
  rw [if_neg version]

/-- In front of a message that states a length, the loop goes on unless the
handler of the message does not return. -/
theorem Process.scanning_moves {s : Ani} {counter : Int} {threads : List Thread}
    {message : List UInt8} (header : 0 < message.length)
    (named : (s.readBuffer.shift s.readBufferp) OfpHeader.type = messageType message)
    (size : (ntohs ((s.readBuffer.shift s.readBufferp).load16 OfpHeader.length)).toNat =
      message.length) :
    Process.Moves ⟨s, .scanning counter, threads⟩ ∨
      Process.StuckAt ⟨s, .scanning counter, threads⟩ message := by
  by_cases more : counter > 0
  · have advanced : counter -
        (ntohs ((s.readBuffer.shift s.readBufferp).load16 OfpHeader.length)).toNat ≠ counter := by
      rw [size]
      omega
    by_cases known : (s.readBuffer.shift s.readBufferp) OfpHeader.version = ofpVersion
    · have check := checkOpenflow_known known
      cases type : dispatch ((s.readBuffer.shift s.readBufferp) OfpHeader.type) with
      | none =>
          refine .inl ⟨_, _, .skipped more check type, fun same => ?_⟩
          injection same with same
          exact advanced same
      | some handler =>
          by_cases returns : ∃ env outcome, handle handler env s.readBufferp
              { s with pheader := .read s.readBufferp } = some outcome
          · obtain ⟨env, outcome, run⟩ := returns
            refine .inl ⟨_, _, .scanAnswered more check type run, fun same => ?_⟩
            unfold afterCall at same
            split at same
            · cases same
            · injection same with same
              exact advanced same
          · refine .inr ⟨handler, named ▸ type, fun env => ?_⟩
            cases run : handle handler env s.readBufferp
                { s with pheader := .read s.readBufferp } with
            | none => rfl
            | some outcome => exact absurd ⟨env, outcome, run⟩ returns
    · exact .inl ⟨_, _, .unknown more (checkOpenflow_unknown known), fun same => nomatch same⟩
  · exact .inl ⟨_, _, .scanned more, fun same => nomatch same⟩

/-- The loop goes on to the next message unless a handler does not return. -/
theorem Process.Faces.moves {p : Process} {todo : List (List UInt8)} (faces : p.Faces todo)
    (framed : ∀ message ∈ todo, Framed message) (cbench : p.ani.cbench = true)
    (idle : p.place ≠ .reading) (alive : p.place ≠ .exited) :
    p.Moves ∨ ∃ message rest, todo = message :: rest ∧ p.StuckAt message := by
  obtain ⟨s, place, threads⟩ := p
  cases place with
  | sending => exact .inl ⟨_, _, .scan cbench, fun same => nomatch same⟩
  | scanning counter =>
      obtain ⟨starts, length⟩ := faces
      rcases todo_cases framed with ⟨rfl, empty⟩ | ⟨message, rest, rfl, header, -⟩
      · exact .inl ⟨_, _, .scanned (by omega), fun same => nomatch same⟩
      · obtain ⟨-, -, named, size, -⟩ := head_read starts (framed message List.mem_cons_self)
        exact (Process.scanning_moves (Nat.lt_of_lt_of_le (by decide) header) named size).imp id
          fun stuck => ⟨message, rest, rfl, stuck⟩
  | reading => exact absurd rfl idle
  | exited => exact absurd rfl alive
  | _ => cases faces

/-! ## Running the benchmark mode -/

/-- In the benchmark mode, the next step of the main thread on its chunk, when all
system calls succeed. -/
def Process.scan (p : Process) : Option (Event × Process) :=
  match p.place with
  | .sending =>
      if p.ani.cbench = true then
        some (.internal,
          ⟨{ p.ani with readBufferp := 0 }, .scanning p.ani.readBufferLen, p.threads⟩)
      else none
  | .scanning counter =>
      if counter > 0 then
        let (next, checked) := checkOpenflow p.ani.readBufferp p.ani
        let size := (ntohs ((next.view next.pheader).load16 OfpHeader.length)).toNat
        if checked = 0 then
          match dispatch (next.view next.pheader OfpHeader.type) with
          | none =>
              some (.internal,
                ⟨{ next with readBufferp := next.readBufferp + size }, .scanning (counter - size),
                  p.threads⟩)
          | some handler =>
              (handle handler .calm next.readBufferp next).map fun outcome =>
                (.handled (.of handler next.readBufferp next .calm outcome),
                  ⟨{ outcome.ani with readBufferp := outcome.ani.readBufferp + size },
                    afterCall outcome.result (.scanning (counter - size)),
                    spawn p.threads outcome.spawned⟩)
        else none
      else some (.internal, ⟨p.ani, .reading, p.threads⟩)
  | _ => none

/-- One step after the other. -/
def Process.scans (p : Process) : Nat → Option (List Event × Process)
  | 0 => some ([], p)
  | steps + 1 => do
      let (event, middle) ← p.scan
      let (events, q) ← middle.scans steps
      some (event :: events, q)

/-- One chunk after the other, each with the number of steps on it. -/
def Process.feed (p : Process) : List (List UInt8 × Nat) → Option (List Event × Process)
  | [] => some ([], p)
  | (chunk, steps) :: rest =>
      if p.place = .reading ∧ chunk ≠ [] ∧ chunk.length ≤ readBufferSize then do
        let (events, middle) ← Process.scans
          ⟨{ p.ani with
              readBuffer := Memory.ofList chunk Memory.zero
              readBufferLen := chunk.length }, .sending, p.threads⟩ steps
        let (more, q) ← middle.feed rest
        some (.received chunk :: events ++ more, q)
      else none

theorem Process.scan_step {p q : Process} {event : Event} (taken : p.scan = some (event, q)) :
    Process.Step p event q := by
  obtain ⟨s, place, threads⟩ := p
  cases place with
  | sending =>
      simp only [Process.scan] at taken
      split at taken
      · rename_i bench
        cases taken
        exact .scan bench
      · cases taken
  | scanning counter =>
      simp only [Process.scan] at taken
      split at taken
      · rename_i more
        generalize read : checkOpenflow s.readBufferp s = checked at taken
        obtain ⟨next, checked⟩ := checked
        simp only at taken
        split at taken
        · rename_i known
          subst known
          split at taken
          · rename_i type
            cases taken
            exact .skipped more read type
          · rename_i type
            obtain ⟨outcome, handled, same⟩ := Option.map_eq_some_iff.mp taken
            cases same
            exact .scanAnswered more read type handled
        · cases taken
      · rename_i done
        cases taken
        exact .scanned done
  | _ => cases taken

theorem Process.scans_run {p q : Process} {events : List Event} {steps : Nat}
    (taken : p.scans steps = some (events, q)) : Run Process.Step p events q := by
  induction steps generalizing p events with
  | zero =>
      cases taken
      exact .refl
  | succ steps inductionHypothesis =>
      obtain ⟨⟨event, middle⟩, first, taken⟩ := Option.bind_eq_some_iff.mp taken
      obtain ⟨⟨others, last⟩, rest, same⟩ := Option.bind_eq_some_iff.mp taken
      cases same
      exact .cons (Process.scan_step first) (inductionHypothesis rest)

theorem Process.feed_run {p q : Process} {events : List Event} {chunks : List (List UInt8 × Nat)}
    (fed : p.feed chunks = some (events, q)) : Run Process.Step p events q := by
  induction chunks generalizing p events with
  | nil =>
      cases fed
      exact .refl
  | cons chunk rest inductionHypothesis =>
      obtain ⟨s, place, threads⟩ := p
      simp only [Process.feed] at fed
      split at fed
      · rename_i ready
        obtain ⟨rfl, filled, fits⟩ := ready
        obtain ⟨⟨first, middle⟩, scans, fed⟩ := Option.bind_eq_some_iff.mp fed
        obtain ⟨⟨more, last⟩, others, same⟩ := Option.bind_eq_some_iff.mp fed
        cases same
        exact .cons (.received filled fits)
          ((Process.scans_run scans).trans (inductionHypothesis others))
      · cases fed

/-- On its chunk the main thread does not lose the connection. -/
theorem Process.scan_lasts {p q : Process} {event : Event} (taken : p.scan = some (event, q)) :
    event ≠ .lost := by
  rintro rfl
  have step := Process.scan_step taken
  unfold Process.scan at taken
  cases step with
  | lost _ => cases taken

theorem Process.scans_lasts {p q : Process} {events : List Event} {steps : Nat}
    (taken : p.scans steps = some (events, q)) : Event.lost ∉ events := by
  induction steps generalizing p events with
  | zero =>
      cases taken
      exact List.not_mem_nil
  | succ steps inductionHypothesis =>
      obtain ⟨⟨event, middle⟩, first, taken⟩ := Option.bind_eq_some_iff.mp taken
      obtain ⟨⟨others, last⟩, rest, same⟩ := Option.bind_eq_some_iff.mp taken
      cases same
      exact fun member => (List.mem_cons.mp member).elim
        (fun lost => Process.scan_lasts first lost.symm) (inductionHypothesis rest)

theorem Process.feed_lasts {p q : Process} {events : List Event}
    {chunks : List (List UInt8 × Nat)} (fed : p.feed chunks = some (events, q)) :
    Event.lost ∉ events := by
  induction chunks generalizing p events with
  | nil =>
      cases fed
      exact List.not_mem_nil
  | cons chunk rest inductionHypothesis =>
      simp only [Process.feed] at fed
      split at fed
      · obtain ⟨⟨first, middle⟩, scans, fed⟩ := Option.bind_eq_some_iff.mp fed
        obtain ⟨⟨more, last⟩, others, same⟩ := Option.bind_eq_some_iff.mp fed
        cases same
        intro lost
        rcases List.mem_append.mp lost with here | later
        · exact (List.mem_cons.mp here).elim nofun (Process.scans_lasts scans)
        · exact inductionHypothesis others later
      · cases fed

/-! ## The messages of a stream -/

/-- When every chunk ends where a message ends, the messages of the stream are
dispatched in their order, each of them whole: all that were received whenever
the main thread reads again, and it does unless a handler does not return or
its result makes the controller exit. -/
theorem stream_dispatched {before after : List Event} {p q : Process}
    {groups : List (List (List UInt8))} (start : Process.Reaches true before p)
    (reading : p.place = .reading) (run : Run Process.Step p after q)
    (connected : Event.lost ∉ after) (cut : chunks after = groups.map List.flatten)
    (framed : ∀ message ∈ groups.flatten, Framed message) :
    ∃ done todo, groups.flatten = done ++ todo ∧
      List.Forall₂ Takes (calls after) (done.filter hasHandler) ∧
      (q.place = .reading → todo = []) ∧
      (q.place = .exited →
        ∃ call, (calls after).getLast? = some call ∧ call.result = -1) ∧
      (q.place ≠ .reading → q.place ≠ .exited →
        q.Moves ∨ ∃ message rest, todo = message :: rest ∧ q.StuckAt message) := by
  obtain ⟨done, todo, dispatched⟩ := dispatched_run start reading run groups cut framed connected
  have faces := dispatched.faces
  have bench : q.ani.cbench = true :=
    Process.Reaches.cbench (start.trans run)
  refine ⟨done, todo, dispatched.cut, dispatched.takes, ?_, dispatched.exited, ?_⟩
  · intro idle
    rwa [Process.Faces, idle] at faces
  · apply faces.moves _ bench
    intro message member
    apply framed
    rw [dispatched.cut]
    exact List.mem_append_right _ member

def hello : List UInt8 := [1, 0, 0, 8, 0, 0, 0, 1]

/-- A message that no handler is called for. -/
def statsReply : List UInt8 := [1, 17, 0, 12, 0, 0, 0, 2, 0, 0, 0, 0]

def echoMessage : List UInt8 := headerMessage ofptEchoRequest 3

/-- Five messages in two chunks. -/
def fiveMessages : List (List (List UInt8)) :=
  [[hello, statsReply, echoMessage], [echoMessage, hello]]

theorem stream_dispatched_chunks :
    ∃ after q, Run Process.Step (Process.initial true) after q ∧
      chunks after = fiveMessages.map List.flatten ∧ q.place = .reading ∧
      List.Forall₂ Takes (calls after) [hello, echoMessage, echoMessage, hello] := by
  have computed : ((Process.initial true).feed
      [(hello ++ statsReply ++ echoMessage, 5), (echoMessage ++ hello, 4)]).map
        (fun run => (chunks run.1, run.2.place)) =
      some (fiveMessages.map List.flatten, .reading) := by decide +kernel
  obtain ⟨⟨after, q⟩, fed, same⟩ := Option.map_eq_some_iff.mp computed
  obtain ⟨cut, reading⟩ := Prod.mk.inj same
  have run := Process.feed_run fed
  have framed : ∀ message ∈ fiveMessages.flatten, Framed message := by decide
  obtain ⟨done, todo, all, takes, read, -⟩ :=
    stream_dispatched .refl rfl run (Process.feed_lasts fed) cut framed
  rw [read reading, List.append_nil] at all
  refine ⟨after, q, run, cut, reading, ?_⟩
  rw [← all] at takes
  exact takes

/-! ## A `HELLO` in two chunks -/

/-- A chunk with the header of a `HELLO` that is at least as long as the chunk. -/
theorem hello_run (p : Process) (chunk : List UInt8) (reading : p.place = .reading)
    (cbench : p.ani.cbench = true) (some : chunk ≠ []) (fits : chunk.length ≤ readBufferSize)
    (version : Memory.ofList chunk Memory.zero OfpHeader.version = ofpVersion)
    (type : Memory.ofList chunk Memory.zero OfpHeader.type = ofptHello)
    (short : chunk.length ≤
      (ntohs ((Memory.ofList chunk Memory.zero).load16 OfpHeader.length)).toNat) :
    ∃ call q, Run Process.Step p [.received chunk, .internal, .handled call, .internal] q ∧
      q.place = .reading ∧ q.ani.cbench = true ∧
      call.message = Memory.ofList chunk Memory.zero := by
  obtain ⟨s, place, threads⟩ := p
  subst reading
  let scanned : Ani :=
    { s with
      readBuffer := Memory.ofList chunk Memory.zero
      readBufferLen := chunk.length
      readBufferp := 0 }
  have check : checkOpenflow 0 scanned = ({ scanned with pheader := .read 0 }, 0) :=
    checkOpenflow_known version
  have chosen : dispatch (Memory.ofList chunk Memory.zero OfpHeader.type) = Option.some .hello := by
    rw [type]
    rfl
  have more : scanned.readBufferLen > 0 := by
    have nonempty := List.length_pos_iff.mpr some
    show (chunk.length : Int) > 0
    omega
  have called : handle .hello .calm 0 { scanned with pheader := .read 0 } =
    Option.some (actionHello .calm 0 { scanned with pheader := .read 0 }) := rfl
  refine ⟨_, _, .cons (.received some fits) (.cons (.scan cbench) (.cons
    (.scanAnswered more check chosen called) (.single (.scanned ?_)))), rfl, cbench, ?_⟩
  · show ¬ (chunk.length : Int) -
      (ntohs ((Memory.ofList chunk Memory.zero).load16 OfpHeader.length)).toNat > 0
    omega
  · show (Memory.ofList chunk Memory.zero).shift 0 = _
    rw [Memory.shift_zero]

/-- Received in two halves, the message is not dispatched whole. -/
theorem cut_message_not_dispatched :
    ¬ ∀ before after p q, ∀ messages : List (List UInt8), Process.Reaches true before p →
      p.place = .reading → Run Process.Step p after q → Event.lost ∉ after →
      (∀ message ∈ messages, Framed message) →
      (chunks after).flatten = messages.flatten → q.place = .reading →
      List.Forall₂ Takes (calls after) (messages.filter hasHandler) := by
  intro always
  obtain ⟨call, p, first, reading, cbench, message⟩ :=
    hello_run (Process.initial true) [1, 0, 0, 8] rfl rfl (by decide) (by decide) rfl rfl
      (by decide)
  obtain ⟨s, place, threads⟩ := p
  simp only at reading
  subst reading
  have second : Run Process.Step ⟨s, .reading, threads⟩
      [.received [0, 0, 0, 1], .internal, .internal] _ :=
    .cons (.received (by decide) (by decide)) (.cons (.scan cbench)
      (.single (.unknown (show (4 : Int) > 0 by decide) rfl)))
  have framed : ∀ message ∈ [hello], Framed message := by
    intro message member
    rw [List.mem_singleton.mp member]
    decide
  have takes := always [] _ _ _ [hello] .refl rfl (first.trans second) (by simp) framed rfl rfl
  have only : calls ([.received [1, 0, 0, 8], .internal, .handled call, .internal] ++
      [.received [0, 0, 0, 1], .internal, .internal]) = [call] := rfl
  rw [only] at takes
  cases takes with
  | cons taken _ =>
      have whole := taken.whole
      rw [message] at whole
      exact absurd (whole.octet (by decide : 7 < hello.length)) (by decide)

end DAIM.Ani41
