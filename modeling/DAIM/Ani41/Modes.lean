import DAIM.Ani41.Loop

/-!
# Both modes on one buffer

The benchmark mode hands out every message of the buffer, the normal mode looks
at the first one only.
-/

namespace DAIM.Ani41

open DAIM.Library DAIM.OpenFlow DAIM.Linked DAIM.Com

/-- The handler of a call and the message it is given, as long as its header
says. -/
def Call.given (call : Call) : Handler × List UInt8 :=
  (call.handler,
    call.message.slice 0 (ntohs (call.message.load16 OfpHeader.length)).toNat)

/-- The messages that have a handler, with it. -/
def handedOut (all : List (List UInt8)) : List (Handler × List UInt8) :=
  all.filterMap fun message =>
    (dispatch (messageType message)).map fun handler => (handler, message)

theorem handedOut_eq_nil_iff {all : List (List UInt8)} :
    handedOut all = [] ↔ ∀ message ∈ all, hasHandler message = false := by
  simp [handedOut, hasHandler]

theorem HandedAt.given {memory : Memory} {call : Call} {start : Nat} {message : List UInt8}
    (handed : HandedAt memory call (start, message)) (starts : (memory.shift start).Starts message)
    (whole : messages.Whole message) : call.given = (call.handler, message) := by
  have front : (memory.shift start).Starts [message].flatten := by
    rwa [List.flatten_singleton]
  have size := (whole_read front whole).2.2.1
  have here : call.message = memory.shift start := handed.start
  rw [Call.given, here, size]
  exact congrArg _ starts

theorem given_eq {memory : Memory} {all : List (List UInt8)} {start : Nat} {called : List Call}
    (starts : (memory.shift start).Starts all.flatten)
    (whole : ∀ message ∈ all, messages.Whole message)
    (handed : List.Forall₂ (HandedAt memory) called
      ((placed start all).filter fun entry => hasHandler entry.2)) :
    called.map Call.given = handedOut all := by
  induction all generalizing start called with
  | nil =>
      cases handed
      rfl
  | cons message rest inductionHypothesis =>
      rw [List.flatten_cons] at starts
      have later := starts.right
      rw [Memory.shift_shift] at later
      have isWhole := whole message List.mem_cons_self
      have onward := fun (called : List Call) =>
        @inductionHypothesis (start + message.length) called later
          fun other member => whole other (List.mem_cons_of_mem _ member)
      cases handled : hasHandler message with
      | false =>
          have none : dispatch (messageType message) = none := by simpa [hasHandler] using handled
          rw [placed, List.filter_cons, handled] at handed
          rw [handedOut, List.filterMap_cons, none]
          exact onward called handed
      | true =>
          rw [placed, List.filter_cons, handled] at handed
          cases handed with
          | @cons call _ calls _ here others =>
              rw [List.map_cons, handedOut, List.filterMap_cons, here.handler,
                here.given starts.left isWhole, onward calls others]
              rfl

/-- Where the normal mode is, on a buffer that starts with the message. -/
def Process.NormalPlace (p : Process) (memory : Memory) (events : List Event)
    (message : List UInt8) : Prop :=
  match p.place with
  | .sending => p.ani.readBuffer = memory ∧ p.ani.cbench = false ∧ calls events = []
  | .reading => Handed memory events [message]
  | .exited => True
  | _ => False

theorem Process.NormalPlace.thread {memory : Memory} {events : List Event} {message : List UInt8}
    {s next : Ani} {place : MainPlace} {threads others : List Thread} {index : Nat}
    {thread after : Thread} {sent : Option (List UInt8)} {event : Event}
    (here : Process.NormalPlace ⟨s, place, threads⟩ memory events message)
    (share : ShareStep index s thread sent next after) (silent : event.call? = none) :
    Process.NormalPlace ⟨next, place, others⟩ memory (events ++ [event]) message := by
  obtain ⟨bench, buffer, -, -⟩ := share.keeps_buffer
  have joined := calls_silent silent events
  unfold Process.NormalPlace Handed at *
  simpa only [bench, buffer, joined] using here

theorem normalPlace_step {memory : Memory} {events : List Event} {message : List UInt8}
    {rest : List (List UInt8)} {p q : Process} {event : Event}
    (here : p.NormalPlace memory events message)
    (starts : memory.Starts (message :: rest).flatten) (framed : Framed message)
    (step : Process.Step p event q) (silent : event.chunk? = none) (connected : event ≠ .lost) :
    q.NormalPlace memory (events ++ [event]) message := by
  have whole : messages.Whole message := ⟨framed.header, framed.length⟩
  obtain ⟨version, named, -⟩ := whole_read starts whole
  have known : memory OfpHeader.version = ofpVersion := version.trans framed.version
  have chosen {s : Ani} (buffer : s.readBuffer = memory) :
      normalHandler { s with readBufferp := 0 } =
        ({ s with readBufferp := 0, pheader := .read 0 }, dispatch (messageType message)) := by
    rw [normalHandler_known (by simpa [buffer] using known)]
    simp only [buffer, Memory.shift_zero, named]
  cases step with
  | received _ _ => cases silent
  | lost _ => exact absurd rfl connected
  | closed => exact absurd here id
  | freeHosts _ => exact absurd here id
  | freePorts _ => exact absurd here id
  | freeLinks _ => exact absurd here id
  | freeReplys _ => exact absurd here id
  | connected => exact absurd here id
  | refused => exact absurd here id
  | scan bench =>
      obtain ⟨-, normal, -⟩ := here
      exact absurd (bench.symm.trans normal) (by decide)
  | scanned _ => exact absurd here id
  | unknown _ _ => exact absurd here id
  | skipped _ _ _ => exact absurd here id
  | scanAnswered _ _ _ _ => exact absurd here id
  | ignored _ ignores =>
      obtain ⟨buffer, -, none⟩ := here
      have unhandled : hasHandler message = false := by
        have both := (chosen buffer).symm.trans ignores
        simp only [Prod.mk.injEq] at both
        rw [hasHandler, both.2, Option.isSome_none]
      have before : Handed memory events [] := by
        rw [Handed, none]
        exact .nil
      exact (before.skip unhandled).silent rfl
  | @answered s next threads handler env outcome _ answers run =>
      obtain ⟨buffer, -, none⟩ := here
      have both := (chosen buffer).symm.trans answers
      simp only [Prod.mk.injEq] at both
      obtain ⟨rfl, type⟩ := both
      have before : Handed memory events [] := by
        rw [Handed, none]
        exact .nil
      unfold Process.NormalPlace afterCall
      simp only
      by_cases failed : outcome.result = -1
      · rw [if_pos failed]
        trivial
      · rw [if_neg failed]
        refine before.call ⟨?_, type⟩
        rw [← buffer]
        rfl
  | thread _ share => exact here.thread share rfl
  | shared _ share => exact here.thread share rfl

theorem normalPlace_run {message : List UInt8} {rest : List (List UInt8)} {p q : Process}
    {events : List Event} (sending : p.place = .sending) (normal : p.ani.cbench = false)
    (starts : p.ani.readBuffer.Starts (message :: rest).flatten) (framed : Framed message)
    (run : Run Process.Step p events q) :
    chunks events = [] → Event.lost ∉ events → q.NormalPlace p.ani.readBuffer events message := by
  induction run with
  | refl =>
      intro _ _
      rw [Process.NormalPlace, sending]
      exact ⟨rfl, normal, rfl⟩
  | @snoc events middle finish event _ step inductionHypothesis =>
      intro unread connected
      obtain ⟨earlier, silent⟩ := chunks_snoc_eq_nil.mp unread
      have before := inductionHypothesis earlier fun lost =>
        connected (List.mem_append_left _ lost)
      apply normalPlace_step before starts framed step silent
      rintro rfl
      exact connected (List.mem_append_right _ List.mem_cons_self)

/-- A call of `send_information` on a buffer of the messages, which it returned
from without a handler having failed. -/
structure SendsInformation (cbench : Bool) (all : List (List UInt8)) (p : Process)
    (events : List Event) (q : Process) : Prop where
  sending : p.place = .sending
  mode : p.ani.cbench = cbench
  starts : p.ani.readBuffer.Starts all.flatten
  length : p.ani.readBufferLen = all.flatten.length
  run : Run Process.Step p events q
  unread : chunks events = []
  connected : Event.lost ∉ events
  returned : q.place = .reading

namespace SendsInformation

variable {all rest : List (List UInt8)} {message : List UInt8} {p q : Process}
variable {events : List Event}

theorem normal_given (call : SendsInformation false (message :: rest) p events q)
    (framed : Framed message) : (calls events).map Call.given = handedOut [message] := by
  have here := normalPlace_run call.sending call.mode call.starts framed call.run call.unread
    call.connected
  rw [Process.NormalPlace, call.returned] at here
  have starts := call.starts
  rw [List.flatten_cons] at starts
  have front : (p.ani.readBuffer.shift 0).Starts [message].flatten := by
    rw [Memory.shift_zero, List.flatten_singleton]
    exact starts.left
  refine given_eq front ?_ here
  intro other member
  rw [List.mem_singleton.mp member]
  exact ⟨framed.header, framed.length⟩

theorem bench_given (call : SendsInformation true all p events q)
    (framed : ∀ message ∈ all, Framed message) :
    (calls events).map Call.given = handedOut all := by
  have whole : ∀ message ∈ all, messages.Whole message := fun message member =>
    ⟨(framed message member).header, (framed message member).length⟩
  obtain ⟨done, todo, looped⟩ := looped_run call.sending call.mode call.starts call.length whole
    call.run call.unread call.connected
  have place := looped.place
  rw [Process.ScanPlace, call.returned] at place
  have finished : todo = [] := by
    rcases place.1 with none | ⟨message, later, left, other⟩
    · exact none
    · exact absurd (framed message (by simp [looped.cut, left])).version other
  have same : all = done := by rw [looped.cut, finished, List.append_nil]
  have handed := looped.handed
  rw [Handed, ← same] at handed
  refine given_eq ?_ whole handed
  rw [Memory.shift_zero]
  exact call.starts

end SendsInformation

/-! ## Calls that return -/

theorem whole_passable {memory : Memory} {message : List UInt8} {rest : List (List UInt8)}
    (starts : memory.Starts (message :: rest).flatten) (framed : Framed message)
    (passes : messageType message ≠ ofptFeaturesReply) : Passable memory := by
  obtain ⟨version, named, -⟩ := whole_read starts ⟨framed.header, framed.length⟩
  exact ⟨version.trans framed.version, fun features => passes (named.symm.trans features.1)⟩

/-- The loop over messages that are no features replies can return. -/
theorem scanned_run {todo : List (List UInt8)} (framed : ∀ message ∈ todo, Framed message)
    (passes : ∀ message ∈ todo, messageType message ≠ ofptFeaturesReply) {p : Process}
    (ready : p.ani.Ready) (place : p.place = .scanning todo.flatten.length)
    (starts : (p.ani.readBuffer.shift p.ani.readBufferp).Starts todo.flatten) :
    ∃ events q, Run Process.Step p events q ∧ chunks events = [] ∧ Event.lost ∉ events ∧
      q.place = .reading := by
  induction todo generalizing p with
  | nil =>
      obtain ⟨s, place', threads⟩ := p
      cases place
      exact ⟨_, _, .single (.scanned (by decide)), rfl, by simp, rfl⟩
  | cons message rest inductionHypothesis =>
      have isFramed := framed message List.mem_cons_self
      obtain ⟨-, -, size, onward⟩ := whole_read starts ⟨isFramed.header, isFramed.length⟩
      have total : (message :: rest).flatten.length = message.length + rest.flatten.length := by
        rw [List.flatten_cons, List.length_append]
      have header : 8 ≤ message.length := isFramed.header
      obtain ⟨middle, round, still⟩ := round_of_passable ready place (by omega)
        (whole_passable starts isFramed (passes message List.mem_cons_self))
      have moved := round.advances place
      have length : statedLength (p.ani.readBuffer.shift p.ani.readBufferp) = message.length :=
        size
      have further := moved.place
      rw [length, total] at further
      have later : (middle.ani.readBuffer.shift middle.ani.readBufferp).Starts rest.flatten := by
        rw [moved.buffer, moved.position, length, ← Memory.shift_shift]
        exact onward
      obtain ⟨events, q, run, unread, connected, returned⟩ := inductionHypothesis
        (fun other member => framed other (List.mem_cons_of_mem _ member))
        (fun other member => passes other (List.mem_cons_of_mem _ member)) still
        (further.trans (by congr 1; omega)) later
      obtain ⟨event, step, silent, lasting⟩ := round.step
      refine ⟨event :: events, q, .cons step run, ?_, ?_, returned⟩
      · rw [chunks, List.filterMap_cons, silent]
        exact unread
      · intro lost
        rcases List.mem_cons.mp lost with here | there
        · exact lasting here.symm
        · exact connected there

/-- A process that has received the messages in one read. -/
def Process.holding (cbench : Bool) (all : List (List UInt8)) : Process :=
  ⟨{ Ani.initial cbench with
      readBuffer := Memory.ofList all.flatten Memory.zero
      readBufferLen := all.flatten.length }, .sending, []⟩

theorem Process.holding_ready (cbench : Bool) (all : List (List UInt8)) :
    (Process.holding cbench all).ani.Ready := by
  refine ⟨(Ani.initial_whole cbench).congr rfl rfl rfl rfl rfl, ?_⟩
  show (0 : Int) ≤ 0
  omega

theorem bench_returns {all : List (List UInt8)} (framed : ∀ message ∈ all, Framed message)
    (passes : ∀ message ∈ all, messageType message ≠ ofptFeaturesReply) :
    ∃ events q, SendsInformation true all (.holding true all) events q := by
  have starts : (Memory.ofList all.flatten Memory.zero).Starts all.flatten :=
    Memory.starts_ofList _ _
  let p : Process := ⟨{ (Process.holding true all).ani with readBufferp := 0 },
    .scanning all.flatten.length, []⟩
  have ready : p.ani.Ready := (Process.holding_ready true all).congr rfl rfl rfl rfl rfl rfl
  have placed : (p.ani.readBuffer.shift p.ani.readBufferp).Starts all.flatten := by
    show (Memory.shift _ 0).Starts _
    rw [Memory.shift_zero]
    exact starts
  obtain ⟨events, q, run, unread, connected, returned⟩ :=
    scanned_run framed passes ready rfl placed
  refine ⟨.internal :: events, q, rfl, rfl, starts, rfl, .cons (.scan rfl) run, ?_, ?_, returned⟩
  · rw [chunks, List.filterMap_cons]
    exact unread
  · simpa using connected

theorem normal_returns {message : List UInt8} (rest : List (List UInt8)) (framed : Framed message)
    (passes : messageType message ≠ ofptFeaturesReply) :
    ∃ events q, SendsInformation false (message :: rest) (.holding false (message :: rest)) events
      q := by
  have starts : (Memory.ofList (message :: rest).flatten Memory.zero).Starts
      (message :: rest).flatten := Memory.starts_ofList _ _
  have passable := whole_passable starts framed passes
  let s : Ani := { (Process.holding false (message :: rest)).ani with readBufferp := 0 }
  have chosen : normalHandler s = ({ s with pheader := .read 0 },
      dispatch (Memory.ofList (message :: rest).flatten Memory.zero OfpHeader.type)) :=
    normalHandler_known passable.1
  have ready : Ani.Ready { s with pheader := .read 0 } :=
    (Process.holding_ready false (message :: rest)).congr rfl rfl rfl rfl rfl rfl
  cases type : dispatch (Memory.ofList (message :: rest).flatten Memory.zero OfpHeader.type) with
  | none =>
      rw [type] at chosen
      exact ⟨_, _, rfl, rfl, starts, rfl, .single (.ignored rfl chosen), rfl, by simp, rfl⟩
  | some handler =>
      rw [type] at chosen
      have ports : handler = .featuresReply →
          featuresCount ((Memory.ofList (message :: rest).flatten Memory.zero).shift 0) ≠ 0 := by
        rintro rfl none
        exact passable.2 ⟨dispatch_eq_some_iff.mp type, featuresCount_eq_zero_iff.mp none⟩
      obtain ⟨outcome, run, fine, -⟩ := handle_calm ready ports
      exact ⟨_, _, rfl, rfl, starts, rfl, .single (.answered rfl chosen run), rfl, by simp,
        if_neg fine⟩

/-! ## The messages handed out -/

/-- The normal mode hands out what the benchmark mode does if and only if no
message behind the first one has a handler. -/
theorem modes_agree_iff {message : List UInt8} {rest : List (List UInt8)} {p q b d : Process}
    {events benchEvents : List Event} (framed : ∀ other ∈ message :: rest, Framed other)
    (normal : SendsInformation false (message :: rest) p events q)
    (bench : SendsInformation true (message :: rest) b benchEvents d) :
    (calls events).map Call.given = (calls benchEvents).map Call.given ↔
      ∀ other ∈ rest, hasHandler other = false := by
  rw [normal.normal_given (framed message List.mem_cons_self), bench.bench_given framed,
    ← handedOut_eq_nil_iff]
  have cut : handedOut ([message] ++ rest) = handedOut [message] ++ handedOut rest :=
    List.filterMap_append
  rw [List.singleton_append] at cut
  rw [cut]
  exact List.self_eq_append_right

def echoRequest (transaction : UInt8) : List UInt8 :=
  [ofpVersion, ofptEchoRequest, 0, 8, 0, 0, 0, transaction]

theorem requests_framed : ∀ other ∈ [echoRequest 1, echoRequest 2], Framed other := by decide

/-- Two requests in one buffer, in both modes. -/
theorem requests_handled :
    ∃ events q benchEvents d,
      SendsInformation false [echoRequest 1, echoRequest 2]
        (.holding false [echoRequest 1, echoRequest 2]) events q ∧
      SendsInformation true [echoRequest 1, echoRequest 2]
        (.holding true [echoRequest 1, echoRequest 2]) benchEvents d := by
  obtain ⟨events, q, normal⟩ :=
    normal_returns [echoRequest 2] (requests_framed _ List.mem_cons_self) (by decide)
  obtain ⟨benchEvents, d, bench⟩ := bench_returns requests_framed (by decide)
  exact ⟨events, q, benchEvents, d, normal, bench⟩

/-- Of two requests in one buffer the normal mode answers the first. -/
theorem normal_mode_drops :
    ¬ ∀ message rest p q b d events benchEvents, (∀ other ∈ message :: rest, Framed other) →
      SendsInformation false (message :: rest) p events q →
      SendsInformation true (message :: rest) b benchEvents d →
      (calls events).map Call.given = (calls benchEvents).map Call.given := by
  intro always
  obtain ⟨events, q, benchEvents, d, normal, bench⟩ := requests_handled
  have same := always _ _ _ _ _ _ _ _ requests_framed normal bench
  rw [normal.normal_given (requests_framed _ List.mem_cons_self),
    bench.bench_given requests_framed] at same
  exact absurd same (by decide)

theorem modes_agree_iff_two :
    ∃ events q benchEvents d,
      SendsInformation false [echoRequest 1, echoRequest 2]
        (.holding false [echoRequest 1, echoRequest 2]) events q ∧
      SendsInformation true [echoRequest 1, echoRequest 2]
        (.holding true [echoRequest 1, echoRequest 2]) benchEvents d ∧
      ((calls events).map Call.given = (calls benchEvents).map Call.given ↔
        ∀ other ∈ [echoRequest 2], hasHandler other = false) := by
  obtain ⟨events, q, benchEvents, d, normal, bench⟩ := requests_handled
  exact ⟨events, q, benchEvents, d, normal, bench,
    modes_agree_iff requests_framed normal bench⟩

end DAIM.Ani41
