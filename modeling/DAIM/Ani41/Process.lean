import DAIM.Library.Runs
import DAIM.Ani41.Handlers
import DAIM.Ani41.NodeShare

/-!
# The controller process

The main thread (`main`, `communicate_with_switch`, `read_from_switch`,
`send_information`) beside its discovery threads.  A call of a handler is one
step: the globals that it shares with the discovery threads are only used
while it holds `links_mutex`.
-/

namespace DAIM.Ani41

open DAIM.Library DAIM.OpenFlow DAIM.Linked

/-- `sizeof (read_buffer)`. -/
def readBufferSize : Nat := 3072000

/-- Where the main thread is.  The last reads of `scanning` are those of the
loop of `send_information` with its variable `counter`. -/
inductive MainPlace where
  | reading
  | closing
  | freeHosts
  | freePorts
  | freeLinks
  | freeReplys
  | accepting
  | sending
  | scanning (counter : Int)
  | exited
  deriving DecidableEq, Repr

structure Process where
  ani : Ani
  place : MainPlace
  threads : List Thread

namespace Process

def initial (cbench : Bool) : Process := ⟨Ani.initial cbench, .reading, []⟩

end Process

/-- The handler of each message type that has one. -/
def dispatch (type : UInt8) : Option Handler :=
  if type = ofptHello then some .hello
  else if type = ofptFeaturesReply then some .featuresReply
  else if type = ofptPacketIn then some .packout
  else if type = ofptEchoRequest then some .echo
  else none

/-- The type of the messages that a handler is for. -/
def Handler.type : Handler → UInt8
  | .hello => ofptHello
  | .featuresReply => ofptFeaturesReply
  | .packout => ofptPacketIn
  | .echo => ofptEchoRequest

theorem dispatch_eq_some_iff {type : UInt8} {handler : Handler} :
    dispatch type = some handler ↔ type = handler.type := by
  constructor
  · intro chosen
    unfold dispatch at chosen
    split at chosen
    · rename_i hello
      cases chosen
      exact hello
    · split at chosen
      · rename_i featuresReply
        cases chosen
        exact featuresReply
      · split at chosen
        · rename_i packetIn
          cases chosen
          exact packetIn
        · split at chosen
          · rename_i echoRequest
            cases chosen
            exact echoRequest
          · cases chosen
  · rintro rfl
    cases handler <;> rfl

def checkOpenflow (ofBuffer : Nat) (s : Ani) : Ani × Int :=
  let s := { s with pheader := .read ofBuffer }
  if s.view s.pheader OfpHeader.version = ofpVersion then (s, 0) else (s, -1)

/-- The handler chosen outside of the benchmark mode: a `HELLO` is answered
whatever its version. -/
def normalHandler (s : Ani) : Ani × Option Handler :=
  match checkOpenflow s.readBufferp s with
  | (s, checked) =>
      let type := s.view s.pheader OfpHeader.type
      if checked = -1 then
        (s, if type = ofptHello then some .hello else none)
      else
        (s, dispatch type)

/-- A call of a handler: the message it is given, the outcomes of its system
calls, and what it did. -/
structure Call where
  handler : Handler
  message : Memory
  env : Env
  sent : List (List UInt8)
  result : Int

/-- What a step of the process shows to the outside. -/
inductive Event where
  | internal
  | received (chunk : List UInt8)
  | lost
  | connected (connection : Nat)
  | handled (call : Call)
  | shared (index : Nat) (bytes : List UInt8)

def Call.of (handler : Handler) (ofBuffer : Nat) (s : Ani) (env : Env) (outcome : Outcome) :
    Call :=
  ⟨handler, s.readBuffer.shift ofBuffer, env, outcome.sent, outcome.result⟩

/-- The threads after a call. -/
def spawn (threads : List Thread) (spawned : Bool) : List Thread :=
  if spawned then threads ++ [.initial] else threads

/-- Where `main` goes on after a call, unless the call makes it exit. -/
def afterCall (result : Int) (place : MainPlace) : MainPlace :=
  if result = -1 then .exited else place

/-- One step of the process. -/
inductive Process.Step : Process → Event → Process → Prop where
  | received {s : Ani} {threads : List Thread} {chunk : List UInt8} :
      chunk ≠ [] → chunk.length ≤ readBufferSize →
      Step ⟨s, .reading, threads⟩ (.received chunk)
        ⟨{ s with
            readBuffer := Memory.ofList chunk Memory.zero
            readBufferLen := chunk.length }, .sending, threads⟩
  | lost {s : Ani} {threads : List Thread} {result : Int} : result < 1 →
      Step ⟨s, .reading, threads⟩ .lost
        ⟨{ s with readBuffer := Memory.zero, readBufferLen := result }, .closing, threads⟩
  | closed {s : Ani} {threads : List Thread} :
      Step ⟨s, .closing, threads⟩ .internal ⟨{ s with swSockfd := none }, .freeHosts, threads⟩
  | freeHosts {s : Ani} {threads : List Thread} {hosts : ObjectList SwitchHost} {count : Int} :
      s.hosts.freeList = some (hosts, count) →
      Step ⟨s, .freeHosts, threads⟩ .internal ⟨{ s with hosts := hosts }, .freePorts, threads⟩
  | freePorts {s : Ani} {threads : List Thread} {ports : ObjectList SwitchPort} {count : Int} :
      s.ports.freeList = some (ports, count) →
      Step ⟨s, .freePorts, threads⟩ .internal ⟨{ s with ports := ports }, .freeLinks, threads⟩
  | freeLinks {s : Ani} {threads : List Thread} {links : ObjectList SwitchLink} {count : Int} :
      s.links.freeList = some (links, count) →
      Step ⟨s, .freeLinks, threads⟩ .internal ⟨{ s with links := links }, .freeReplys, threads⟩
  | freeReplys {s : Ani} {threads : List Thread} {replys : ObjectList SwitchReply}
      {count : Int} : s.swReplys.freeList = some (replys, count) →
      Step ⟨s, .freeReplys, threads⟩ .internal
        ⟨{ s with swReplys := replys }, .accepting, threads⟩
  | connected {s : Ani} {threads : List Thread} {connection : Nat} :
      Step ⟨s, .accepting, threads⟩ (.connected connection)
        ⟨{ s with swSockfd := some connection }, .sending, threads⟩
  | refused {s : Ani} {threads : List Thread} :
      Step ⟨s, .accepting, threads⟩ .internal ⟨s, .exited, threads⟩
  | scan {s : Ani} {threads : List Thread} : s.cbench = true →
      Step ⟨s, .sending, threads⟩ .internal
        ⟨{ s with readBufferp := 0 }, .scanning s.readBufferLen, threads⟩
  | ignored {s next : Ani} {threads : List Thread} : s.cbench = false →
      normalHandler { s with readBufferp := 0 } = (next, none) →
      Step ⟨s, .sending, threads⟩ .internal ⟨next, .reading, threads⟩
  | answered {s next : Ani} {threads : List Thread} {handler : Handler} {env : Env}
      {outcome : Outcome} : s.cbench = false →
      normalHandler { s with readBufferp := 0 } = (next, some handler) →
      handle handler env next.readBufferp next = some outcome →
      Step ⟨s, .sending, threads⟩ (.handled (.of handler next.readBufferp next env outcome))
        ⟨outcome.ani, afterCall outcome.result .reading, spawn threads outcome.spawned⟩
  | scanned {s : Ani} {threads : List Thread} {counter : Int} : ¬ counter > 0 →
      Step ⟨s, .scanning counter, threads⟩ .internal ⟨s, .reading, threads⟩
  | unknown {s next : Ani} {threads : List Thread} {counter : Int} : counter > 0 →
      checkOpenflow s.readBufferp s = (next, -1) →
      Step ⟨s, .scanning counter, threads⟩ .internal ⟨next, .reading, threads⟩
  | skipped {s next : Ani} {threads : List Thread} {counter : Int} : counter > 0 →
      checkOpenflow s.readBufferp s = (next, 0) →
      dispatch (next.view next.pheader OfpHeader.type) = none →
      Step ⟨s, .scanning counter, threads⟩ .internal
        ⟨{ next with
            readBufferp := next.readBufferp +
              (ntohs ((next.view next.pheader).load16 OfpHeader.length)).toNat },
          .scanning (counter - (ntohs ((next.view next.pheader).load16 OfpHeader.length)).toNat),
          threads⟩
  | scanAnswered {s next : Ani} {threads : List Thread} {counter : Int} {handler : Handler}
      {env : Env} {outcome : Outcome} : counter > 0 →
      checkOpenflow s.readBufferp s = (next, 0) →
      dispatch (next.view next.pheader OfpHeader.type) = some handler →
      handle handler env next.readBufferp next = some outcome →
      Step ⟨s, .scanning counter, threads⟩
        (.handled (.of handler next.readBufferp next env outcome))
        ⟨{ outcome.ani with
            readBufferp := outcome.ani.readBufferp +
              (ntohs ((next.view next.pheader).load16 OfpHeader.length)).toNat },
          afterCall outcome.result (.scanning
            (counter - (ntohs ((next.view next.pheader).load16 OfpHeader.length)).toNat)),
          spawn threads outcome.spawned⟩
  | thread {s next : Ani} {place : MainPlace} {threads : List Thread} {index : Nat}
      {thread after : Thread} : threads[index]? = some thread →
      ShareStep index s thread none next after →
      Step ⟨s, place, threads⟩ .internal ⟨next, place, threads.set index after⟩
  | shared {s next : Ani} {place : MainPlace} {threads : List Thread} {index : Nat}
      {thread after : Thread} {bytes : List UInt8} : threads[index]? = some thread →
      ShareStep index s thread (some bytes) next after →
      Step ⟨s, place, threads⟩ (.shared index bytes) ⟨next, place, threads.set index after⟩

/-! ## Running the main thread -/

/-- Outside of the benchmark mode, what becomes of a process that receives a
chunk which some handler answers. -/
def Process.deliver (p : Process) (chunk : List UInt8) (env : Env) : Option (Call × Process) :=
  if p.place = .reading ∧ p.ani.cbench = false ∧ chunk ≠ [] ∧ chunk.length ≤ readBufferSize then
    match normalHandler { p.ani with
        readBuffer := Memory.ofList chunk Memory.zero
        readBufferLen := chunk.length
        readBufferp := 0 } with
    | (_, none) => none
    | (next, some handler) =>
        match handle handler env next.readBufferp next with
        | none => none
        | some outcome =>
            some (.of handler next.readBufferp next env outcome,
              ⟨outcome.ani, afterCall outcome.result .reading, spawn p.threads outcome.spawned⟩)
  else
    none

/-- The next step of a discovery thread, and what it sends. -/
def Process.share (p : Process) (index : Nat) : Option (Option (List UInt8) × Process) :=
  match p.threads[index]? with
  | none => none
  | some thread =>
      (Ani41.share index p.ani thread).map fun (sent, next, after) =>
        (sent, ⟨next, p.place, p.threads.set index after⟩)

/-- Delivering chunks one after the other. -/
def Process.deliverAll (p : Process) : List (List UInt8 × Env) → Option (List Event × Process)
  | [] => some ([], p)
  | (chunk, env) :: rest =>
      match p.deliver chunk env with
      | none => none
      | some (call, middle) =>
          (middle.deliverAll rest).map fun (events, q) =>
            (.received chunk :: .handled call :: events, q)

theorem Process.deliver_run {p q : Process} {chunk : List UInt8} {env : Env} {call : Call}
    (delivered : p.deliver chunk env = some (call, q)) :
    Run Process.Step p [.received chunk, .handled call] q := by
  obtain ⟨s, place, threads⟩ := p
  unfold Process.deliver at delivered
  split at delivered
  · rename_i ready
    obtain ⟨reading, normal, some, fits⟩ := ready
    simp only at reading
    subst reading
    split at delivered
    · cases delivered
    · rename_i chosen
      split at delivered
      · cases delivered
      · rename_i run
        cases delivered
        exact .cons (.received some fits) (.single (.answered normal chosen run))
  · cases delivered

theorem Process.share_step {p q : Process} {index : Nat} {sent : Option (List UInt8)}
    (shared : p.share index = some (sent, q)) :
    Process.Step p (sent.elim .internal (.shared index)) q := by
  obtain ⟨s, place, threads⟩ := p
  unfold Process.share at shared
  split at shared
  · cases shared
  · rename_i thread running
    obtain ⟨⟨bytes, next, after⟩, taken, same⟩ := Option.map_eq_some_iff.mp shared
    cases same
    have step := share_eq_some_iff.mp taken
    cases sent with
    | none => exact .thread running step
    | some bytes => exact .shared running step

/-- The first input is delivered before the others. -/
theorem Process.deliverAll_cons {p q : Process} {input : List UInt8 × Env}
    {rest : List (List UInt8 × Env)} {events : List Event}
    (delivered : p.deliverAll (input :: rest) = some (events, q)) :
    ∃ call middle later, p.deliver input.1 input.2 = some (call, middle) ∧
      middle.deliverAll rest = some (later, q) ∧
      events = .received input.1 :: .handled call :: later := by
  obtain ⟨chunk, env⟩ := input
  unfold Process.deliverAll at delivered
  split at delivered
  · cases delivered
  · rename_i call middle first
    obtain ⟨⟨later, last⟩, run, same⟩ := Option.map_eq_some_iff.mp delivered
    cases same
    exact ⟨call, middle, later, first, run, rfl⟩

theorem Process.deliverAll_run {p q : Process} {inputs : List (List UInt8 × Env)}
    {events : List Event} (delivered : p.deliverAll inputs = some (events, q)) :
    Run Process.Step p events q := by
  induction inputs generalizing p events with
  | nil =>
      cases delivered
      exact .refl
  | cons input rest inductionHypothesis =>
      obtain ⟨call, middle, later, first, run, rfl⟩ := Process.deliverAll_cons delivered
      exact (Process.deliver_run first).trans (inductionHypothesis run)

theorem Process.deliver_env {p q : Process} {chunk : List UInt8} {env : Env} {call : Call}
    (delivered : p.deliver chunk env = some (call, q)) : call.env = env := by
  unfold Process.deliver at delivered
  split at delivered
  · split at delivered
    · cases delivered
    · split at delivered
      · cases delivered
      · cases delivered
        rfl
  · cases delivered

/-- Deliveries lose no connection, and call the handlers in the given environments. -/
theorem Process.deliverAll_events {p q : Process} {inputs : List (List UInt8 × Env)}
    {events : List Event} (delivered : p.deliverAll inputs = some (events, q)) :
    Event.lost ∉ events ∧
      ∀ call, Event.handled call ∈ events → ∃ chunk, (chunk, call.env) ∈ inputs := by
  induction inputs generalizing p events with
  | nil =>
      cases delivered
      exact ⟨List.not_mem_nil, fun _ impossible => absurd impossible List.not_mem_nil⟩
  | cons input rest inductionHypothesis =>
      obtain ⟨call, middle, later, first, run, rfl⟩ := Process.deliverAll_cons delivered
      obtain ⟨lasts, environments⟩ := inductionHypothesis run
      have given := Process.deliver_env first
      constructor
      · simp [lasts]
      · intro other member
        simp only [List.mem_cons, reduceCtorEq, false_or, Event.handled.injEq] at member
        rcases member with rfl | afterwards
        · exact ⟨input.1, given ▸ List.mem_cons_self⟩
        · obtain ⟨chunk, found⟩ := environments other afterwards
          exact ⟨chunk, List.mem_cons_of_mem _ found⟩

end DAIM.Ani41
