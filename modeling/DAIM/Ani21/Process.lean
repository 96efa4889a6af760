import DAIM.Library.Runs
import DAIM.Ani21.Handlers
import DAIM.Ani21.NodeShare
import DAIM.Ani41.Process

/-!
# The controller process of version 2.1

The main thread of `ANIv21` beside its discovery threads, which read `sw_in`
while `action_features_reply` writes it: no mutex keeps them apart.  A call of
any other handler is one step, as the threads use nothing else that the main
thread changes.
-/

namespace DAIM.Ani21

open DAIM.Library DAIM.OpenFlow DAIM.Linked
open DAIM.Ani41 (Handler Call dispatch readBufferSize)

/-- Where `send_information` goes on when a handler has returned; in its loop
with the variables `counter` and `openflow_packet_size`. -/
inductive Caller where
  | single
  | loop (counter : Int) (size : Nat)
  deriving DecidableEq, Repr

/-- Where the main thread is; the places from `storePorts` to `addPorts` are in
`action_features_reply`. -/
inductive MainPlace where
  | reading
  | closing
  | freeHosts
  | freePorts
  | accepting
  | sending
  | scanning (counter : Int)
  | storePorts (caller : Caller)
  | createThread (caller : Caller)
  | addPorts (caller : Caller) (created : Bool)
  | exited
  deriving DecidableEq, Repr

structure Process where
  ani : Ani
  place : MainPlace
  threads : List Thread

namespace Process

def initial (cbench : Bool) : Process := ⟨Ani.initial cbench, .reading, []⟩

end Process

def checkOpenflow (ofBuffer : Nat) (s : Ani) : Ani × Int :=
  let s := { s with pheader := .read ofBuffer }
  if s.view s.pheader OfpHeader.version = ofpVersion then (s, 0) else (s, -1)

/-- The handler chosen outside of the benchmark mode. -/
def normalHandler (s : Ani) : Ani × Option Handler :=
  match checkOpenflow s.readBufferp s with
  | (s, checked) =>
      let type := s.view s.pheader OfpHeader.type
      if checked = -1 then
        (s, if type = ofptHello then some .hello else none)
      else
        (s, dispatch type)

/-- `openflow_packet_size`. -/
def packetSize (s : Ani) : Nat := (ntohs ((s.view s.pheader).load16 OfpHeader.length)).toNat

/-- `send_information` calls the handler. -/
inductive Calls : Ani → MainPlace → Ani → Caller → Handler → Prop where
  | single {s next : Ani} {handler : Handler} : s.cbench = false →
      normalHandler { s with readBufferp := 0 } = (next, some handler) →
      Calls s .sending next .single handler
  | loop {s next : Ani} {counter : Int} {handler : Handler} : counter > 0 →
      checkOpenflow s.readBufferp s = (next, 0) →
      dispatch (next.view next.pheader OfpHeader.type) = some handler →
      Calls s (.scanning counter) next (.loop counter (packetSize next)) handler

/-- The rest of `send_information` after a handler has returned. -/
def Caller.resume : Caller → Ani → Ani × MainPlace
  | .single, s => (s, .reading)
  | .loop counter size, s =>
      ({ s with readBufferp := s.readBufferp + size }, .scanning (counter - size))

/-- What becomes of the main thread after a call. -/
def Process.returned (caller : Caller) (threads : List Thread) (outcome : Outcome) : Process :=
  match caller.resume outcome.ani with
  | (s, place) => ⟨s, if outcome.result = -1 then .exited else place, threads⟩

/-- What a step of the process shows to the outside; `described` is the step
that begins to tell the threads what a features reply says. -/
inductive Event where
  | internal
  | received (chunk : List UInt8)
  | lost
  | connected (connection : Nat)
  | handled (call : Call)
  | described (info : SwitchInfo)
  | created (index : Nat)
  | shared (index : Nat) (bytes : List UInt8)

/-- The call of a handler in the state that it starts in. -/
def callOf (handler : Handler) (s : Ani) (env : Env) (outcome : Outcome) : Call :=
  ⟨handler, s.readBuffer.shift s.readBufferp, env, outcome.sent, outcome.result⟩

/-- One step of the process. -/
inductive Process.Step : Process → Event → Process → Prop where
  | received {s : Ani} {threads : List Thread} {chunk : List UInt8} :
      chunk ≠ [] → chunk.length ≤ readBufferSize →
      Step ⟨s, .reading, threads⟩ (.received chunk)
        ⟨{ s with
            readBuffer := Memory.ofList chunk Memory.zero
            readBufferLen := chunk.length }, .sending, threads⟩
  | lost {s : Ani} {threads : List Thread} {result : Int} : result < 1 →
      Step ⟨s, .reading, threads⟩ .lost
        ⟨{ s with readBuffer := Memory.zero, readBufferLen := result }, .closing, threads⟩
  | closed {s : Ani} {threads : List Thread} :
      Step ⟨s, .closing, threads⟩ .internal ⟨{ s with swSockfd := none }, .freeHosts, threads⟩
  | freeHosts {s : Ani} {threads : List Thread} {hosts : ObjectList SwitchHost} {count : Int} :
      s.hosts.freeList = some (hosts, count) →
      Step ⟨s, .freeHosts, threads⟩ .internal ⟨{ s with hosts := hosts }, .freePorts, threads⟩
  | freePorts {s : Ani} {threads : List Thread} {ports : ObjectList Ani41.SwitchPort}
      {count : Int} : s.ports.freeList = some (ports, count) →
      Step ⟨s, .freePorts, threads⟩ .internal ⟨{ s with ports := ports }, .accepting, threads⟩
  | connected {s : Ani} {threads : List Thread} {connection : Nat} :
      Step ⟨s, .accepting, threads⟩ (.connected connection)
        ⟨{ s with swSockfd := some connection }, .sending, threads⟩
  | refused {s : Ani} {threads : List Thread} :
      Step ⟨s, .accepting, threads⟩ .internal ⟨s, .exited, threads⟩
  | scan {s : Ani} {threads : List Thread} : s.cbench = true →
      Step ⟨s, .sending, threads⟩ .internal
        ⟨{ s with readBufferp := 0 }, .scanning s.readBufferLen, threads⟩
  | ignored {s next : Ani} {threads : List Thread} : s.cbench = false →
      normalHandler { s with readBufferp := 0 } = (next, none) →
      Step ⟨s, .sending, threads⟩ .internal ⟨next, .reading, threads⟩
  | scanned {s : Ani} {threads : List Thread} {counter : Int} : ¬ counter > 0 →
      Step ⟨s, .scanning counter, threads⟩ .internal ⟨s, .reading, threads⟩
  | unknown {s next : Ani} {threads : List Thread} {counter : Int} : counter > 0 →
      checkOpenflow s.readBufferp s = (next, -1) →
      Step ⟨s, .scanning counter, threads⟩ .internal ⟨next, .reading, threads⟩
  | skipped {s next : Ani} {threads : List Thread} {counter : Int} : counter > 0 →
      checkOpenflow s.readBufferp s = (next, 0) →
      dispatch (next.view next.pheader OfpHeader.type) = none →
      Step ⟨s, .scanning counter, threads⟩ .internal
        ⟨{ next with readBufferp := next.readBufferp + packetSize next },
          .scanning (counter - packetSize next), threads⟩
  | answered {s next : Ani} {place : MainPlace} {threads : List Thread} {caller : Caller}
      {handler : Handler} {env : Env} {outcome : Outcome} : Calls s place next caller handler →
      handle handler env next.readBufferp next = some outcome →
      Step ⟨s, place, threads⟩ (.handled (callOf handler next env outcome))
        (Process.returned caller threads outcome)
  -- `action_features_reply` fails when the reply has no ports
  | noPorts {s next : Ani} {place : MainPlace} {threads : List Thread} {caller : Caller}
      {env : Env} : Calls s place next caller .featuresReply →
      (countPorts next.readBufferp next).noOfPorts = 0 →
      Step ⟨s, place, threads⟩
        (.handled (callOf .featuresReply next env ⟨countPorts next.readBufferp next, [], -1⟩))
        (Process.returned caller threads ⟨countPorts next.readBufferp next, [], -1⟩)
  | described {s next : Ani} {place : MainPlace} {threads : List Thread} {caller : Caller} :
      Calls s place next caller .featuresReply →
      (countPorts next.readBufferp next).noOfPorts ≠ 0 →
      Step ⟨s, place, threads⟩
        (.described (switchInfo (next.readBuffer.shift next.readBufferp)))
        ⟨storeDatapath next.readBufferp (countPorts next.readBufferp next), .storePorts caller,
          threads⟩
  | storedPorts {s : Ani} {threads : List Thread} {caller : Caller} :
      Step ⟨s, .storePorts caller, threads⟩ .internal
        ⟨storePorts s, .createThread caller, threads⟩
  | created {s : Ani} {threads : List Thread} {caller : Caller} :
      Step ⟨s, .createThread caller, threads⟩ (.created threads.length)
        ⟨s, .addPorts caller true, threads ++ [.readPorts]⟩
  | notCreated {s : Ani} {threads : List Thread} {caller : Caller} :
      Step ⟨s, .createThread caller, threads⟩ .internal ⟨s, .addPorts caller false, threads⟩
  | configured {s : Ani} {threads : List Thread} {caller : Caller} {created : Bool} {env : Env}
      {outcome : Outcome} : env.threadCreated = created →
      configureSwitch env s.readBufferp s = some outcome →
      Step ⟨s, .addPorts caller created, threads⟩
        (.handled (callOf .featuresReply s env outcome))
        (Process.returned caller threads outcome)
  | thread {s : Ani} {place : MainPlace} {threads : List Thread} {index : Nat}
      {thread after : Thread} : threads[index]? = some thread →
      share s.swIn thread = (none, after) →
      Step ⟨s, place, threads⟩ .internal ⟨s, place, threads.set index after⟩
  | shared {s : Ani} {place : MainPlace} {threads : List Thread} {index : Nat}
      {thread after : Thread} {bytes : List UInt8} : threads[index]? = some thread →
      share s.swIn thread = (some bytes, after) →
      Step ⟨s, place, threads⟩ (.shared index bytes) ⟨s, place, threads.set index after⟩

/-- The processes that a run from the start leads to. -/
abbrev Process.Reaches (cbench : Bool) (events : List Event) (p : Process) : Prop :=
  Run Process.Step (Process.initial cbench) events p

/-! ## Running the process -/

/-- What decides the next step outside of the benchmark mode. -/
inductive Choice where
  | deliver (chunk : List UInt8)
  | call (env : Env)
  | storePorts
  | createThread (created : Bool)
  | configure (env : Env)
  | share (index : Nat)

/-- The step of the main thread that calls a handler, or begins to. -/
def Process.call (p : Process) (env : Env) : Option (Event × Process) :=
  match normalHandler { p.ani with readBufferp := 0 } with
  | (next, none) => some (.internal, ⟨next, .reading, p.threads⟩)
  | (next, some .featuresReply) =>
      let counted := countPorts next.readBufferp next
      if counted.noOfPorts = 0 then
        some (.handled (callOf .featuresReply next env ⟨counted, [], -1⟩),
          Process.returned .single p.threads ⟨counted, [], -1⟩)
      else
        some (.described (switchInfo (next.readBuffer.shift next.readBufferp)),
          ⟨storeDatapath next.readBufferp counted, .storePorts .single, p.threads⟩)
  | (next, some handler) =>
      (handle handler env next.readBufferp next).map fun outcome =>
        (.handled (callOf handler next env outcome), Process.returned .single p.threads outcome)

def Process.next (p : Process) : Choice → Option (Event × Process)
  | .deliver chunk =>
      if p.place = .reading ∧ chunk ≠ [] ∧ chunk.length ≤ readBufferSize then
        some (.received chunk,
          ⟨{ p.ani with
              readBuffer := Memory.ofList chunk Memory.zero
              readBufferLen := chunk.length }, .sending, p.threads⟩)
      else none
  | .call env => if p.place = .sending ∧ p.ani.cbench = false then p.call env else none
  | .storePorts =>
      match p.place with
      | .storePorts caller =>
          some (.internal, ⟨Ani21.storePorts p.ani, .createThread caller, p.threads⟩)
      | _ => none
  | .createThread created =>
      match p.place with
      | .createThread caller =>
          if created then
            some (.created p.threads.length,
              ⟨p.ani, .addPorts caller true, p.threads ++ [.readPorts]⟩)
          else
            some (.internal, ⟨p.ani, .addPorts caller false, p.threads⟩)
      | _ => none
  | .configure env =>
      match p.place with
      | .addPorts caller created =>
          if env.threadCreated = created then
            (configureSwitch env p.ani.readBufferp p.ani).map fun outcome =>
              (.handled (callOf .featuresReply p.ani env outcome),
                Process.returned caller p.threads outcome)
          else none
      | _ => none
  | .share index =>
      p.threads[index]?.map fun thread =>
        let (sent, after) := Ani21.share p.ani.swIn thread
        (sent.elim .internal (.shared index), ⟨p.ani, p.place, p.threads.set index after⟩)

theorem Process.call_step {s : Ani} {threads : List Thread} {q : Process} {env : Env}
    {event : Event} (normal : s.cbench = false)
    (taken : (Process.mk s .sending threads).call env = some (event, q)) :
    Process.Step ⟨s, .sending, threads⟩ event q := by
  unfold Process.call at taken
  split at taken
  · rename_i next chosen
    cases taken
    exact .ignored normal chosen
  · rename_i next chosen
    simp only at taken
    split at taken
    · rename_i none
      cases taken
      exact .noPorts (.single normal chosen) none
    · rename_i some
      cases taken
      exact .described (.single normal chosen) some
  · rename_i next handler _ chosen
    obtain ⟨outcome, handled, same⟩ := Option.map_eq_some_iff.mp taken
    cases same
    exact .answered (.single normal chosen) handled

theorem Process.next_step {p q : Process} {choice : Choice} {event : Event}
    (taken : p.next choice = some (event, q)) : Process.Step p event q := by
  obtain ⟨s, place, threads⟩ := p
  cases choice with
  | deliver chunk =>
      simp only [Process.next] at taken
      split at taken
      · rename_i ready
        obtain ⟨rfl, filled, fits⟩ := ready
        cases taken
        exact .received filled fits
      · cases taken
  | call env =>
      simp only [Process.next] at taken
      split at taken
      · rename_i ready
        obtain ⟨rfl, normal⟩ := ready
        exact Process.call_step normal taken
      · cases taken
  | storePorts =>
      cases place <;> cases taken
      exact .storedPorts
  | createThread created =>
      cases place with
      | createThread caller =>
          cases created <;> cases taken
          · exact .notCreated
          · exact .created
      | _ => cases taken
  | configure env =>
      cases place with
      | addPorts caller created =>
          simp only [Process.next] at taken
          split at taken
          · rename_i thread
            obtain ⟨outcome, configured, same⟩ := Option.map_eq_some_iff.mp taken
            cases same
            exact .configured thread configured
          · cases taken
      | _ => cases taken
  | share index =>
      obtain ⟨thread, running, same⟩ := Option.map_eq_some_iff.mp taken
      generalize shared : Ani21.share s.swIn thread = shown at same
      obtain ⟨sent, after⟩ := shown
      cases same
      cases sent with
      | none => exact .thread running shared
      | some bytes => exact .shared running shared

/-- One choice after the other. -/
def Process.play (p : Process) : List Choice → Option (List Event × Process)
  | [] => some ([], p)
  | choice :: rest =>
      match p.next choice with
      | none => none
      | some (event, middle) => (middle.play rest).map fun (events, q) => (event :: events, q)

theorem Process.play_run {p q : Process} {choices : List Choice} {events : List Event}
    (played : p.play choices = some (events, q)) : Run Process.Step p events q := by
  induction choices generalizing p events with
  | nil =>
      cases played
      exact .refl
  | cons choice rest inductionHypothesis =>
      unfold Process.play at played
      split at played
      · cases played
      · rename_i event middle first
        obtain ⟨⟨later, last⟩, run, same⟩ := Option.map_eq_some_iff.mp played
        cases same
        exact .cons (Process.next_step first) (inductionHypothesis run)

end DAIM.Ani21
