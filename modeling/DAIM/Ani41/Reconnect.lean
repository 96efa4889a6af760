import DAIM.Ani41.Framing
import DAIM.Ani41.Learning
import DAIM.Ani41.Shared

/-!
# Losing a connection and accepting the next one

What `communicate_with_switch` does between two connections: the receive buffer
is zeroed, the four tables are freed, and the next connection starts with a
look at the empty buffer.  The discovery threads are left alone.
-/

namespace DAIM.Ani41

open DAIM.Library DAIM.OpenFlow DAIM.Linked

/-! ## The history of a connection -/

/-- The events since the last connection was accepted, after one more event. -/
def Event.follow (since : List Event) : Event → List Event
  | .connected _ => []
  | event => since ++ [event]

/-- The events since the last connection was accepted. -/
def connection (events : List Event) : List Event := events.foldl Event.follow []

theorem connection_snoc (events : List Event) (event : Event) :
    connection (events ++ [event]) = event.follow (connection events) := by
  rw [connection, List.foldl_append]
  rfl

theorem connection_connected (events : List Event) (accepted : Nat) :
    connection (events ++ [.connected accepted]) = [] :=
  connection_snoc _ _

theorem connection_other {event : Event} (events : List Event)
    (other : ∀ accepted, event ≠ .connected accepted) :
    connection (events ++ [event]) = connection events ++ [event] := by
  rw [connection_snoc]
  cases event with
  | connected accepted => exact absurd rfl (other accepted)
  | _ => rfl

/-! ## The receive buffer -/

theorem Process.Step.readBuffer {p q : Process} {event : Event}
    (step : Process.Step p event q) (unread : event.chunk? = none) (lasting : event ≠ .lost) :
    q.ani.readBuffer = p.ani.readBuffer := by
  by_cases silent : ∀ call, event ≠ .handled call
  · apply (step.frame silent).2.2.2 _ lasting
    rintro chunk rfl
    cases unread
  · obtain ⟨call, handled⟩ := not_forall_not.mp silent
    subst handled
    obtain ⟨started, ofBuffer, outcome, called⟩ := step.called
    exact called.keeps.2

/-- Nothing was received since the connection was lost. -/
structure Ani.Unread (s : Ani) : Prop where
  buffer : s.readBuffer = Memory.zero
  length : s.readBufferLen < 1

theorem Process.Step.unread {p q : Process} {event : Event} (step : Process.Step p event q)
    (unread : ¬ p.place.Online → p.ani.Unread) :
    (¬ q.place.Online → q.ani.Unread) ∧
      ∀ accepted, event = .connected accepted → q.ani.Unread := by
  cases step with
  | lost short => exact ⟨fun _ => ⟨rfl, short⟩, nofun⟩
  | closed => exact ⟨fun _ => ⟨(unread id).buffer, (unread id).length⟩, nofun⟩
  | freeHosts _ => exact ⟨fun _ => ⟨(unread id).buffer, (unread id).length⟩, nofun⟩
  | freePorts _ => exact ⟨fun _ => ⟨(unread id).buffer, (unread id).length⟩, nofun⟩
  | freeLinks _ => exact ⟨fun _ => ⟨(unread id).buffer, (unread id).length⟩, nofun⟩
  | freeReplys _ => exact ⟨fun _ => ⟨(unread id).buffer, (unread id).length⟩, nofun⟩
  | connected => exact ⟨fun _ => ⟨(unread id).buffer, (unread id).length⟩,
      fun _ _ => ⟨(unread id).buffer, (unread id).length⟩⟩
  | answered _ _ _ =>
      refine ⟨fun offline => absurd ?_ offline, nofun⟩
      unfold afterCall
      split <;> trivial
  | scanAnswered _ _ _ _ =>
      refine ⟨fun offline => absurd ?_ offline, nofun⟩
      unfold afterCall
      split <;> trivial
  | thread _ share =>
      refine ⟨fun offline => ?_, nofun⟩
      have before := unread offline
      rw [share.frame]
      exact ⟨before.buffer, before.length⟩
  | shared _ share =>
      refine ⟨fun offline => ?_, nofun⟩
      have before := unread offline
      rw [share.frame]
      exact ⟨before.buffer, before.length⟩
  | _ => exact ⟨fun offline => absurd trivial offline, nofun⟩

theorem Process.Reaches.unread {cbench : Bool} {events : List Event} {p : Process}
    (run : Process.Reaches cbench events p) : ¬ p.place.Online → p.ani.Unread := by
  apply Run.invariant (fun _ p => ¬ p.place.Online → p.ani.Unread) _ _ run
  · exact fun offline => absurd trivial offline
  · exact fun _ _ _ _ _ unread step => (step.unread unread).1

/-- Where a connection begins: at the start of the process, or in front of the
empty buffer. -/
theorem Process.Reaches.begins {cbench : Bool} {events : List Event} {p : Process}
    (run : Process.Reaches cbench events p) (connected : Connected events) :
    events = [] ∧ p = Process.initial cbench ∨ events ≠ [] ∧ p.place = .sending ∧ p.ani.Unread := by
  rcases connected with rfl | ⟨earlier, accepted, rfl⟩
  · generalize none : ([] : List Event) = events at run
    cases run with
    | refl => exact .inl ⟨rfl, rfl⟩
    | snoc _ _ => simp at none
  · obtain ⟨last, before, step⟩ := run.snoc_inv
    have unread := (step.unread (Process.Reaches.unread before)).2 accepted rfl
    cases step with
    | connected => exact .inr ⟨by simp, rfl, unread⟩

/-- The buffer is empty, or it holds the last chunk of the connection. -/
theorem Process.Reaches.buffered {cbench : Bool} {events : List Event} {p : Process}
    (run : Process.Reaches cbench events p) :
    p.ani.readBuffer = Memory.zero ∨ ∃ chunk, .received chunk ∈ connection events ∧
      p.ani.readBuffer = Memory.ofList chunk Memory.zero := by
  induction run with
  | refl => exact .inl rfl
  | @snoc events middle finish event earlier step inductionHypothesis =>
      obtain ⟨tables, shows, -⟩ := Process.Reaches.tables earlier
      cases event with
      | received chunk =>
          refine .inr ⟨chunk, ?_, ?_⟩
          · rw [connection_other _ (by simp)]
            exact List.mem_append_right _ List.mem_cons_self
          · cases step
            rfl
      | lost =>
          cases step
          exact .inl rfl
      | connected accepted =>
          exact .inl ((step.unread (Process.Reaches.unread earlier)).2 accepted rfl).buffer
      | _ =>
          rw [step.readBuffer rfl (by simp), connection_other _ (by simp)]
          rcases inductionHypothesis with empty | ⟨chunk, member, held⟩
          · exact .inl empty
          · exact .inr ⟨chunk, List.mem_append_left _ member, held⟩

/-! ## From one connection to the next -/

/-- The globals of the next connection, with the four tables as they were freed. -/
structure Reconnected (p : Process) (accepted : Nat) (q : Process) : Prop where
  place : q.place = .sending
  threads : q.threads = p.threads
  hosts : ∃ count, p.ani.hosts.freeList = some (q.ani.hosts, count)
  ports : ∃ count, p.ani.ports.freeList = some (q.ani.ports, count)
  links : ∃ count, p.ani.links.freeList = some (q.ani.links, count)
  swReplys : ∃ count, p.ani.swReplys.freeList = some (q.ani.swReplys, count)
  ani : q.ani = { p.ani with
    readBuffer := Memory.zero
    readBufferLen := 0
    swSockfd := some accepted
    hosts := q.ani.hosts
    ports := q.ani.ports
    links := q.ani.links
    swReplys := q.ani.swReplys }

/-- The events of a reconnection that no discovery thread interrupts. -/
def reconnection (accepted : Nat) : List Event :=
  [.lost, .internal, .internal, .internal, .internal, .internal, .connected accepted]

/-- From the next read on, what becomes of a process that loses its connection. -/
def Process.reconnected (p : Process) (accepted : Nat) : Option Process :=
  if p.place = .reading then do
    let (hosts, _) ← p.ani.hosts.freeList
    let (ports, _) ← p.ani.ports.freeList
    let (links, _) ← p.ani.links.freeList
    let (swReplys, _) ← p.ani.swReplys.freeList
    some
      { p with
        ani := { p.ani with
          readBuffer := Memory.zero
          readBufferLen := 0
          swSockfd := some accepted
          hosts := hosts
          ports := ports
          links := links
          swReplys := swReplys }
        place := .sending }
  else
    none

theorem Process.reconnected_spec {p q : Process} {accepted : Nat}
    (reconnected : p.reconnected accepted = some q) :
    Run Process.Step p (reconnection accepted) q ∧ Reconnected p accepted q := by
  obtain ⟨s, place, threads⟩ := p
  unfold Process.reconnected at reconnected
  split at reconnected
  · rename_i reading
    obtain ⟨⟨hosts, hostCount⟩, hostsFreed, reconnected⟩ := Option.bind_eq_some_iff.mp reconnected
    obtain ⟨⟨ports, portCount⟩, portsFreed, reconnected⟩ := Option.bind_eq_some_iff.mp reconnected
    obtain ⟨⟨links, linkCount⟩, linksFreed, reconnected⟩ := Option.bind_eq_some_iff.mp reconnected
    obtain ⟨⟨replys, replyCount⟩, replysFreed, reconnected⟩ :=
      Option.bind_eq_some_iff.mp reconnected
    simp only at reading
    subst reading
    cases reconnected
    constructor
    · exact .cons (.lost (show (0 : Int) < 1 by decide)) (.cons .closed
        (.cons (.freeHosts hostsFreed) (.cons (.freePorts portsFreed)
        (.cons (.freeLinks linksFreed) (.cons (.freeReplys replysFreed) (.single .connected))))))
    · exact ⟨rfl, rfl, ⟨_, hostsFreed⟩, ⟨_, portsFreed⟩, ⟨_, linksFreed⟩, ⟨_, replysFreed⟩, rfl⟩
  · cases reconnected

/-- Whenever the main thread waits for a message the connection can be lost. -/
theorem Process.reconnected_isSome {p : Process} {tables : Tables} (shows : p.ani.Shows tables)
    (reading : p.place = .reading) (accepted : Nat) : (p.reconnected accepted).isSome := by
  obtain ⟨hosts, hostCount, hostsFreed, -⟩ := shows.hosts.freeList
  obtain ⟨ports, portsCount, portsFreed, -⟩ := shows.ports.freeList
  obtain ⟨links, linksCount, linksFreed, -⟩ := shows.links.freeList
  obtain ⟨replys, replysCount, replysFreed, -⟩ := shows.swReplys.freeList
  rw [Process.reconnected, if_pos reading]
  simp [hostsFreed, portsFreed, linksFreed, replysFreed]

/-! ## Running the whole process -/

/-- Outside of the benchmark mode, what becomes of a process in front of a
buffer that some handler answers. -/
def Process.answer (p : Process) (env : Env) : Option (Call × Process) :=
  if p.place = .sending ∧ p.ani.cbench = false then
    match normalHandler { p.ani with readBufferp := 0 } with
    | (_, none) => none
    | (next, some handler) =>
        match handle handler env next.readBufferp next with
        | none => none
        | some outcome =>
            some (.of handler next.readBufferp next env outcome,
              ⟨outcome.ani, afterCall outcome.result .reading, spawn p.threads outcome.spawned⟩)
  else
    none

/-- What may happen next. -/
inductive Move where
  | deliver (chunk : List UInt8)
  | share (index : Nat)
  | reconnect (accepted : Nat)
  | answer

/-- All system calls of a move succeed. -/
def Process.move (p : Process) : Move → Option (List Event × Process)
  | .deliver chunk => (p.deliver chunk .calm).map fun (call, q) =>
      ([.received chunk, .handled call], q)
  | .share index => (p.share index).map fun (sent, q) => ([sent.elim .internal (.shared index)], q)
  | .reconnect accepted => (p.reconnected accepted).map fun q => (reconnection accepted, q)
  | .answer => (p.answer .calm).map fun (call, q) => ([.handled call], q)

def Process.play (p : Process) : List Move → Option (List Event × Process)
  | [] => some ([], p)
  | move :: rest => do
      let (events, middle) ← p.move move
      let (more, q) ← middle.play rest
      some (events ++ more, q)

theorem Process.answer_step {p q : Process} {env : Env} {call : Call}
    (answered : p.answer env = some (call, q)) : Process.Step p (.handled call) q := by
  obtain ⟨s, place, threads⟩ := p
  unfold Process.answer at answered
  split at answered
  · rename_i ready
    obtain ⟨sending, normal⟩ := ready
    simp only at sending
    subst sending
    split at answered
    · cases answered
    · rename_i chosen
      split at answered
      · cases answered
      · rename_i run
        cases answered
        exact .answered normal chosen run
  · cases answered

theorem Process.move_run {p q : Process} {move : Move} {events : List Event}
    (moved : p.move move = some (events, q)) : Run Process.Step p events q := by
  cases move with
  | deliver chunk =>
      obtain ⟨⟨call, next⟩, delivered, same⟩ := Option.map_eq_some_iff.mp moved
      cases same
      exact Process.deliver_run delivered
  | share index =>
      obtain ⟨⟨sent, next⟩, shared, same⟩ := Option.map_eq_some_iff.mp moved
      cases same
      exact .single (Process.share_step shared)
  | reconnect accepted =>
      obtain ⟨next, reconnected, same⟩ := Option.map_eq_some_iff.mp moved
      cases same
      exact (Process.reconnected_spec reconnected).1
  | answer =>
      obtain ⟨⟨call, next⟩, answered, same⟩ := Option.map_eq_some_iff.mp moved
      cases same
      exact .single (Process.answer_step answered)

theorem Process.play_run {p q : Process} {moves : List Move} {events : List Event}
    (played : p.play moves = some (events, q)) : Run Process.Step p events q := by
  induction moves generalizing p events with
  | nil =>
      cases played
      exact .refl
  | cons move rest inductionHypothesis =>
      obtain ⟨⟨first, middle⟩, moved, played⟩ := Option.bind_eq_some_iff.mp played
      obtain ⟨⟨more, last⟩, run, same⟩ := Option.bind_eq_some_iff.mp played
      cases same
      exact (Process.move_run moved).trans (inductionHypothesis run)

/-- The move keeps the connection. -/
def Move.Stays : Move → Prop
  | .reconnect _ => False
  | _ => True

theorem Process.answer_env {p q : Process} {env : Env} {call : Call}
    (answered : p.answer env = some (call, q)) : call.env = env := by
  unfold Process.answer at answered
  split at answered
  · split at answered
    · cases answered
    · split at answered
      · cases answered
      · cases answered
        rfl
  · cases answered

theorem Process.move_events {p q : Process} {move : Move} {events : List Event}
    (moved : p.move move = some (events, q)) :
    (∀ call, Event.handled call ∈ events → call.env = .calm) ∧
      (move.Stays → Event.lost ∉ events) := by
  cases move with
  | deliver chunk =>
      obtain ⟨⟨call, next⟩, delivered, same⟩ := Option.map_eq_some_iff.mp moved
      cases same
      refine ⟨fun other member => ?_, fun _ => by simp⟩
      simp only [List.mem_cons, reduceCtorEq, false_or, Event.handled.injEq, List.not_mem_nil,
        or_false] at member
      exact member ▸ Process.deliver_env delivered
  | share index =>
      obtain ⟨⟨sent, next⟩, shared, same⟩ := Option.map_eq_some_iff.mp moved
      cases same
      cases sent <;> simp
  | reconnect accepted =>
      obtain ⟨next, reconnected, same⟩ := Option.map_eq_some_iff.mp moved
      cases same
      exact ⟨by simp [reconnection], False.elim⟩
  | answer =>
      obtain ⟨⟨call, next⟩, answered, same⟩ := Option.map_eq_some_iff.mp moved
      cases same
      refine ⟨fun other member => ?_, fun _ => by simp⟩
      cases List.mem_singleton.mp member
      exact Process.answer_env answered

theorem Process.play_events {p q : Process} {moves : List Move} {events : List Event}
    (played : p.play moves = some (events, q)) :
    (∀ call, Event.handled call ∈ events → call.env = .calm) ∧
      ((∀ move ∈ moves, move.Stays) → Event.lost ∉ events) := by
  induction moves generalizing p events with
  | nil =>
      cases played
      simp
  | cons move rest inductionHypothesis =>
      obtain ⟨⟨first, middle⟩, moved, played⟩ := Option.bind_eq_some_iff.mp played
      obtain ⟨⟨more, last⟩, run, same⟩ := Option.bind_eq_some_iff.mp played
      cases same
      obtain ⟨calm, stays⟩ := Process.move_events moved
      obtain ⟨calmLater, staysLater⟩ := inductionHypothesis run
      constructor
      · intro call member
        rcases List.mem_append.mp member with here | later
        · exact calm call here
        · exact calmLater call later
      · intro all lost
        rcases List.mem_append.mp lost with here | later
        · exact stays (all move List.mem_cons_self) here
        · exact staysLater (fun other member => all other (List.mem_cons_of_mem _ member)) later

/-- A played run that keeps its first connection. -/
theorem Session.played {cbench : Bool} {moves : List Move} {events : List Event} {p : Process}
    (played : (Process.initial cbench).play moves = some (events, p))
    (stays : ∀ move ∈ moves, move.Stays) : Session cbench [] events p :=
  ⟨⟨_, .refl, Process.play_run played⟩, .inl rfl, (Process.play_events played).2 stays⟩

/-- What a played run shows is what is computed of it. -/
theorem Process.play_eq {Value : Type} {cbench : Bool} {moves : List Move} {value : Value}
    (summary : List Event × Process → Value)
    (computed : ((Process.initial cbench).play moves).map summary = some value) :
    ∃ events p, Process.Reaches cbench events p ∧ summary (events, p) = value := by
  obtain ⟨⟨events, p⟩, played, same⟩ := Option.map_eq_some_iff.mp computed
  exact ⟨events, p, Process.play_run played, same⟩

/-- A features reply that names ports by their numbers. -/
def featuresMessage (datapathId : UInt64) (ports : List UInt16) : List UInt8 :=
  List.flatten
    [[ofpVersion, ofptFeaturesReply],
      network 2 (OfpSwitchFeatures.size + OfpPhyPort.size * ports.length), network 4 1,
      network 8 datapathId.toNat, List.replicate 16 0,
      ports.flatMap fun port => network 2 port.toNat ++ List.replicate 46 0]

/-- The report of a discovery frame that came in on a port. -/
def discoveryPacketIn (inPort : UInt16) (message : DiscoveryMessage) : List UInt8 :=
  PacketInMessage.encode
    { xid := 7, bufferId := 258, totalLen := UInt16.ofNat (discoveryFrame message).length,
      inPort := inPort, reason := 0, data := discoveryFrame message }

end DAIM.Ani41
