import DAIM.Network.Basic

/-!
# The controllers of a network

Each controller of a network is a process of version 4 with a history of its
own, and what its handlers are called with are messages of its switch.
-/

namespace DAIM.Network

open DAIM.Library DAIM.OpenFlow DAIM.Linked DAIM.Hosts DAIM.Ani41

/-! ## Controllers of version 4 -/

/-- The events of a process that neither read from nor write to its switch. -/
def Quiet : Event → Prop
  | .internal | .lost | .connected _ => True
  | _ => False

/-- What a process reads from its switch, and writes to it. -/
inductive Exchanges (messages : List Message) : Event → List Sent → Prop where
  -- a chunk is made of whole messages of the switch
  | received {chunk : List UInt8} {group : List Message} :
      (∀ message ∈ group, message ∈ messages) → chunk = (group.map Message.bytes).flatten →
      Exchanges messages (.received chunk) []
  | handled {call : Call} {message : Message} : message ∈ messages → Takes call message.bytes →
      Exchanges messages (.handled call) (call.sent.map fun bytes => ⟨bytes, message.about⟩)
  | shared {index : Nat} {bytes : List UInt8} :
      Exchanges messages (.shared index bytes) [⟨bytes, none⟩]
  | quiet {event : Event} : Quiet event → Exchanges messages event []

instance : Controller Process Event where
  initial := Process.initial
  Step := Process.Step
  Exchanges := Exchanges

variable {Switch : Type*}

/-- The hosts table of the controller of a switch. -/
def Net.hosts (net : Net Switch Process) (s : Switch) : List SwitchHost :=
  (net.controllers s).ani.hosts.contents

def Net.links (net : Net Switch Process) (s : Switch) : List SwitchLink :=
  (net.controllers s).ani.links.contents

def Net.swReplys (net : Net Switch Process) (s : Switch) : List SwitchReply :=
  (net.controllers s).ani.swReplys.contents

/-- No controller loses its connection. -/
def Lasting (labels : List (Label Switch Event)) : Prop :=
  ∀ s, Label.controller s .lost ∉ labels

/-! ## Histories -/

variable [DecidableEq Switch] {topology : Topology Switch}
variable {cbench : Switch → Bool} {labels : List (Label Switch Event)}
variable {net next : Net Switch Process} {label : Label Switch Event}

/-- What a step of the network is for one of its controllers: a step of its
process, or none. -/
theorem Step.controller_cases (step : Step topology net label next) (s : Switch) :
    (next.controllers s = net.controllers s ∧ ∀ event, label ≠ .controller s event) ∨
      ∃ event, label = .controller s event ∧
        Process.Step (net.controllers s) event (next.controllers s) ∧
        ∀ call, event = .handled call → ∃ message ∈ net.inbox s, Takes call message.bytes := by
  rcases step.process_cases s with apart | ⟨event, sent, isEvent, taken, exchanges⟩
  · exact .inl apart
  · refine .inr ⟨event, isEvent, taken, ?_⟩
    rintro call rfl
    cases exchanges with
    | handled told takes => exact ⟨_, told, takes⟩
    | quiet quiet => cases quiet

theorem lost_of_events {s : Switch} (lost : Event.lost ∈ events s labels) :
    Label.controller s .lost ∈ labels := by
  obtain ⟨label, member, isLost⟩ := List.mem_filterMap.mp lost
  cases label with
  | controller t event =>
      have here : (if t = s then some event else none) = some Event.lost := isLost
      split at here
      · rename_i same
        cases here
        exact same ▸ member
      · cases here
  | _ => cases isLost

/-- While no connection is lost, the run of a controller is one session. -/
theorem Reaches.session (run : Reaches topology cbench labels net) (lasting : Lasting labels)
    (s : Switch) : Session (cbench s) [] (events s labels) (net.controllers s) where
  run := ⟨_, .refl, Reaches.process run s⟩
  connected := .inl rfl
  lasts := fun lost => lasting s (lost_of_events lost)

theorem Reaches.tables (run : Reaches topology cbench labels net) (s : Switch) :
    ∃ tables, (net.controllers s).ani.Shows tables ∧
      (tables.hosts.map SwitchHost.macAddr).Nodup :=
  Process.Reaches.tables (Reaches.process run s)

/-! ## What the handlers are called with -/

/-- What remains of the current chunk are messages of the switch. -/
structure Fed (messages : List Message) (p : Process) (todo : List (List UInt8)) : Prop where
  told : ∀ bytes ∈ todo, ∃ message ∈ messages, message.bytes = bytes
  faces : p.Faces todo
  normal : p.ani.cbench = false →
    (p.place = .sending → todo ≠ []) ∧ ∀ counter, p.place ≠ .scanning counter

theorem Fed.idle {messages : List Message} {p : Process}
    (done : p.place = .reading ∨ p.place = .exited) : Fed messages p [] := by
  obtain ⟨notSending, notScanning⟩ := Process.not_busy done
  exact ⟨fun _ impossible => absurd impossible List.not_mem_nil, Process.faces_nil done,
    fun _ => ⟨fun sending => absurd sending notSending, notScanning⟩⟩

/-- An event leaves the rest of the messages, and takes another one if it is a call. -/
def Leaves (event : Event) (todo rest : List (List UInt8)) : Prop :=
  rest.Sublist todo ∧ ∀ call, event = .handled call →
    ∃ bytes, (bytes :: rest).Sublist todo ∧ Takes call bytes

theorem Leaves.silent {event : Event} {todo rest : List (List UInt8)} (kept : rest.Sublist todo)
    (silent : event.call? = none) : Leaves event todo rest := by
  refine ⟨kept, ?_⟩
  rintro call rfl
  cases silent

/-- In the benchmark mode the loop over the chunk takes the messages one by one. -/
theorem Fed.scan {messages : List Message} {p q : Process} {event : Event}
    {todo : List (List UInt8)} (fed : Fed messages p todo)
    (framed : ∀ bytes ∈ todo, Framed bytes) (bench : p.ani.cbench = true)
    (step : Process.Step p event q) (silent : event.chunk? = none) (connected : event ≠ .lost) :
    ∃ rest, Fed messages q rest ∧ Leaves event todo rest := by
  obtain ⟨done, rest, rfl, passes⟩ :=
    step.passes bench fed.faces framed silent connected
  refine ⟨rest, ⟨?_, passes.faces, fun normal => ?_⟩, List.sublist_append_right _ _, ?_⟩
  · intro bytes member
    exact fed.told bytes (List.mem_append_right _ member)
  · rw [passes.cbench] at normal
    cases normal
  · rintro call rfl
    have takes : List.Forall₂ Takes [call] (done.filter hasHandler) := passes.takes
    generalize chosen : done.filter hasHandler = handled at takes
    cases takes with
    | @cons _ bytes _ _ taken _ =>
        have inFilter : bytes ∈ done.filter hasHandler := chosen ▸ List.mem_cons_self
        have passed : [bytes].Sublist done :=
          List.singleton_sublist.mpr (List.mem_of_mem_filter inFilter)
        exact ⟨bytes, passed.append (List.Sublist.refl rest), taken⟩

/-- Outside of it only the first message of the chunk is looked at. -/
theorem Fed.answer {messages : List Message} {p q : Process} {event : Event}
    {todo : List (List UInt8)} (fed : Fed messages p todo)
    (framed : ∀ bytes ∈ todo, Framed bytes) (bench : p.ani.cbench = false)
    (step : Process.Step p event q) (silent : event.chunk? = none) (connected : event ≠ .lost) :
    ∃ rest, Fed messages q rest ∧ Leaves event todo rest := by
  obtain ⟨some, notScanning⟩ := fed.normal bench
  cases step.finishes bench fed.faces framed silent connected notScanning with
  | still place faces uncalled =>
      refine ⟨todo, ⟨fed.told, faces, fun _ => ?_⟩, .silent (List.Sublist.refl _) uncalled⟩
      rw [place]
      exact ⟨some, notScanning⟩
  | ignored _ reading uncalled _ =>
      exact ⟨[], .idle (.inl reading), .silent (List.nil_sublist _) uncalled⟩
  | answered sending ended isCall takes =>
      refine ⟨[], .idle ended, List.nil_sublist _, fun call same => ?_⟩
      cases isCall.symm.trans same
      cases todo with
      | nil => exact absurd rfl (some sending)
      | cons bytes rest =>
          exact ⟨bytes, List.singleton_sublist.mpr List.mem_cons_self, takes bytes rfl⟩

theorem Fed.step {messages : List Message} {p q : Process} {event : Event}
    {todo : List (List UInt8)} (fed : Fed messages p todo)
    (valid : ∀ message ∈ messages, message.Valid) (step : Process.Step p event q)
    (silent : event.chunk? = none) (connected : event ≠ .lost) :
    ∃ rest, Fed messages q rest ∧ Leaves event todo rest := by
  have framed : ∀ bytes ∈ todo, Framed bytes := by
    intro bytes member
    obtain ⟨message, told, rfl⟩ := fed.told bytes member
    exact (valid message told).framed
  cases bench : p.ani.cbench with
  | true => exact fed.scan framed bench step silent connected
  | false => exact fed.answer framed bench step silent connected

theorem Fed.received {messages group : List Message} {p q : Process} {chunk : List UInt8}
    (step : Process.Step p (.received chunk) q)
    (inside : ∀ message ∈ group, message ∈ messages)
    (whole : chunk = (group.map Message.bytes).flatten) :
    Fed messages q (group.map Message.bytes) := by
  cases step with
  | received some _ =>
      subst whole
      refine ⟨?_, ⟨Memory.starts_ofList _ _, rfl⟩, fun _ => ⟨?_, fun counter => nofun⟩⟩
      · intro bytes member
        obtain ⟨message, inGroup, rfl⟩ := List.mem_map.mp member
        exact ⟨message, inside message inGroup, rfl⟩
      · rintro - empty
        rw [empty] at some
        exact some rfl

/-- No controller is connected again. -/
def Unbroken (labels : List (Label Switch Event)) : Prop :=
  ∀ s connection, Label.controller s (.connected connection) ∉ labels

/-- The controller works on these messages, or it has lost its connection. -/
def Feeds (messages : List Message) (p : Process) : Prop :=
  (∃ todo, Fed messages p todo) ∨ ¬ p.place.Online

theorem Feeds.step {messages : List Message} {p q : Process} {event : Event}
    (feeds : Feeds messages p) (valid : ∀ message ∈ messages, message.Valid)
    (step : Process.Step p event q) (silent : event.chunk? = none)
    (unbroken : ∀ connection, event ≠ .connected connection) :
    Feeds messages q ∧
      ∀ call, event = .handled call → ∃ message ∈ messages, Takes call message.bytes := by
  rcases feeds with ⟨todo, fed⟩ | offline
  · by_cases lost : event = .lost
    · subst lost
      cases step with
      | lost _ => exact ⟨.inr id, fun call => nofun⟩
    · obtain ⟨rest, still, -, takes⟩ := fed.step valid step silent lost
      refine ⟨.inl ⟨rest, still⟩, fun call isCall => ?_⟩
      obtain ⟨bytes, inside, taken⟩ := takes call isCall
      obtain ⟨message, told, rfl⟩ := fed.told bytes (inside.subset List.mem_cons_self)
      exact ⟨message, told, taken⟩
  · obtain ⟨still, noCall⟩ := step.offline offline unbroken
    refine ⟨?_, fun call isCall => absurd isCall (noCall call)⟩
    rcases still with still | exited
    · exact .inr still
    · exact .inl ⟨[], .idle (.inr exited)⟩

/-- Every controller works on messages of its switch. -/
theorem Reaches.feeds (run : Reaches topology cbench labels net) (unbroken : Unbroken labels)
    (s : Switch) : Feeds (net.inbox s) (net.controllers s) := by
  induction run with
  | refl => exact .inl ⟨[], .idle (.inl rfl)⟩
  | @snoc labels net next label earlier step inductionHypothesis =>
      have feeds := inductionHypothesis fun t connection member =>
        unbroken t connection (List.mem_append_left _ member)
      have more {message : Message} {t : Switch} :
          Feeds ((net.tell t message).inbox s) (net.controllers s) := by
        rcases feeds with ⟨todo, fed⟩ | offline
        · refine .inl ⟨todo, fun bytes member => ?_, fed.faces, fed.normal⟩
          obtain ⟨old, told, same⟩ := fed.told bytes member
          exact ⟨old, Net.mem_tell_of_mem told, same⟩
        · exact .inr offline
      have moved {t : Switch} {event : Event} {process : Process} {sent : List Sent}
          (taken : Process.Step (net.controllers t) event process) (silent : event.chunk? = none)
          (again : ∀ connection, event ≠ .connected connection) :
          Feeds (net.inbox s) ((net.control t process sent).controllers s) := by
        by_cases same : s = t
        · subst same
          rw [Net.control_self]
          exact (feeds.step (Reaches.valid earlier s) taken silent again).1
        · rw [Net.control_other same]
          exact feeds
      cases step with
      | hostSent _ => exact feeds
      | reported _ _ => exact more
      | spoke _ _ => exact more
      | forwarded _ _ _ _ _ _ =>
          rw [Net.emit_controllers, Net.emit_inbox]
          exact feeds
      | executed _ _ =>
          rw [Net.emit_controllers, Net.emit_inbox]
          exact feeds
      | @controller t event process sent taken exchanges =>
          cases exchanges with
          | received inside whole =>
              by_cases same : s = t
              · subst same
                rw [Net.control_self]
                exact .inl ⟨_, Fed.received taken inside whole⟩
              · rw [Net.control_other same]
                exact feeds
          | handled _ _ => exact moved taken rfl fun connection => nofun
          | shared => exact moved taken rfl fun connection => nofun
          | quiet quiet =>
              have silent : event.chunk? = none := by
                cases event with
                | received _ => cases quiet
                | _ => rfl
              apply moved taken silent
              rintro connection rfl
              exact unbroken t connection (List.mem_append_right _ List.mem_cons_self)

/-- A handler is only ever called with a message of the switch, as `Step`
demands: the demand keeps no controller from any step. -/
theorem Reaches.handled_takes (run : Reaches topology cbench labels net)
    (unbroken : Unbroken labels) {s : Switch} {call : Call} {process : Process}
    (taken : Process.Step (net.controllers s) (.handled call) process) :
    ∃ message ∈ net.inbox s, Takes call message.bytes := by
  exact ((Reaches.feeds run unbroken s).step (Reaches.valid run s) taken rfl
    fun connection => nofun).2 call rfl

/-- A controller that keeps its connection is not connected again. -/
theorem Reaches.unbroken (run : Reaches topology cbench labels net) (lasting : Lasting labels) :
    Unbroken labels := by
  induction run with
  | refl =>
      intro s connection impossible
      cases impossible
  | @snoc labels net next label earlier step inductionHypothesis =>
      have lasted : Lasting labels := fun t lost => lasting t (List.mem_append_left _ lost)
      intro s connection member
      rcases List.mem_append.mp member with before | now
      · exact inductionHypothesis lasted s connection before
      · cases List.mem_singleton.mp now
        rcases step.controller_cases s with ⟨-, others⟩ | ⟨event, same, taken, -⟩
        · exact others _ rfl
        · cases same
          have online := (Reaches.session earlier lasted s).hosts.1
          generalize net.controllers s = p at taken online
          generalize next.controllers s = q at taken
          cases taken with
          | connected => cases online

/-! ## Deliveries -/

theorem Net.control_control (net : Net Switch Process) (s : Switch) (middle last : Process)
    (first second : List Sent) :
    (net.control s middle first).control s last second = net.control s last (first ++ second) := by
  simp [Net.control]

/-- A controller reads one message of its switch and answers it. -/
theorem deliver_run {s : Switch} {message : Message} {env : Env} {call : Call}
    {process : Process} (told : message ∈ net.inbox s)
    (header : OfpHeader.size ≤ message.bytes.length)
    (delivered : (net.controllers s).deliver message.bytes env = some (call, process)) :
    Run (Step topology) net
      [.controller s (.received message.bytes), .controller s (.handled call)]
      (net.control s process (call.sent.map fun bytes => ⟨bytes, message.about⟩)) := by
  have both : Run Process.Step (net.controllers s)
      ([.received message.bytes] ++ [.handled call]) process := Process.deliver_run delivered
  obtain ⟨middle, first, handled⟩ := both.snoc_inv
  have one : Step topology net (.controller s (.received message.bytes))
      (net.control s middle []) := by
    have inside : ∀ other ∈ [message], other ∈ net.inbox s := fun other member =>
      List.mem_singleton.mp member ▸ told
    exact .controller first.single_inv (.received inside (by simp))
  have two : Step topology (net.control s middle []) (.controller s (.handled call))
      ((net.control s middle []).control s process
        (call.sent.map fun bytes => ⟨bytes, message.about⟩)) := by
    have still : message ∈ (net.control s middle []).inbox s := told
    have exchanges : Exchanges ((net.control s middle []).inbox s) (.handled call) _ :=
      .handled still (Process.deliver_takes delivered header)
    refine .controller ?_ exchanges
    rwa [Net.control_self]
  rw [Net.control_control, List.nil_append] at two
  exact .cons one (.single two)

/-- A message of a switch goes to its controller. -/
theorem spoke_run (s : Switch) {bytes : List UInt8} {env : Env} {call : Call}
    {now process : Process} (same : net.controllers s = now) (framed : Framed bytes)
    (type : messageType bytes ≠ ofptPacketIn)
    (delivered : now.deliver bytes env = some (call, process)) :
    Run (Step topology) net
      [.spoke s bytes, .controller s (.received bytes), .controller s (.handled call)]
      ((net.tell s (.other bytes)).control s process
        (call.sent.map fun bytes => ⟨bytes, none⟩)) := by
  subst same
  exact .cons (.spoke framed type)
    (deliver_run (Net.mem_tell_self (.other bytes)) framed.header delivered)

/-- A frame on a port is reported to the controller. -/
theorem reported_run (here : Port Switch) {frame : Frame} {bytes : List UInt8} {env : Env}
    {call : Call} {now process : Process} (same : net.controllers here.1 = now)
    (reports : Reports bytes here.2 frame)
    (delivered : now.deliver bytes env = some (call, process)) :
    Run (Step topology) (net.put here frame)
      [.reported here frame bytes, .controller here.1 (.received bytes),
        .controller here.1 (.handled call)]
      (((net.put here frame).tell here.1 (.report here.2 frame bytes)).control here.1 process
        (call.sent.map fun bytes => ⟨bytes, some (here.2, frame)⟩)) := by
  subst same
  have arrived : (here, frame) ∈ (net.put here frame).wire :=
    List.mem_append_right _ List.mem_cons_self
  apply Run.cons (.reported arrived reports)
  exact deliver_run (Net.mem_tell_self (.report here.2 frame bytes)) reports.framed.header
    delivered

/-- What a switch sends out of a port with a link is reported at its other end. -/
theorem executed_run {s : Switch} {port : UInt16} {there : Port Switch} {sent : Sent}
    {frame : Frame} {bytes : List UInt8} {env : Env} {call : Call} {now process : Process}
    (linked : topology.link (s, port) = some there) (same : net.controllers there.1 = now)
    (told : sent ∈ net.outbox s) (emits : Emits sent port frame)
    (reports : Reports bytes there.2 frame)
    (delivered : now.deliver bytes env = some (call, process)) :
    Run (Step topology) net
      [.executed (s, port) frame, .reported there frame bytes,
        .controller there.1 (.received bytes), .controller there.1 (.handled call)]
      (((net.put there frame).tell there.1 (.report there.2 frame bytes)).control there.1 process
        (call.sent.map fun bytes => ⟨bytes, some (there.2, frame)⟩)) := by
  have step : Step topology net (.executed (s, port) frame) (net.emit topology (s, port) frame) :=
    .executed told emits
  unfold Net.emit at step
  rw [linked] at step
  exact .cons step (reported_run there same reports delivered)

end DAIM.Network
