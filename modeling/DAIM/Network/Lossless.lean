import Mathlib.Data.List.ReduceOption
import DAIM.Network.Routing
import DAIM.Network.Worked

/-!
# The network that duplicates nothing is one of the networks

A network whose links and switches keep everything, and pass it on once, does
nothing that the networks of `Basic` cannot do.  What is true of all of these is
true of it, as long as its controllers drop nothing.
-/

namespace DAIM.Network

open DAIM.Library DAIM.OpenFlow DAIM.Linked DAIM.Com DAIM.Hosts DAIM.Ani41

/-! ## One broadcast frame -/

/-- All copies at a switch that ask all hosts are copies of the frame. -/
structure Site.Copies (frame : Frame) (site : Site) : Prop where
  told : ∀ message ∈ site.inbox ++ site.chunk, ∀ inPort copy,
    message.about = some (inPort, copy) → AsksAll copy → copy = frame
  sent : ∀ sent ∈ site.outbox, ∀ inPort copy,
    sent.about = some (inPort, copy) → AsksAll copy → copy = frame

structure Traffic.Copies {Switch : Type*} (frame : Frame) (traffic : Traffic Switch) : Prop where
  sites : ∀ s, (traffic.sites s).Copies frame
  flying : ∀ copy ∈ traffic.flying, AsksAll copy.2 → copy.2 = frame

section Sites

variable {enters : UInt16 → Prop} {ports : List UInt16} {site next : Site}
variable {incoming : Option (UInt16 × Frame)} {out : List (UInt16 × Frame)}
variable {event : Option Event} {frame : Frame}

theorem Site.Step.copies (step : Site.Step ports site incoming out event next)
    (sound : site.Sound enters) (copies : site.Copies frame)
    (came : ∀ copy, incoming = some copy → AsksAll copy.2 → copy.2 = frame) :
    next.Copies frame ∧ ∀ copy ∈ out, AsksAll copy.2 → copy.2 = frame := by
  have nothing : ∀ copy ∈ ([] : List (UInt16 × Frame)), AsksAll copy.2 → copy.2 = frame :=
    fun _ impossible => absurd impossible List.not_mem_nil
  have more {message : Message}
      (isCopy : ∀ inPort copy, message.about = some (inPort, copy) → AsksAll copy → copy = frame) :
      ∀ other ∈ site.inbox ++ [message] ++ site.chunk, ∀ inPort copy,
        other.about = some (inPort, copy) → AsksAll copy → copy = frame := by
    intro other member
    simp only [List.mem_append, List.mem_singleton] at member
    rcases member with (old | rfl) | old
    · exact copies.told other (List.mem_append_left _ old)
    · exact isCopy
    · exact copies.told other (List.mem_append_right _ old)
  have answered {about : Option (UInt16 × Frame)} {answers : List (List UInt8)}
      (isCopy : ∀ inPort copy, about = some (inPort, copy) → AsksAll copy → copy = frame) :
      ∀ sent ∈ site.outbox ++ answers.map fun bytes => Sent.mk bytes about, ∀ inPort copy,
        sent.about = some (inPort, copy) → AsksAll copy → copy = frame := by
    intro sent member
    rcases List.mem_append.mp member with old | new
    · exact copies.sent sent old
    · obtain ⟨bytes, -, rfl⟩ := List.mem_map.mp new
      exact isCopy
  cases step with
  | @reported inPort frame bytes reports =>
      refine ⟨⟨more fun port copy about asks => ?_, copies.sent⟩, nothing⟩
      cases about
      exact came _ rfl asks
  | @forwarded inPort kept flow entry covers =>
      refine ⟨copies, fun copy member asks => ?_⟩
      obtain ⟨_, -, rfl⟩ := List.mem_map.mp member
      exact came (inPort, kept) rfl asks
  | spoke _ => exact ⟨⟨more fun port copy => nofun, copies.sent⟩, nothing⟩
  | @executed before after sent split =>
      have inOutbox : sent ∈ site.outbox := split ▸ List.mem_append_right _ List.mem_cons_self
      refine ⟨⟨copies.told, fun other member => ?_⟩, fun copy member asks => ?_⟩
      · apply copies.sent other
        rw [split]
        exact ((List.sublist_cons_self sent after).append_left before).subset member
      · have kind := sound.outbox sent inOutbox
        obtain ⟨inPort, flooding, -⟩ := (kind.emitted member).2 asks
        obtain ⟨packet, kept, flood, -, about, isAsking⟩ := kind.of_flood flooding
        rw [emitted_flood flood about] at member
        obtain ⟨_, -, rfl⟩ := List.mem_map.mp member
        exact copies.sent sent inOutbox _ _ about isAsking
  | @received chunk group rest process _ split _ =>
      refine ⟨⟨fun message member => ?_, copies.sent⟩, nothing⟩
      apply copies.told message
      rw [split]
      simp only [List.mem_append] at member ⊢
      tauto
  | @handled call before after message process _ split _ =>
      have inChunk : message ∈ site.chunk := split ▸ List.mem_append_right _ List.mem_cons_self
      refine ⟨⟨fun other member => ?_, ?_⟩, nothing⟩
      · apply copies.told other
        rw [split]
        simp only [List.mem_append, List.mem_cons] at member ⊢
        tauto
      · exact answered (copies.told message (List.mem_append_right _ inChunk))
  | cleared _ _ => exact ⟨⟨copies.told, answered fun port copy => nofun⟩, nothing⟩
  | @shared index bytes process _ =>
      exact ⟨⟨copies.told, @answered none [bytes] fun port copy => nofun⟩, nothing⟩
  | quiet _ _ => exact ⟨⟨copies.told, copies.sent⟩, nothing⟩

end Sites

/-! ## Steps of the larger network -/

section Network

variable {Switch : Type*} {topology : Topology Switch} {net later : Net Switch Process} {s : Switch}

/-- What a label says about the controllers. -/
def Label.act : Label Switch Event → Act Switch
  | .controller s event => some (s, event)
  | _ => none

/-- Only frames were put on links. -/
structure Net.Grows (net later : Net Switch Process) : Prop where
  controllers : later.controllers = net.controllers
  inbox : later.inbox = net.inbox
  outbox : later.outbox = net.outbox
  wire : net.wire ⊆ later.wire

theorem Net.Grows.refl (net : Net Switch Process) : net.Grows net := ⟨rfl, rfl, rfl, fun _ => id⟩

theorem Net.Grows.emit (grows : net.Grows later) (here : Port Switch) (frame : Frame) :
    net.Grows (later.emit topology here frame) := by
  unfold Net.emit
  split
  · exact grows
  · exact ⟨grows.controllers, grows.inbox, grows.outbox,
      fun copy member => List.mem_append_left _ (grows.wire member)⟩

theorem Net.emit_wire {here there : Port Switch} {frame : Frame}
    (linked : topology.link here = some there) :
    (there, frame) ∈ (net.emit topology here frame).wire := by
  unfold Net.emit
  rw [linked]
  exact List.mem_append_right _ List.mem_cons_self

variable [DecidableEq Switch] {cabling : Cabling Switch}

/-- A switch sends frames out of its ports one after the other. -/
theorem emit_run {out : List (UInt16 × Frame)} {label : UInt16 × Frame → Label Switch Event}
    (silent : ∀ copy, (label copy).act = none)
    (can : ∀ later, net.Grows later → ∀ copy ∈ out, Step cabling.toTopology later (label copy)
      (later.emit cabling.toTopology (s, copy.1) copy.2)) :
    ∃ labels later, Run (Step cabling.toTopology) net labels later ∧
      labels.filterMap Label.act = [] ∧ net.Grows later ∧
      ∀ copy ∈ cabling.arrivals s out, copy ∈ later.wire := by
  induction out using List.reverseRecOn with
  | nil => exact ⟨[], net, .refl, rfl, .refl net, fun _ impossible => by cases impossible⟩
  | append_singleton out copy inductionHypothesis =>
      obtain ⟨labels, later, run, quiet, grows, arrived⟩ :=
        inductionHypothesis fun later grows copy member =>
          can later grows copy (List.mem_append_left _ member)
      have step := can later grows copy (List.mem_append_right _ List.mem_cons_self)
      refine ⟨labels ++ [label copy], _, .snoc run step, ?_, grows.emit _ _, fun other member => ?_⟩
      · rw [List.filterMap_append, quiet]
        simp [silent]
      · unfold Cabling.arrivals at member
        rw [List.filterMap_append, List.mem_append] at member
        rcases member with old | new
        · exact (Net.Grows.emit (.refl later) _ _).wire (arrived other old)
        · obtain ⟨last, isLast, arrives⟩ := List.mem_filterMap.mp new
          cases List.mem_singleton.mp isLast
          obtain ⟨there, linked, rfl⟩ := Option.map_eq_some_iff.mp arrives
          exact Net.emit_wire linked

/-- The larger network has everything that is in the smaller one.  Its outboxes also keep
the messages by which the copies of the frame were flooded. -/
structure Within (frame : Frame) (acts : List (Act Switch)) (traffic : Traffic Switch)
    (net : Net Switch Process) : Prop where
  controllers : ∀ s, net.controllers s = (traffic.sites s).controller
  wire : ∀ copy ∈ traffic.flying, copy ∈ net.wire
  inbox : ∀ s, ∀ message ∈ (traffic.sites s).inbox ++ (traffic.sites s).chunk,
    message ∈ net.inbox s
  outbox : ∀ s, ∀ sent ∈ (traffic.sites s).outbox, sent ∈ net.outbox s
  entries : ∀ s, ∀ flow ∈ (traffic.sites s).entries, ∃ sent ∈ net.outbox s,
    FlowMod.decode sent.bytes = some flow
  flooded : ∀ s, ∀ port ∈ floods s acts, ∃ sent ∈ net.outbox s, sent.about = some (port, frame)

section Updates

variable {frame : Frame} {acts : List (Act Switch)} {traffic : Traffic Switch}
variable {net later : Net Switch Process}
variable {s : Switch} {next : Site} {event : Option Event} {flying : List (Port Switch × Frame)}

/-- What was added for a step at one switch. -/
theorem Within.update (within : Within frame acts traffic net)
    (controllers : later.controllers = Function.update net.controllers s next.controller)
    (wire : ∀ copy ∈ flying, copy ∈ later.wire)
    (inboxes : ∀ t, net.inbox t ⊆ later.inbox t) (outboxes : ∀ t, net.outbox t ⊆ later.outbox t)
    (inbox : ∀ message ∈ next.inbox ++ next.chunk, message ∈ later.inbox s)
    (outbox : ∀ sent ∈ next.outbox, sent ∈ later.outbox s)
    (entries : ∀ flow ∈ next.entries, flow ∈ (traffic.sites s).entries ∨
      ∃ sent ∈ later.outbox s, FlowMod.decode sent.bytes = some flow)
    (flooded : ∀ port ∈ eventFloods event, ∃ sent ∈ later.outbox s,
      sent.about = some (port, frame)) :
    Within frame (acts ++ [event.map (s, ·)]) ⟨Function.update traffic.sites s next, flying⟩
      later where
  controllers := by
    intro t
    by_cases same : t = s
    · subst same
      simp [controllers]
    · simp [controllers, Function.update_of_ne same, within.controllers t]
  wire := wire
  inbox := by
    intro t message member
    by_cases same : t = s
    · subst same
      exact inbox message (by simpa using member)
    · simp only [Function.update_of_ne same] at member
      exact inboxes t (within.inbox t message member)
  outbox := by
    intro t sent member
    by_cases same : t = s
    · subst same
      exact outbox sent (by simpa using member)
    · simp only [Function.update_of_ne same] at member
      exact outboxes t (within.outbox t sent member)
  entries := by
    intro t flow member
    have old (before : flow ∈ (traffic.sites t).entries) :
        ∃ sent ∈ later.outbox t, FlowMod.decode sent.bytes = some flow := by
      obtain ⟨sent, told, decoded⟩ := within.entries t flow before
      exact ⟨sent, outboxes t told, decoded⟩
    by_cases same : t = s
    · subst same
      exact (entries flow (by simpa using member)).elim old id
    · simp only [Function.update_of_ne same] at member
      exact old member
  flooded := by
    intro t port member
    rw [floods_append] at member
    rcases List.mem_append.mp member with before | now
    · obtain ⟨sent, told, about⟩ := within.flooded t port before
      exact ⟨sent, outboxes t told, about⟩
    · split at now
      · rename_i same
        exact same ▸ flooded port now
      · cases now

variable {others : List (Port Switch × Frame)} {incoming : Option (UInt16 × Frame)}
variable {out : List (UInt16 × Frame)} {enters : UInt16 → Prop} {todo : List (List UInt8)}

theorem Within.told (within : Within frame acts traffic net) (message : Message)
    (wire : ∀ copy ∈ others, copy ∈ net.wire) :
    Within frame (acts ++ [none])
      ⟨Function.update traffic.sites s { traffic.sites s with
        inbox := (traffic.sites s).inbox ++ [message] }, others⟩ (net.tell s message) := by
  apply @Within.update _ _ frame acts traffic net (net.tell s message) s _ none _ within
  · rw [← within.controllers s, Function.update_eq_self]
    rfl
  · exact wire
  · exact fun t message member => Net.mem_tell_of_mem member
  · exact fun t => List.Subset.refl _
  · intro other member
    simp only [List.mem_append, List.mem_singleton] at member
    rcases member with (old | rfl) | old
    · exact Net.mem_tell_of_mem (within.inbox s other (List.mem_append_left _ old))
    · exact Net.mem_tell_self _
    · exact Net.mem_tell_of_mem (within.inbox s other (List.mem_append_right _ old))
  · exact within.outbox s
  · exact fun flow => .inl
  · exact fun _ impossible => by cases impossible

theorem Within.emitted (within : Within frame acts traffic net) (grows : net.Grows later)
    (controller : next.controller = (traffic.sites s).controller)
    (inbox : next.inbox ++ next.chunk ⊆ (traffic.sites s).inbox ++ (traffic.sites s).chunk)
    (outbox : next.outbox ⊆ (traffic.sites s).outbox)
    (entries : ∀ flow ∈ next.entries, flow ∈ (traffic.sites s).entries ∨
      ∃ sent ∈ net.outbox s, FlowMod.decode sent.bytes = some flow)
    (wire : ∀ copy ∈ flying, copy ∈ later.wire) :
    Within frame (acts ++ [none]) ⟨Function.update traffic.sites s next, flying⟩ later := by
  apply @Within.update _ _ frame acts traffic net later s next none flying within
  · rw [controller, ← within.controllers s, Function.update_eq_self, grows.controllers]
  · exact wire
  · exact fun t => grows.inbox ▸ List.Subset.refl _
  · exact fun t => grows.outbox ▸ List.Subset.refl _
  · exact fun message member => grows.inbox ▸ within.inbox s message (inbox member)
  · exact fun sent member => grows.outbox ▸ within.outbox s sent (outbox member)
  · exact fun flow member => grows.outbox ▸ entries flow member
  · exact fun _ impossible => by cases impossible

theorem Within.controlled (within : Within frame acts traffic net) {event : Event}
    {sent : List Sent}
    (inbox : next.inbox ++ next.chunk ⊆ (traffic.sites s).inbox ++ (traffic.sites s).chunk)
    (outbox : next.outbox = (traffic.sites s).outbox ++ sent)
    (entries : next.entries = (traffic.sites s).entries)
    (flooded : ∀ port ∈ event.floods, ∃ message ∈ sent, message.about = some (port, frame))
    (wire : ∀ copy ∈ others, copy ∈ net.wire) :
    Within frame (acts ++ [some (s, event)]) ⟨Function.update traffic.sites s next, others⟩
      (net.control s next.controller sent) := by
  have kept (t : Switch) : net.outbox t ⊆ (net.control s next.controller sent).outbox t := by
    intro message member
    unfold Net.control
    by_cases same : t = s
    · subst same
      simpa using Or.inl member
    · simpa [Function.update_of_ne same] using member
  apply @Within.update _ _ frame acts traffic net _ s next (some event) others within
  · rfl
  · exact wire
  · exact fun t => List.Subset.refl _
  · exact kept
  · exact fun message member => within.inbox s message (inbox member)
  · intro message member
    rw [outbox] at member
    rcases List.mem_append.mp member with old | new
    · exact kept s (within.outbox s message old)
    · exact Net.mem_control_self new
  · exact fun flow member => .inl (entries ▸ member)
  · intro port member
    obtain ⟨message, new, about⟩ := flooded port member
    exact ⟨message, Net.mem_control_self new, about⟩

/-- What is done at one switch, the larger network does in some steps. -/
theorem Within.site (within : Within frame acts traffic net)
    (step : Site.Step (cabling.ports s) (traffic.sites s) incoming out event next)
    (sound : (traffic.sites s).Sound enters) (owes : (traffic.sites s).Owes todo)
    (copies : (traffic.sites s).Copies frame)
    (came : ∀ copy, incoming = some copy → ((s, copy.1), copy.2) ∈ net.wire)
    (wire : ∀ copy ∈ others, copy ∈ net.wire) :
    ∃ labels later, Run (Step cabling.toTopology) net labels later ∧
      labels.filterMap Label.act = (event.map (s, ·)).toList ∧
      Within frame (acts ++ [event.map (s, ·)])
        ⟨Function.update traffic.sites s next, others ++ cabling.arrivals s out⟩ later := by
  have controller := within.controllers s
  have alone : others ++ cabling.arrivals s [] = others := List.append_nil others
  have arrived {later : Net Switch Process} (grows : net.Grows later)
      (arrives : ∀ copy ∈ cabling.arrivals s out, copy ∈ later.wire) :
      ∀ copy ∈ others ++ cabling.arrivals s out, copy ∈ later.wire := by
    intro copy member
    rcases List.mem_append.mp member with old | new
    · exact grows.wire (wire copy old)
    · exact arrives copy new
  cases step with
  | @reported inPort copy bytes reports =>
      rw [alone]
      exact ⟨_, _, .single (.reported (came _ rfl) reports), rfl, within.told _ wire⟩
  | @forwarded inPort copy flow entry covers =>
      obtain ⟨sent, told, decoded⟩ := within.entries s flow entry
      have can : ∀ later, net.Grows later →
          ∀ leaving ∈ (outputs (cabling.ports s) flow.actions inPort).map (·, copy),
            Step cabling.toTopology later (.forwarded (s, inPort) copy leaving.1)
              (later.emit cabling.toTopology (s, leaving.1) leaving.2) := by
        intro later grows leaving member
        obtain ⟨port, sends, rfl⟩ := List.mem_map.mp member
        exact .forwarded (grows.wire (came _ rfl)) (grows.outbox ▸ told) decoded covers.dlType
          covers.dlSrc (outputs_of_mem sends)
      obtain ⟨labels, later, run, quiet, grows, arrives⟩ := emit_run (fun _ => rfl) can
      exact ⟨labels, later, run, quiet, within.emitted grows rfl (List.Subset.refl _)
        (List.Subset.refl _) (fun flow => .inl) (arrived grows arrives)⟩
  | spoke speaks =>
      rw [alone]
      exact ⟨_, _, .single (.spoke speaks.framed speaks.type), rfl, within.told _ wire⟩
  | @executed before after sent split =>
      have inOutbox : sent ∈ (traffic.sites s).outbox :=
        split ▸ List.mem_append_right _ List.mem_cons_self
      have told := within.outbox s sent inOutbox
      have can : ∀ later, net.Grows later → ∀ leaving ∈ sent.emitted (cabling.ports s),
          Step cabling.toTopology later (.executed (s, leaving.1) leaving.2)
            (later.emit cabling.toTopology (s, leaving.1) leaving.2) := by
        intro later grows leaving member
        exact .executed (grows.outbox ▸ told) (Sent.emits_of_mem member)
      obtain ⟨labels, later, run, quiet, grows, arrives⟩ := emit_run (fun _ => rfl) can
      refine ⟨labels, later, run, quiet, within.emitted grows rfl (List.Subset.refl _) ?_ ?_
        (arrived grows arrives)⟩
      · intro other member
        rw [split]
        exact ((List.sublist_cons_self sent after).append_left before).subset member
      · intro flow member
        rcases List.mem_append.mp member with old | new
        · exact .inl old
        · exact .inr ⟨sent, told, by simpa using new⟩
  | @received chunk group rest process taken split whole =>
      rw [alone]
      have inside : ∀ message ∈ group, message ∈ net.inbox s := by
        intro message member
        apply within.inbox s message
        rw [split]
        exact List.mem_append_left _ (List.mem_append_left _ member)
      refine ⟨_, _, .single (.controller (controller ▸ taken) (Exchanges.received inside whole)),
        rfl, within.controlled ?_ (List.append_nil _).symm rfl
          (fun _ impossible => by cases impossible) wire⟩
      · intro message member
        rw [split]
        simp only [List.mem_append] at member ⊢
        tauto
  | @handled call before after message process taken split takes =>
      have inChunk : message ∈ (traffic.sites s).chunk :=
        split ▸ List.mem_append_right _ List.mem_cons_self
      have told := within.inbox s message (List.mem_append_right _ inChunk)
      rw [alone]
      refine ⟨_, _, .single (.controller (controller ▸ taken) (Exchanges.handled told takes)), rfl,
        within.controlled ?_ rfl rfl (fun port flooding => ?_) wire⟩
      · intro other member
        rw [split]
        simp only [List.mem_append, List.mem_cons] at member ⊢
        tauto
      · obtain ⟨bytes, sent, isFlood⟩ := List.mem_filterMap.mp flooding
        refine ⟨⟨bytes, message.about⟩, List.mem_map_of_mem sent, ?_⟩
        rcases (sound.of_chunk split).answered takes sound.numbered taken with ⟨-, quiet⟩ |
          ⟨packet, copy, all, about, asks, -⟩
        · cases (quiet bytes sent).1.symm.trans isFlood
        · have only : bytes ∈ call.sent := sent
          rw [all] at only
          cases List.mem_singleton.mp only
          cases (floodPort_flood packet).symm.trans isFlood
          rw [about, copies.told message (List.mem_append_right _ inChunk) _ _ about asks]
  | cleared taken zero => exact absurd zero (owes.nonzero taken)
  | @shared index bytes process taken =>
      rw [alone]
      refine ⟨_, _, .single (.controller (controller ▸ taken) Exchanges.shared), rfl,
        within.controlled (List.Subset.refl _) rfl rfl (fun port flooding => ?_) wire⟩
      rw [shared_floods taken sound.numbered] at flooding
      cases flooding
  | @quiet event process taken quiet =>
      rw [alone]
      refine ⟨_, _, .single (.controller (controller ▸ taken) (Exchanges.quiet quiet)), rfl,
        within.controlled (List.Subset.refl _) (List.append_nil _).symm rfl
          (fun port flooding => ?_) wire⟩
      rw [quiet.floods] at flooding
      cases flooding

end Updates

/-! ## Every run -/

/-- The controllers drop nothing: no connection is lost, and outside of the
benchmark mode every chunk is one message. -/
structure Careful (cbench : Switch → Bool) (acts : List (Act Switch)) : Prop where
  lasting : ∀ s, some (s, Event.lost) ∉ acts
  single : ∀ s chunk, some (s, Event.received chunk) ∈ acts → cbench s = false → Framed chunk

/-- What a network has whose controllers drop nothing. -/
structure Traffic.Kept (cbench : Switch → Bool) (frame : Frame) (traffic : Traffic Switch) :
    Prop where
  modes : ∀ s, (traffic.sites s).controller.ani.cbench = cbench s
  owes : ∀ s, ∃ todo, (traffic.sites s).Owes todo
  copies : traffic.Copies frame

section Runs

variable {home : Port Switch} {frame : Frame} {traffic next : Traffic Switch} {act : Act Switch}
variable {acts more : List (Act Switch)} {cbench : Switch → Bool}

omit [DecidableEq Switch] in
theorem Careful.left (careful : Careful cbench (acts ++ more)) : Careful cbench acts where
  lasting := fun s lost => careful.lasting s (List.mem_append_left _ lost)
  single := fun s chunk received => careful.single s chunk (List.mem_append_left _ received)

omit [DecidableEq Switch] in
theorem Careful.append (careful : Careful cbench acts) (others : Careful cbench more) :
    Careful cbench (acts ++ more) where
  lasting := by
    intro s lost
    rcases List.mem_append.mp lost with before | after
    · exact careful.lasting s before
    · exact others.lasting s after
  single := by
    intro s chunk received
    rcases List.mem_append.mp received with before | after
    · exact careful.single s chunk before
    · exact others.single s chunk after

/-- The mode of a controller does not change. -/
theorem Site.Step.mode {ports : List UInt16} {site last : Site}
    {incoming : Option (UInt16 × Frame)} {out : List (UInt16 × Frame)} {event : Option Event}
    (step : Site.Step ports site incoming out event last) :
    last.controller.ani.cbench = site.controller.ani.cbench := by
  cases step with
  | received taken _ _ => exact taken.cbench
  | handled taken _ _ => exact taken.cbench
  | cleared taken _ => exact taken.cbench
  | shared taken => exact taken.cbench
  | quiet taken _ => exact taken.cbench
  | _ => rfl

theorem Traffic.Kept.site {asked : cabling.Asked home frame} {s : Switch} {site : Site}
    {incoming : Option (UInt16 × Frame)} {out : List (UInt16 × Frame)} {event : Option Event}
    {others : List (Port Switch × Frame)} (kept : traffic.Kept cbench frame)
    (step : Site.Step (cabling.ports s) (traffic.sites s) incoming out event site)
    (flooded : traffic.Flooded asked acts) (careful : Careful cbench [event.map (s, ·)])
    (came : ∀ copy, incoming = some copy → AsksAll copy.2 → copy.2 = frame)
    (flying : ∀ copy ∈ others, AsksAll copy.2 → copy.2 = frame) :
    Traffic.Kept cbench frame
      ⟨Function.update traffic.sites s site, others ++ cabling.arrivals s out⟩ := by
  have sound := flooded.sites s
  have isCareful : (traffic.sites s).Careful event := by
    constructor
    · rintro rfl
      exact careful.lasting s List.mem_cons_self
    · rintro chunk rfl normal
      exact careful.single s chunk List.mem_cons_self ((kept.modes s).symm.trans normal)
  obtain ⟨todo, owes⟩ := kept.owes s
  obtain ⟨copies, leaves⟩ := step.copies sound (kept.copies.sites s) came
  have updated {holds : Switch → Site → Prop} (here : holds s site)
      (elsewhere : ∀ t, holds t (traffic.sites t)) (t : Switch) :
      holds t (Function.update traffic.sites s site t) := by
    by_cases same : t = s
    · subst same
      simpa using here
    · simpa [Function.update_of_ne same] using elsewhere t
  refine ⟨?_, ?_, ?_, ?_⟩
  · exact @updated (fun t site => site.controller.ani.cbench = cbench t)
      (step.mode.trans (kept.modes s)) kept.modes
  · exact @updated (fun _ site => ∃ todo, site.Owes todo) (step.owes sound isCareful owes) kept.owes
  · exact @updated (fun _ site => site.Copies frame) copies kept.copies.sites
  · intro copy member
    rcases List.mem_append.mp member with old | new
    · exact flying copy old
    · obtain ⟨leaving, inOut, arrives⟩ := List.mem_filterMap.mp new
      obtain ⟨there, -, rfl⟩ := Option.map_eq_some_iff.mp arrives
      exact leaves leaving inOut

theorem Traffic.Reaches.kept (asked : cabling.Asked home frame)
    (run : Traffic.Reaches cabling cbench home frame acts traffic)
    (careful : Careful cbench acts) : traffic.Kept cbench frame := by
  induction run with
  | refl =>
      refine ⟨fun s => rfl, fun s => ⟨[], Site.owes_initial (cbench s)⟩, ⟨fun s => ⟨?_, ?_⟩, ?_⟩⟩
      · exact fun _ impossible => absurd impossible List.not_mem_nil
      · exact fun _ impossible => absurd impossible List.not_mem_nil
      · intro copy member _
        exact congrArg Prod.snd (List.mem_singleton.mp member)
  | @snoc acts middle finish act earlier step inductionHypothesis =>
      have kept := inductionHypothesis careful.left
      have flooded := Traffic.Reaches.flooded asked earlier
      have now : Careful cbench [act] :=
        ⟨fun s lost => careful.lasting s (List.mem_append_right _ lost),
          fun s chunk received => careful.single s chunk (List.mem_append_right _ received)⟩
      cases step with
      | answered _ _ unicast =>
          refine ⟨kept.modes, kept.owes, kept.copies.sites, fun copy member asks => ?_⟩
          rcases List.mem_append.mp member with old | new
          · exact kept.copies.flying copy old asks
          · cases List.mem_singleton.mp new
            exact absurd asks.2 unicast
      | @arrived before after s inPort copy out event site split step =>
          have flying := kept.copies.flying
          rw [split] at flying
          apply kept.site step flooded now
          · rintro _ ⟨⟩
            exact flying _ (List.mem_append_right _ List.mem_cons_self)
          · intro other member
            rcases List.mem_append.mp member with early | late
            · exact flying other (List.mem_append_left _ early)
            · exact flying other (List.mem_append_right _ (List.mem_cons_of_mem _ late))
      | worked step =>
          exact kept.site step flooded now (fun _ impossible => by cases impossible)
            kept.copies.flying

/-- A careful network is within one of the larger networks, whose controllers have
done the same. -/
theorem Traffic.Reaches.within (asked : cabling.Asked home frame)
    (run : Traffic.Reaches cabling cbench home frame acts traffic)
    (careful : Careful cbench acts) :
    ∃ labels net, DAIM.Network.Reaches cabling.toTopology cbench labels net ∧
      labels.filterMap Label.act = acts.reduceOption ∧ Within frame acts traffic net := by
  induction run with
  | refl =>
      refine ⟨_, _, .single (.hostSent asked.attached), rfl, ⟨fun s => rfl, ?_, ?_, ?_, ?_, ?_⟩⟩
      · exact fun copy member => List.mem_append_right _ member
      all_goals exact fun s _ impossible => absurd impossible List.not_mem_nil
  | @snoc acts middle finish act earlier step inductionHypothesis =>
      obtain ⟨labels, net, run, same, within⟩ := inductionHypothesis careful.left
      have flooded := Traffic.Reaches.flooded asked earlier
      have kept := Traffic.Reaches.kept asked earlier careful.left
      have onward {labels more : List (Label Switch Event)} {act : Act Switch}
          (before : labels.filterMap Label.act = acts.reduceOption)
          (now : more.filterMap Label.act = act.toList) :
          (labels ++ more).filterMap Label.act = (acts ++ [act]).reduceOption := by
        rw [List.filterMap_append, before, now, List.reduceOption_append]
        cases act <;> rfl
      cases step with
      | @answered here copy attached arp unicast =>
          refine ⟨_, _, .snoc run (.hostSent attached), onward same rfl, ?_⟩
          refine ⟨within.controllers, fun other member => ?_, within.inbox, within.outbox,
            within.entries, fun s port member => within.flooded s port ?_⟩
          · exact (List.mem_append.mp member).elim
              (fun old => List.mem_append_left _ (within.wire other old)) (List.mem_append_right _)
          · simpa [floods] using member
      | @arrived before after s inPort copy out event site split step =>
          have wire := within.wire
          rw [split] at wire
          obtain ⟨todo, owes⟩ := kept.owes s
          obtain ⟨more, later, rest, quiet, still⟩ := within.site step (flooded.sites s) owes
            (kept.copies.sites s)
            (fun _ isCopy => by
              cases isCopy
              exact wire _ (List.mem_append_right _ List.mem_cons_self))
            (fun other member => wire other ((List.sublist_cons_self _ after).append_left before
              |>.subset member))
          exact ⟨labels ++ more, later, run.trans rest, onward same quiet, still⟩
      | @worked s out event site step =>
          obtain ⟨todo, owes⟩ := kept.owes s
          obtain ⟨more, later, rest, quiet, still⟩ := within.site step (flooded.sites s) owes
            (kept.copies.sites s) (fun _ impossible => by cases impossible) within.wire
          exact ⟨labels ++ more, later, run.trans rest, onward same quiet, still⟩

end Runs

end Network

end DAIM.Network
