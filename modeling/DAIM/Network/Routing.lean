import DAIM.Library.Routes
import DAIM.Network.Answers

/-!
# Routes to hosts

The hosts tables of a network under one invariant: an ARP frame is only ever
where its sender is attached or behind a switch that has an entry for the
sender, and so a new entry points to the sender or to an older entry.
-/

namespace DAIM.Network

open DAIM.Library DAIM.OpenFlow DAIM.Linked DAIM.Hosts DAIM.Ani41

variable {Switch : Type*}

/-! ## Entries -/

namespace Net

/-- Where the entry of a switch for an address points to. -/
def hop (net : Net Switch Process) (mac : Mac) (s : Switch) : Option UInt16 :=
  entryPort (net.hosts s) mac

def Enters (net : Net Switch Process) (s : Switch) (mac : Mac) : Prop :=
  ∃ port, net.hop mac s = some port

end Net

/-- The port leads to the host or to a switch with an entry for it. -/
def Toward (topology : Topology Switch) (net : Net Switch Process) (mac : Mac)
    (here : Port Switch) : Prop :=
  topology.attached mac = some here ∨
    ∃ there, topology.link here = some there ∧ net.Enters there.1 mac

/-- Entries are added only, and the new ones point toward their hosts. -/
structure Extends (topology : Topology Switch) (net after : Net Switch Process) : Prop where
  grown : ∀ mac s port, net.hop mac s = some port → after.hop mac s = some port
  toward : ∀ mac s port, after.hop mac s = some port →
    net.hop mac s = some port ∨ net.hop mac s = none ∧ Toward topology net mac (s, port)

section Growth

variable {topology : Topology Switch} {net after : Net Switch Process} {mac : Mac}

theorem Extends.of_eq (topology : Topology Switch)
    (same : ∀ s, after.hosts s = net.hosts s) : Extends topology net after := by
  have hop (mac : Mac) (s : Switch) : after.hop mac s = net.hop mac s :=
    congrArg (fun hosts => entryPort hosts mac) (same s)
  constructor
  · intro mac s port entered
    rwa [hop]
  · intro mac s port entered
    rw [hop] at entered
    exact .inl entered

theorem Extends.enters (extension : Extends topology net after) {s : Switch}
    (entered : net.Enters s mac) : after.Enters s mac := by
  obtain ⟨port, entry⟩ := entered
  exact ⟨port, extension.grown mac s port entry⟩

theorem Toward.later {here : Port Switch} (toward : Toward topology net mac here)
    (extension : Extends topology net after) : Toward topology after mac here := by
  rcases toward with attached | ⟨there, linked, entered⟩
  · exact .inl attached
  · exact .inr ⟨there, linked, extension.enters entered⟩

end Growth

/-! ## The invariant -/

/-- The ARP frames that a message of the controller sends, or lets the switch
send, are those of hosts that the controller has entered. -/
structure Sent.Safe (net : Net Switch Process) (s : Switch) (sent : Sent) : Prop where
  about : ∀ inPort frame, sent.about = some (inPort, frame) → frameType frame = arpData →
    net.Enters s (frameSrc frame)
  packet : ∀ packet, PacketOut.decode sent.bytes = some packet → frameType packet.data ≠ arpData
  flow : ∀ flow, FlowMod.decode sent.bytes = some flow → flow.fields.dlType = arpData →
    net.Enters s flow.fields.dlSrc

def Message.Safe (topology : Topology Switch) (net : Net Switch Process) (s : Switch)
    (message : Message) : Prop :=
  ∀ inPort frame, message.about = some (inPort, frame) → frameType frame = arpData →
    Toward topology net (frameSrc frame) (s, inPort)

/-- An entry of the switch starts a route to the port of the host. -/
def Leads (topology : Topology Switch) (net : Net Switch Process) (mac : Mac) (s : Switch) : Prop :=
  ∃ home path, topology.attached mac = some home ∧
    Route topology.link (net.hop mac) home s path

structure Traced (topology : Topology Switch) (net : Net Switch Process) : Prop where
  wire : ∀ here frame, (here, frame) ∈ net.wire → frameType frame = arpData →
    Toward topology net (frameSrc frame) here
  inbox : ∀ s, ∀ message ∈ net.inbox s, message.Safe topology net s
  outbox : ∀ s, ∀ sent ∈ net.outbox s, sent.Safe net s
  routes : ∀ mac s, net.Enters s mac → Leads topology net mac s

section Invariant

variable {topology : Topology Switch} {net after : Net Switch Process} {s : Switch}

theorem Traced.initial (cbench : Switch → Bool) :
    Traced topology (Net.initial cbench) where
  wire := by
    intro here frame impossible
    cases impossible
  inbox := by
    intro s message impossible
    cases impossible
  outbox := by
    intro s sent impossible
    cases impossible
  routes := by
    rintro mac s ⟨port, impossible⟩
    cases impossible

theorem Sent.Safe.later {sent : Sent} (safe : sent.Safe net s)
    (extension : Extends topology net after) : sent.Safe after s := by
  constructor
  · intro inPort frame about arp
    exact extension.enters (safe.about inPort frame about arp)
  · exact safe.packet
  · intro flow decoded arp
    exact extension.enters (safe.flow flow decoded arp)

/-- What a switch sends out for the controller are frames of entered hosts. -/
theorem Sent.Safe.emits {sent : Sent} (safe : sent.Safe net s) {port : UInt16} {frame : Frame}
    (emits : Emits sent port frame) (arp : frameType frame = arpData) :
    net.Enters s (frameSrc frame) := by
  cases emits with
  | buffered _ _ about _ => exact safe.about _ _ about arp
  | data decoded _ _ => exact absurd arp (safe.packet _ decoded)
  | flow _ about _ => exact safe.about _ _ about arp

theorem Leads.later {mac : Mac} (leads : Leads topology net mac s)
    (extension : Extends topology net after) : Leads topology after mac s := by
  obtain ⟨home, path, attached, route⟩ := leads
  exact ⟨home, path, attached, route.mono (extension.grown mac)⟩

/-- A new entry starts a route as well. -/
theorem Traced.leads (traced : Traced topology net) (extension : Extends topology net after)
    {mac : Mac} (entered : after.Enters s mac) : Leads topology after mac s := by
  obtain ⟨port, entry⟩ := entered
  rcases extension.toward mac s port entry with old | ⟨none, attached | ⟨there, linked, known⟩⟩
  · exact (traced.routes mac s ⟨port, old⟩).later extension
  · have more : ∃ path, Route topology.link (after.hop mac) (s, port) s path :=
      Route.learn (extension.grown mac) none entry (.inl rfl)
    obtain ⟨path, route⟩ := more
    exact ⟨(s, port), path, attached, route⟩
  · obtain ⟨home, rest, attached, route⟩ := traced.routes mac there.1 known
    obtain ⟨path, longer⟩ := Route.learn (extension.grown mac) none entry
      (.inr ⟨there.1, there.2, rest, linked, route⟩)
    exact ⟨home, path, attached, longer⟩

theorem Traced.put (traced : Traced topology net) {there : Port Switch} {frame : Frame}
    (toward : frameType frame = arpData → Toward topology net (frameSrc frame) there) :
    Traced topology (net.put there frame) where
  wire := by
    intro here other member arp
    rcases List.mem_append.mp member with old | new
    · exact traced.wire here other old arp
    · cases List.mem_singleton.mp new
      exact toward arp
  inbox := traced.inbox
  outbox := fun t sent member => (traced.outbox t sent member).later (.of_eq topology fun _ => rfl)
  routes := traced.routes

/-- A frame of an entered host goes over a link. -/
theorem Traced.emit (traced : Traced topology net) {port : UInt16} {frame : Frame}
    (entered : frameType frame = arpData → net.Enters s (frameSrc frame)) :
    Traced topology (net.emit topology (s, port) frame) := by
  unfold Net.emit
  split
  · exact traced
  · rename_i there linked
    apply traced.put
    intro arp
    exact .inr ⟨(s, port), topology.symmetric linked, entered arp⟩

variable [DecidableEq Switch]

theorem Traced.tell (traced : Traced topology net) {message : Message}
    (safe : message.Safe topology net s) : Traced topology (net.tell s message) where
  wire := traced.wire
  inbox := by
    intro t other member
    rcases Net.mem_tell member with old | ⟨rfl, rfl⟩
    · exact traced.inbox t other old
    · exact safe
  outbox := fun t sent member => (traced.outbox t sent member).later (.of_eq topology fun _ => rfl)
  routes := traced.routes

theorem Traced.control (traced : Traced topology net) {process : Process} {sent : List Sent}
    (extension : Extends topology net (net.control s process sent))
    (safe : ∀ new ∈ sent, new.Safe (net.control s process sent) s) :
    Traced topology (net.control s process sent) where
  wire := by
    intro here frame member arp
    exact (traced.wire here frame member arp).later extension
  inbox := by
    intro t message member inPort frame about arp
    exact (traced.inbox t message member inPort frame about arp).later extension
  outbox := by
    intro t other member
    rcases Net.mem_control member with old | ⟨rfl, new⟩
    · exact (traced.outbox t other old).later extension
    · exact safe other new
  routes := fun mac t entered => traced.leads extension entered

end Invariant

/-! ## Steps of the controllers -/

section Controllers

variable {topology : Topology Switch} {net : Net Switch Process}

theorem frameType_nil : frameType [] ≠ arpData := by decide

theorem frameType_discovery (message : DiscoveryMessage) :
    frameType (discoveryFrame message) = lldpData :=
  (discoveryFrame_form message).type

/-- The messages of a handler are safe, once the sender of an ARP frame is entered. -/
theorem Answers.safe {call : Call} {s : Switch} {about : Option (UInt16 × Frame)}
    {bytes : List UInt8} (answers : Answers call about bytes)
    (entered : ∀ inPort frame, about = some (inPort, frame) → frameType frame = arpData →
      net.Enters s (frameSrc frame)) : Sent.Safe net s ⟨bytes, about⟩ where
  about := entered
  packet := by
    intro packet decoded
    cases answers with
    | plain noPacket _ => cases noPacket.symm.trans decoded
    | flood _ _ isPacket empty _ =>
        cases Option.some.inj (isPacket.symm.trans decoded)
        rw [empty]
        exact frameType_nil
    | reply _ _ _ isReply =>
        rw [isReply, discoveryPacket_decode] at decoded
        cases decoded
        exact ne_of_eq_of_ne (frameType_discovery _) (by decide)
    | flow _ _ noPacket _ _ _ => cases noPacket.symm.trans decoded
  flow := by
    intro flow decoded arp
    cases answers with
    | plain _ noFlow => cases noFlow.symm.trans decoded
    | flood _ _ _ _ noFlow => cases noFlow.symm.trans decoded
    | reply _ _ _ isReply =>
        rw [isReply, packetOut_not_flowMod] at decoded
        cases decoded
    | flow isAbout _ _ isFlow type src =>
        cases Option.some.inj (isFlow.symm.trans decoded)
        rw [src]
        exact entered _ _ isAbout (type.symm.trans arp)

/-- The messages of a discovery thread are discovery packets. -/
theorem shared_safe {index : Nat} {bytes : List UInt8} {p q : Process} {s : Switch}
    (step : Process.Step p (.shared index bytes) q) : Sent.Safe net s ⟨bytes, none⟩ := by
  have discovery : ∃ port message, bytes = (discoveryPacket port message).encode := by
    rcases step.shared_cases with ⟨port, same⟩ | ⟨_, reply, -, same⟩
    · exact ⟨_, _, same⟩
    · exact ⟨_, _, same⟩
  obtain ⟨port, message, rfl⟩ := discovery
  constructor
  · intro inPort frame impossible
    cases impossible
  · intro packet decoded
    rw [discoveryPacket_decode] at decoded
    cases decoded
    exact ne_of_eq_of_ne (frameType_discovery _) (by decide)
  · intro flow decoded
    rw [packetOut_not_flowMod] at decoded
    cases decoded

variable [DecidableEq Switch]

/-- A controller that learns no host extends nothing. -/
theorem Extends.kept {s : Switch} {process : Process} {sent : List Sent}
    (kept : process.ani.hosts.contents = (net.controllers s).ani.hosts.contents) :
    Extends topology net (net.control s process sent) := by
  apply Extends.of_eq
  intro t
  unfold Net.hosts
  by_cases same : t = s
  · rw [same, Net.control_self, kept]
  · rw [Net.control_other same]

/-- An ARP frame gives at most an entry that points to where it came in. -/
theorem Extends.learned {s : Switch} {process : Process} {sent : List Sent} {entry : SwitchHost}
    (learned : process.ani.hosts.contents =
      insertNew SwitchHost.macAddr (net.controllers s).ani.hosts.contents entry)
    (toward : Toward topology net entry.macAddr (s, entry.portNo)) :
    Extends topology net (net.control s process sent) := by
  have hop (mac : Mac) : (net.control s process sent).hop mac s =
      entryPort (insertNew SwitchHost.macAddr (net.hosts s) entry) mac := by
    unfold Net.hop Net.hosts
    rw [Net.control_self, learned]
  have others {t : Switch} (other : t ≠ s) (mac : Mac) :
      (net.control s process sent).hop mac t = net.hop mac t := by
    unfold Net.hop Net.hosts
    rw [Net.control_other other]
  constructor
  · intro mac t port entered
    by_cases same : t = s
    · subst same
      rw [hop]
      exact entryPort_insertNew entered
    · rwa [others same]
  · intro mac t port entered
    by_cases same : t = s
    · subst same
      rw [hop] at entered
      rcases entryPort_insertNew_cases entered with old | ⟨none, rfl, rfl⟩
      · exact .inl old
      · exact .inr ⟨none, toward⟩
    · rw [others same] at entered
      exact .inl entered

theorem Traced.silent (traced : Traced topology net) {s : Switch} {event : Event}
    {process : Process} {tables : Tables} (step : Process.Step (net.controllers s) event process)
    (shows : (net.controllers s).ani.Shows tables) (online : (net.controllers s).place.Online)
    (sightings : event.sightings = []) : Traced topology (net.control s process []) := by
  apply traced.control (.kept (step.hosts_kept shows online sightings))
  intro sent impossible
  cases impossible

/-- A handler enters the sender of an ARP frame before it answers. -/
theorem Traced.handled (traced : Traced topology net) {s : Switch} {call : Call}
    {process : Process} {message : Message} {tables : Tables}
    (step : Process.Step (net.controllers s) (.handled call) process)
    (told : message ∈ net.inbox s) (takes : Takes call message.bytes) (valid : message.Valid)
    (shows : (net.controllers s).ani.Shows tables) (online : (net.controllers s).place.Online)
    (allocated : call.env.allocated 0 = true) :
    Traced topology (net.control s process
      (call.sent.map fun bytes => ⟨bytes, message.about⟩)) := by
  have answered {entered : Net Switch Process}
      (enters : ∀ inPort frame, message.about = some (inPort, frame) →
        frameType frame = arpData → entered.Enters s (frameSrc frame)) :
      ∀ new ∈ call.sent.map fun bytes => Sent.mk bytes message.about, new.Safe entered s := by
    intro new member
    obtain ⟨bytes, sent, rfl⟩ := List.mem_map.mp member
    exact (answers_of_handled takes valid shows step sent).safe enters
  by_cases learns : call.handler = .packout ∧ IsArp call.message
  · obtain ⟨handler, arp⟩ := learns
    obtain ⟨inPort, frame, about⟩ := (handler_eq_packout_iff takes valid).mp handler
    obtain ⟨readPort, readSrc, readType⟩ := (valid.report about).read takes.whole
    have learned := step.hosts_learned shows handler allocated arp
    have toward := traced.inbox s message told inPort frame about (readType.symm.trans arp)
    rw [← readSrc, ← readPort] at toward
    apply traced.control (.learned learned toward)
    apply answered
    intro port other isAbout _
    cases about.symm.trans isAbout
    unfold Net.Enters Net.hop Net.hosts
    rw [Net.control_self, learned, ← readSrc]
    exact entryPort_insertNew_self
  · have sightings : (Event.handled call).sightings = [] := if_neg learns
    apply traced.control (.kept (step.hosts_kept shows online sightings))
    apply answered
    intro inPort frame about arp
    -- a message about an ARP frame is one that `action_packout` learns from
    obtain ⟨-, -, readType⟩ := (valid.report about).read takes.whole
    exact absurd ⟨(handler_eq_packout_iff takes valid).mpr ⟨inPort, frame, about⟩,
      readType.trans arp⟩ learns

end Controllers

/-! ## Every run -/

variable [DecidableEq Switch] {topology : Topology Switch} {cbench : Switch → Bool}
variable {labels : List (Label Switch Event)} {net next : Net Switch Process}
variable {label : Label Switch Event}

theorem Traced.step (traced : Traced topology net) (step : Step topology net label next)
    (valid : ∀ s, ∀ message ∈ net.inbox s, message.Valid)
    (tables : ∀ s, ∃ tables, (net.controllers s).ani.Shows tables)
    (online : ∀ s, (net.controllers s).place.Online)
    (allocates : ∀ s call, label = .controller s (.handled call) → call.env.allocated 0 = true) :
    Traced topology next := by
  cases step with
  | hostSent attached => exact traced.put fun _ => .inl attached
  | @reported here frame bytes member reports =>
      apply traced.tell
      intro inPort other about arp
      cases about
      exact traced.wire here frame member arp
  | @forwarded here frame sent flow port member told decoded type src outputs =>
      apply traced.emit
      intro arp
      rw [← src]
      exact (traced.outbox here.1 sent told).flow flow decoded (type.trans arp)
  | spoke _ _ =>
      apply traced.tell
      intro inPort frame impossible
      cases impossible
  | @executed s sent port frame told emits =>
      exact traced.emit fun arp => (traced.outbox s sent told).emits emits arp
  | @controller s event process sent taken exchanges =>
      obtain ⟨_, shows⟩ := tables s
      cases exchanges with
      | received _ _ => exact traced.silent taken shows (online s) rfl
      | @handled call message told takes =>
          exact traced.handled taken told takes (valid s message told) shows (online s)
            (allocates s call rfl)
      | shared =>
          have taken : Process.Step (net.controllers s) _ process := taken
          apply traced.control (.kept (taken.hosts_kept shows (online s) rfl))
          intro sent member
          cases List.mem_singleton.mp member
          exact shared_safe taken
      | quiet quiet =>
          have sightings : event.sightings = [] := by
            cases event with
            | handled call => cases quiet
            | _ => rfl
          exact traced.silent taken shows (online s) sightings

/-- Every entry that a handled message asks for is allocated. -/
def Allocating (labels : List (Label Switch Event)) : Prop :=
  ∀ s call, Label.controller s (.handled call) ∈ labels → call.env.allocated 0 = true

theorem Reaches.traced (run : Reaches topology cbench labels net) (lasting : Lasting labels)
    (allocating : Allocating labels) : Traced topology net := by
  induction run with
  | refl => exact Traced.initial cbench
  | @snoc labels middle finish label earlier step inductionHypothesis =>
      have lasted : Lasting labels := fun s lost => lasting s (List.mem_append_left _ lost)
      have before := inductionHypothesis lasted fun s call member =>
        allocating s call (List.mem_append_left _ member)
      have tables (s : Switch) : ∃ tables, (middle.controllers s).ani.Shows tables :=
        have ⟨tables, shows, _⟩ := Reaches.tables earlier s
        ⟨tables, shows⟩
      apply before.step step (Reaches.valid earlier) tables
      · intro s
        exact (Reaches.session earlier lasted s).hosts.1
      · rintro s call rfl
        exact allocating s call (List.mem_append_right _ List.mem_cons_self)

/-- Every entry of every hosts table starts a route that follows the entries
for its address over the links; it visits no switch twice and ends at the port
where the host is attached. -/
theorem hosts_lead_home (run : Reaches topology cbench labels net) (lasting : Lasting labels)
    (allocating : Allocating labels) {s : Switch} {host : SwitchHost}
    (entered : host ∈ net.hosts s) :
    net.hop host.macAddr s = some host.portNo ∧
      ∃ home path, topology.attached host.macAddr = some home ∧ path.Nodup ∧
        Route topology.link (net.hop host.macAddr) home s path := by
  obtain ⟨tables, shows, distinct⟩ := Reaches.tables run s
  rw [← shows.hosts.contents_eq] at distinct
  have entry : net.hop host.macAddr s = some host.portNo := entryPort_of_mem distinct entered
  obtain ⟨home, path, attached, route⟩ :=
    (Reaches.traced run lasting allocating).routes host.macAddr s ⟨_, entry⟩
  exact ⟨entry, home, path, attached, route.nodup, route⟩

/-- A host asks for another one. -/
def hostRequest : PacketInMessage where
  xid := 7
  bufferId := 256
  totalLen := 42
  inPort := 1
  reason := 0
  data := ethernetFrame Mac.broadcast hostA arpData
    (arpPacket 1 hostA 0x0a000001 Mac.broadcast 0x0a000002)

def hostFlood : PacketOut := ⟨7, 256, 1, [⟨ofppFlood, 0⟩], []⟩

theorem hostRequest_delivered :
    ∃ call process, (Process.initial false).deliver hostRequest.encode .calm =
        some (call, process) ∧
      call.sent = [hostFlood.encode] ∧ call.env.allocated 0 = true ∧
      process.ani.hosts.contents.map Sighting.ofHost = [⟨hostA, 1, 0x0a000001⟩] := by
  have computed : ((Process.initial false).deliver hostRequest.encode .calm).map
      (fun answered => (answered.1.sent, answered.1.env.allocated 0,
        answered.2.ani.hosts.contents.map Sighting.ofHost)) =
      some ([hostFlood.encode], true, [⟨hostA, 1, 0x0a000001⟩]) := by decide
  obtain ⟨⟨call, process⟩, delivered, all⟩ := Option.map_eq_some_iff.mp computed
  simp only [Prod.mk.injEq] at all
  exact ⟨call, process, delivered, all⟩

/-- A broadcast is flooded over a link, and the second switch enters its sender. -/
theorem hosts_lead_home_twoSwitches :
    ∃ (labels : List (Label Bool Event)) (net : Net Bool Process),
      Reaches (twoSwitches hostA) (fun _ => false) labels net ∧
      ∃ host ∈ net.hosts true, host.macAddr = hostA ∧
        ∃ home path, (twoSwitches hostA).attached host.macAddr = some home ∧ path.Nodup ∧
          Route (twoSwitches hostA).link (net.hop host.macAddr) home true path := by
  obtain ⟨call, process, delivered, sent, allocated, entries⟩ := hostRequest_delivered
  obtain ⟨host, single, sighted⟩ := List.map_eq_singleton_iff.mp entries
  have reports : Reports hostRequest.encode 1 hostRequest.data :=
    reports_encode (by decide) (by decide)
  let start : Net Bool Process := Net.initial fun _ => false
  have asked : Step (twoSwitches hostA) start _ (start.put (false, 1) hostRequest.data) :=
    .hostSent rfl
  have answered := Run.cons asked (reported_run (false, 1) rfl reports delivered)
  have flooded : hostFlood.encode ∈ call.sent := by
    rw [sent]
    exact List.mem_cons_self
  have emits : Emits ⟨hostFlood.encode, some (1, hostRequest.data)⟩ 2 hostRequest.data :=
    .buffered (PacketOut.decode_encode (by decide)) rfl rfl ⟨_, List.mem_cons_self, by decide⟩
  have linked : (twoSwitches hostA).link (false, 2) = some (true, 1) := rfl
  have run := answered.trans
    (executed_run linked rfl (Net.mem_answers flooded) emits reports delivered)
  obtain ⟨last, whole, same⟩ : ∃ last : Net Bool Process,
      Reaches (twoSwitches hostA) (fun _ => false) _ last ∧ last.controllers true = process :=
    ⟨_, run, Net.control_self⟩
  have entered : host ∈ last.hosts true := by
    unfold Net.hosts
    rw [same, single]
    exact List.mem_cons_self
  refine ⟨_, last, whole, host, entered, congrArg Sighting.mac sighted, ?_⟩
  apply (hosts_lead_home whole _ _ entered).2
  · intro s lost
    simp at lost
  · intro s other member
    simp at member
    rcases member with ⟨-, rfl⟩ | ⟨-, rfl⟩
    · exact allocated
    · exact allocated

end DAIM.Network
