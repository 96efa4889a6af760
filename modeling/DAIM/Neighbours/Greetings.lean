import DAIM.Neighbours.Basic

/-!
# Greetings over the links

A text that a controller prints has gone through three stages: a features reply
told the datapath to the controller at the other end of a link, a discovery
thread of that controller sent it over the link, and it was printed here.
-/

namespace DAIM.Neighbours

open DAIM.Library DAIM.OpenFlow DAIM.Ani21
open DAIM.Ani41 (Call Takes framePacket)
open DAIM.Network (Port Frame Topology Reports Message Sent Outputs Emits Net Label Step Reaches
  events)

variable {Switch : Type*}

/-! ## The stages -/

/-- A features reply tells the controller these values. -/
def Tells (s : Switch) (info : SwitchInfo) (label : Label Switch Event) : Prop :=
  label = .controller s (.described info)

/-- A discovery thread sends the datapath out of the port. -/
def Announces (here : Port Switch) (info : SwitchInfo) (label : Label Switch Event) : Prop :=
  ∃ index portno, label = .controller here.1
      (.shared index (framePacket portno (greetingFrame info.datapathId)).encode) ∧
    Outputs (framePacket portno (greetingFrame info.datapathId)).actions
      (framePacket portno (greetingFrame info.datapathId)).inPort here.2

/-- `action_packout` prints the datapath, for a frame that came in at the port. -/
def Prints (here : Port Switch) (info : SwitchInfo) (label : Label Switch Event) : Prop :=
  ∃ call, label = .controller here.1 (.handled call) ∧
    (parsePacketIn call.message).inPort = here.2 ∧
    printed call.handler call.message = [greeting info.datapathId]

/-- The frame carries a datapath from the port that the link comes from. -/
def Arrives (topology : Topology Switch) (labels : List (Label Switch Event)) (here : Port Switch)
    (frame : Frame) : Prop :=
  ∃ there info, topology.link there = some here ∧ frame = greetingFrame info.datapathId ∧
    Happened labels [Tells there.1 info, Announces there info]

/-- The text names a neighbour, and ends the three stages. -/
def Named (topology : Topology Switch) (labels : List (Label Switch Event)) (s : Switch)
    (text : List UInt8) : Prop :=
  ∃ port there info, topology.link (s, port) = some there ∧ text = greeting info.datapathId ∧
    Happened labels [Tells there.1 info, Announces there info, Prints (s, port) info]

/-- The frames that a message lets the switch send. -/
structure Announcing (topology : Topology Switch) (labels : List (Label Switch Event)) (s : Switch)
    (sent : Sent) : Prop where
  emits : ∀ port frame here, Emits sent port frame → frameType frame = lldpData →
    topology.link (s, port) = some here → Arrives topology labels here frame
  flow : ∀ flow, FlowMod.decode sent.bytes = some flow → flow.fields.dlType ≠ lldpData

section Later

variable {topology : Topology Switch} {labels : List (Label Switch Event)} {s : Switch}

theorem Arrives.later {here : Port Switch} {frame : Frame}
    (arrives : Arrives topology labels here frame) (more : List (Label Switch Event)) :
    Arrives topology (labels ++ more) here frame := by
  obtain ⟨there, info, linked, same, happened⟩ := arrives
  exact ⟨there, info, linked, same, happened.later more⟩

theorem Named.later {text : List UInt8} (named : Named topology labels s text)
    (more : List (Label Switch Event)) : Named topology (labels ++ more) s text := by
  obtain ⟨port, there, info, linked, same, happened⟩ := named
  exact ⟨port, there, info, linked, same, happened.later more⟩

theorem Announcing.later {sent : Sent} (announcing : Announcing topology labels s sent)
    (more : List (Label Switch Event)) : Announcing topology (labels ++ more) s sent where
  emits := by
    intro port frame here emits lldp linked
    exact (announcing.emits port frame here emits lldp linked).later more
  flow := announcing.flow

end Later

/-! ## What is sent -/

section Sending

variable {topology : Topology Switch} {labels : List (Label Switch Event)} {s : Switch}

/-- The main thread sends no discovery frames on. -/
theorem Announcing.answer {call : Call} {bytes : List UInt8}
    {about : Option (UInt16 × Frame)} (answer : Modest.Answer call.handler call.message bytes)
    (other : ∀ inPort frame, about = some (inPort, frame) → frameType frame ≠ lldpData) :
    Announcing topology labels s ⟨bytes, about⟩ where
  emits := by
    intro port frame here emits lldp linked
    cases emits with
    | buffered _ _ isAbout _ => exact absurd lldp (other _ _ isAbout)
    | data decoded filled _ => exact absurd (answer.modest.packet _ decoded) filled
    | flow _ isAbout _ => exact absurd lldp (other _ _ isAbout)
  flow := answer.modest.flow

theorem framePacket_decode (port : UInt16) (datapath : UInt64) :
    PacketOut.decode (framePacket port (greetingFrame datapath)).encode =
      some (framePacket port (greetingFrame datapath)) := by
  rw [← greetingPacketOut_bytes]
  exact greetingPacketOut_decode port datapath

theorem Announcing.share {info : SwitchInfo} {index : Nat} {portno : UInt16}
    (told : Happened labels [Tells s info]) :
    Announcing topology (labels ++ [.controller s
      (.shared index (framePacket portno (greetingFrame info.datapathId)).encode)]) s
      ⟨(framePacket portno (greetingFrame info.datapathId)).encode, none⟩ where
  emits := by
    intro port frame here emits lldp linked
    have decoded := framePacket_decode portno info.datapathId
    cases emits with
    | buffered _ _ isAbout _ => cases isAbout
    | data found _ outputs =>
        cases Option.some.inj (decoded.symm.trans found)
        exact ⟨(s, port), info, linked, rfl, told.next ⟨index, portno, rfl, outputs⟩⟩
    | flow _ isAbout _ => cases isAbout
  flow := by
    intro flow decoded
    exact absurd (FlowMod.type_of_decode decoded) (show ofptPacketOut ≠ ofptFlowMod by decide)

end Sending

/-! ## What is told and printed -/

section Telling

variable {topology : Topology Switch} {labels : List (Label Switch Event)} {s : Switch}

/-- What a controller was told, it was told in a step of the network. -/
theorem happened_of_told [DecidableEq Switch] {info : SwitchInfo}
    (told : info ∈ infos (events s labels)) : Happened labels [Tells s info] := by
  obtain ⟨event, inEvents, isInfo⟩ := List.mem_filterMap.mp told
  obtain ⟨label, member, isEvent⟩ := List.mem_filterMap.mp inEvents
  have same : label = .controller s (.described info) := by
    cases label with
    | controller t other =>
        have here : (if t = s then some other else none) = some event := isEvent
        split at here
        · rename_i same
          cases here
          cases event with
          | described described =>
              cases isInfo
              rw [same]
          | _ => cases isInfo
        · cases here
    | _ => cases isEvent
  exact ⟨[label], List.singleton_sublist.mpr member, .cons same .nil⟩

/-- A report of a discovery frame is printed as the datapath that it carries. -/
theorem printed_greeting {call : Call} {bytes : List UInt8} {inPort : UInt16}
    {info : SwitchInfo} (takes : Takes call bytes) (packout : call.handler = .packout)
    (lldp : (parsePacketIn call.message).type = lldpData)
    (reports : Reports bytes inPort (greetingFrame info.datapathId)) :
    printed call.handler call.message = [greeting info.datapathId] := by
  obtain ⟨rest, text⟩ := greeting_payload takes.whole reports.part reports.enough
  rw [printed, if_pos ⟨packout, lldp⟩, text, cString_append (zero_notMem_greeting _)]

end Telling

/-! ## The invariant -/

structure Announced (topology : Topology Switch) (labels : List (Label Switch Event))
    (net : Net Switch Process) : Prop where
  wire : ∀ here frame, (here, frame) ∈ net.wire → frameType frame = lldpData →
    Arrives topology labels here frame
  inbox : ∀ s, ∀ message ∈ net.inbox s, ∀ inPort frame, message.about = some (inPort, frame) →
    frameType frame = lldpData → Arrives topology labels (s, inPort) frame
  outbox : ∀ s, ∀ sent ∈ net.outbox s, Announcing topology labels s sent
  texts : ∀ s, ∀ text ∈ (net.controllers s).ani.texts, Named topology labels s text

section Invariant

variable {topology : Topology Switch} {labels : List (Label Switch Event)}
  {net : Net Switch Process}

theorem Announced.initial (cbench : Switch → Bool) :
    Announced topology [] (Net.initial cbench) where
  wire := nofun
  inbox := nofun
  outbox := nofun
  texts := nofun

theorem Announced.later (announced : Announced topology labels net)
    (more : List (Label Switch Event)) : Announced topology (labels ++ more) net where
  wire here frame member lldp := (announced.wire here frame member lldp).later more
  inbox s message member inPort frame about lldp :=
    (announced.inbox s message member inPort frame about lldp).later more
  outbox s sent member := (announced.outbox s sent member).later more
  texts s text member := (announced.texts s text member).later more

theorem Announced.put (announced : Announced topology labels net) {here : Port Switch}
    {frame : Frame} (arrives : frameType frame = lldpData → Arrives topology labels here frame) :
    Announced topology labels (net.put here frame) where
  wire other old member lldp := by
    rcases List.mem_append.mp member with before | new
    · exact announced.wire other old before lldp
    · cases List.mem_singleton.mp new
      exact arrives lldp
  inbox := announced.inbox
  outbox := announced.outbox
  texts := announced.texts

theorem Announced.emit (announced : Announced topology labels net) {here : Port Switch}
    {frame : Frame} (arrives : ∀ there, topology.link here = some there →
      frameType frame = lldpData → Arrives topology labels there frame) :
    Announced topology labels (net.emit topology here frame) := by
  unfold Net.emit
  split
  · exact announced
  · rename_i there linked
    exact announced.put (arrives there linked)

variable [DecidableEq Switch]

theorem Announced.tell (announced : Announced topology labels net) {s : Switch}
    {new : Message} (arrives : ∀ inPort frame, new.about = some (inPort, frame) →
      frameType frame = lldpData → Arrives topology labels (s, inPort) frame) :
    Announced topology labels (net.tell s new) where
  wire := announced.wire
  inbox t message member := by
    rcases Net.mem_tell member with old | ⟨rfl, rfl⟩
    · exact announced.inbox t message old
    · exact arrives
  outbox := announced.outbox
  texts := announced.texts

theorem Announced.control (announced : Announced topology labels net) {s : Switch}
    {process : Process} {sent : List Sent}
    (sends : ∀ one ∈ sent, Announcing topology labels s one)
    (texts : ∀ text ∈ process.ani.texts, Named topology labels s text) :
    Announced topology labels (net.control s process sent) where
  wire := announced.wire
  inbox := announced.inbox
  outbox t one member := by
    rcases Net.mem_control member with old | ⟨rfl, new⟩
    · exact announced.outbox t one old
    · exact sends one new
  texts t text member := by
    by_cases same : t = s
    · subst same
      rw [Net.control_self] at member
      exact texts text member
    · rw [Net.control_other same] at member
      exact announced.texts t text member

/-- A step of a process that prints no text. -/
theorem Announced.silent (announced : Announced topology labels net) {s : Switch}
    {event : Event} {process : Process} {sent : List Sent}
    (taken : Process.Step (net.controllers s) event process) (prints : event.prints = [])
    (sends : ∀ one ∈ sent, Announcing topology labels s one) :
    Announced topology labels (net.control s process sent) := by
  apply announced.control sends
  rw [taken.texts, prints, List.append_nil]
  exact announced.texts s

theorem Announced.handled (announced : Announced topology labels net) {s : Switch} {call : Call}
    {about : Option (UInt16 × Frame)} {process : Process}
    (taken : Process.Step (net.controllers s) (.handled call) process)
    (isAbout : About (net.inbox s) call about)
    (valid : ∀ message ∈ net.inbox s, message.Valid) :
    Announced topology (labels ++ [.controller s (.handled call)])
      (net.control s process (call.sent.map fun bytes => ⟨bytes, about⟩)) := by
  have later := announced.later [.controller s (.handled call)]
  unfold About at isAbout
  split at isAbout
  · rename_i packout
    obtain ⟨message, told, takes, rfl⟩ := isAbout
    obtain ⟨inPort, frame, known⟩ :=
      (Network.handler_eq_packout_iff takes (valid message told)).mp packout
    have reports := (valid message told).report known
    obtain ⟨readPort, -, readType⟩ := reports.read takes.whole
    apply later.control
    · intro one member
      obtain ⟨bytes, sent, rfl⟩ := List.mem_map.mp member
      have answer := taken.modest bytes sent
      apply Announcing.answer answer
      intro other found same lldp
      cases known.symm.trans same
      exact answer.other packout (readType.trans lldp)
    · intro text member
      rw [taken.texts] at member
      rcases List.mem_append.mp member with old | new
      · exact later.texts s text old
      · by_cases lldp : (parsePacketIn call.message).type = lldpData
        · have arrives := announced.inbox s message told inPort frame known
            (readType.symm.trans lldp)
          obtain ⟨there, info, linked, rfl, happened⟩ := arrives
          have prints := printed_greeting takes packout lldp reports
          have same : text = greeting info.datapathId := by
            have member : text ∈ printed call.handler call.message := new
            rw [prints] at member
            exact List.mem_singleton.mp member
          exact ⟨inPort, there, info, topology.symmetric linked, same,
            happened.next ⟨call, rfl, readPort, prints⟩⟩
        · have silent : Event.prints (.handled call) = [] := if_neg fun both => lldp both.2
          rw [silent] at new
          cases new
  · rename_i other
    subst isAbout
    apply later.silent taken (if_neg fun both => other both.1)
    intro one member
    obtain ⟨bytes, sent, rfl⟩ := List.mem_map.mp member
    exact .answer (taken.modest bytes sent) nofun

/-- A thread sends a datapath that its controller was told. -/
theorem Announced.shared (announced : Announced topology labels net) {s : Switch} {index : Nat}
    {bytes : List UInt8} {process : Process} {cbench : Bool}
    (past : Process.Reaches cbench (events s labels) (net.controllers s))
    (taken : Process.Step (net.controllers s) (.shared index bytes) process) :
    Announced topology (labels ++ [.controller s (.shared index bytes)])
      (net.control s process [⟨bytes, none⟩]) := by
  apply (announced.later _).silent taken rfl
  intro one member
  cases List.mem_singleton.mp member
  obtain ⟨earlier, middle, cut⟩ := past.created taken.shared_inside
  have before := past
  rw [cut] at before
  obtain ⟨first, second, older, newer, portno, -, -, -, newAt, -, -, rfl⟩ := before.announces taken
  rw [← cut] at newAt
  exact .share (happened_of_told (List.mem_of_getElem? newAt))

end Invariant

/-! ## Runs -/

/-- No host sends discovery frames. -/
def HostsSilent (labels : List (Label Switch Event)) : Prop :=
  ∀ here frame, Label.hostSent here frame ∈ labels → frameType frame ≠ lldpData

section Runs

variable [DecidableEq Switch] {topology : Topology Switch} {cbench : Switch → Bool}
variable {labels : List (Label Switch Event)} {net : Net Switch Process}

theorem Reaches.announced (run : Reaches topology cbench labels net)
    (hosts : HostsSilent labels) : Announced topology labels net := by
  induction run with
  | refl => exact .initial cbench
  | @snoc labels middle net label earlier step inductionHypothesis =>
      have announced := inductionHypothesis fun here frame member =>
        hosts here frame (List.mem_append_left _ member)
      have later := announced.later [label]
      cases step with
      | @hostSent here frame _ =>
          apply later.put
          intro lldp
          exact absurd lldp (hosts here frame (List.mem_append_right _ List.mem_cons_self))
      | @reported here frame bytes member _ =>
          apply later.tell
          intro inPort other about lldp
          cases about
          exact later.wire here frame member lldp
      | @forwarded here frame sent flow port _ told decoded type _ _ =>
          apply later.emit
          intro there _ lldp
          exact absurd (type.trans lldp) ((later.outbox here.1 sent told).flow flow decoded)
      | spoke _ _ =>
          apply later.tell
          intro inPort frame impossible
          cases impossible
      | @executed s sent port frame told emits =>
          apply later.emit
          intro there linked lldp
          exact (later.outbox s sent told).emits port frame there emits lldp linked
      | @controller s event process sent taken exchanges =>
          cases exchanges with
          | received _ _ => exact later.silent taken rfl nofun
          | handled isAbout => exact announced.handled taken isAbout (Reaches.valid earlier s)
          | shared => exact announced.shared (Reaches.process earlier s) taken
          | quiet quiet =>
              have prints : event.prints = [] := by
                cases event with
                | handled call => cases quiet
                | _ => rfl
              exact later.silent taken prints nofun

/-- Every text on every console is the datapath of the switch at the other end
of a link, as a features reply told it to the controller there.  A discovery
thread of that controller sent it over the link, and then it was printed, for a
frame that came in at this end. -/
theorem greetings_name_neighbours (run : Reaches topology cbench labels net)
    (hosts : HostsSilent labels) {s : Switch} {text : List UInt8}
    (shown : .message text ∈ (net.controllers s).ani.console) : Named topology labels s text :=
  (Reaches.announced run hosts).texts s text
    (List.mem_filterMap.mpr ⟨.message text, shown, rfl⟩)

end Runs

/-! ## One greeting -/

/-- A step of a controller that needs no message of its switch. -/
def Alone : Event → Bool
  | .received _ => false
  | .handled call => decide (call.handler ≠ .packout)
  | _ => true

section Alone

variable [DecidableEq Switch] {topology : Topology Switch} {net : Net Switch Process} {s : Switch}

/-- What a step of a controller leaves for the next one. -/
structure Moved (net next : Net Switch Process) (s : Switch) (process : Process) (event : Event) :
    Prop where
  here : next.controllers s = process
  others : ∀ t, t ≠ s → next.controllers t = net.controllers t
  kept : ∀ sent ∈ net.outbox s, sent ∈ next.outbox s
  sends : ∀ index bytes, event = .shared index bytes → ⟨bytes, none⟩ ∈ next.outbox s

theorem Moved.of_control {process : Process} {sent : List Sent} {event : Event}
    (sends : ∀ index bytes, event = .shared index bytes → ⟨bytes, none⟩ ∈ sent) :
    Moved net (net.control s process sent) s process event where
  here := Net.control_self
  others _ other := Net.control_other other
  kept one member := by
    simp only [Net.control, Function.update_self]
    exact List.mem_append_left _ member
  sends index bytes shared := by
    simp only [Net.control, Function.update_self]
    exact List.mem_append_right _ (sends index bytes shared)

theorem Moved.silent {process : Process} {sent : List Sent} {event : Event}
    (noThread : event.thread? = none) : Moved net (net.control s process sent) s process event := by
  apply Moved.of_control
  rintro index bytes rfl
  cases noThread

theorem alone_step {event : Event} {process : Process}
    (taken : Process.Step (net.controllers s) event process) (alone : Alone event = true) :
    ∃ next, Step topology net (.controller s event) next ∧ Moved net next s process event := by
  cases event with
  | received chunk => cases alone
  | handled call =>
      have other : call.handler ≠ .packout := of_decide_eq_true alone
      have about : About (net.inbox s) call none := by rw [About, if_neg other]
      exact ⟨_, .controller taken (Exchanges.handled about), .silent rfl⟩
  | shared index bytes =>
      refine ⟨_, .controller taken Exchanges.shared, .of_control fun other octets same => ?_⟩
      cases same
      exact List.mem_cons_self
  | created index => exact ⟨_, .controller taken (Exchanges.quiet trivial), .of_control (by simp)⟩
  | _ => exact ⟨_, .controller taken (Exchanges.quiet trivial), .silent rfl⟩

/-- A run of a controller that needs no message is one of the network. -/
theorem alone_run {happened : List Event} {now process : Process}
    (run : Run Process.Step now happened process) (same : net.controllers s = now)
    (alone : happened.all Alone = true) :
    ∃ next, Run (Step topology) net (happened.map (.controller s)) next ∧
      next.controllers s = process ∧ (∀ t, t ≠ s → next.controllers t = net.controllers t) ∧
      ∀ index bytes, .shared index bytes ∈ happened → ⟨bytes, none⟩ ∈ next.outbox s := by
  subst same
  induction run with
  | refl => exact ⟨net, .refl, rfl, fun _ _ => rfl, nofun⟩
  | @snoc happened middle process event _ taken inductionHypothesis =>
      rw [List.all_append, Bool.and_eq_true] at alone
      obtain ⟨before, run, here, others, sent⟩ := inductionHypothesis alone.1
      subst here
      have last : Alone event = true := by simpa using alone.2
      obtain ⟨next, step, moved⟩ : ∃ next, Step topology before (.controller s event) next ∧ _ :=
        alone_step taken last
      refine ⟨next, ?_, moved.here, fun t other => ?_, fun index bytes member => ?_⟩
      · rw [List.map_append]
        exact run.snoc step
      · rw [moved.others t other, others t other]
      · rcases List.mem_append.mp member with old | new
        · exact moved.kept _ (sent index bytes old)
        · exact moved.sends index bytes (List.mem_singleton.mp new).symm

/-- A controller reads one message of its switch. -/
theorem received_step {message : Message} {process : Process} (told : message ∈ net.inbox s)
    (taken : Process.Step (net.controllers s) (.received message.bytes) process) :
    Step topology net (.controller s (.received message.bytes)) (net.control s process []) := by
  have inside : ∀ other ∈ [message], other ∈ net.inbox s := fun other member =>
    List.mem_singleton.mp member ▸ told
  exact .controller taken (Exchanges.received inside (by simp))

/-- A datapath that a controller has sent is read at the other end of a link. -/
theorem greeting_run {here there : Port Switch} {datapath : UInt64} {bytes : List UInt8}
    {now before after : Process} {call : Call} (linked : topology.link here = some there)
    (sent : ⟨(framePacket here.2 (greetingFrame datapath)).encode, none⟩ ∈ net.outbox here.1)
    (reports : Reports bytes there.2 (greetingFrame datapath))
    (same : net.controllers there.1 = now)
    (gets : Process.Step now (.received bytes) before)
    (handles : Process.Step before (.handled call) after)
    (reachable : ∃ cbench labels, Reaches topology cbench labels net) :
    ∃ next, Run (Step topology) net
      [.executed here (greetingFrame datapath), .reported there (greetingFrame datapath) bytes,
        .controller there.1 (.received bytes), .controller there.1 (.handled call)] next ∧
      next.controllers there.1 = after := by
  subst same
  have decoded := framePacket_decode here.2 datapath
  have filled : (greetingFrame datapath).length ≠ 0 := by
    rw [length_greetingFrame]
    decide
  have outputs : Outputs (framePacket here.2 (greetingFrame datapath)).actions
      (framePacket here.2 (greetingFrame datapath)).inPort here.2 :=
    ⟨⟨here.2, 0⟩, List.mem_cons_self, by rw [if_neg (topology.physical linked)]⟩
  have emits : Emits ⟨(framePacket here.2 (greetingFrame datapath)).encode, none⟩ here.2
      (greetingFrame datapath) :=
    .data decoded (fun empty => filled (by
      have empty : greetingFrame datapath = [] := empty
      rw [empty]
      rfl)) outputs
  have executed : Step topology net (.executed here (greetingFrame datapath))
      (net.put there (greetingFrame datapath)) := by
    have step : Step topology net (.executed (here.1, here.2) (greetingFrame datapath))
        (net.emit topology here (greetingFrame datapath)) := .executed sent emits
    rwa [Net.emit, linked] at step
  let arrived := net.put there (greetingFrame datapath)
  let told := arrived.tell there.1 (.report there.2 (greetingFrame datapath) bytes)
  have reported : Step topology arrived (.reported there (greetingFrame datapath) bytes) told :=
    .reported (List.mem_append_right _ List.mem_cons_self) reports
  have received : Step topology told (.controller there.1 (.received bytes))
      (told.control there.1 before []) :=
    received_step (Net.mem_tell_self (.report there.2 (greetingFrame datapath) bytes)) gets
  have run := Run.cons executed (.cons reported (.single received))
  have taken : Process.Step ((told.control there.1 before []).controllers there.1)
      (.handled call) after := by rwa [Net.control_self]
  -- every call is about a message of the switch
  obtain ⟨cbench, labels, reaches⟩ := reachable
  obtain ⟨about, isAbout⟩ := Reaches.about (reaches.trans run) taken
  exact ⟨_, run.snoc (.controller taken (Exchanges.handled isAbout)), Net.control_self⟩

end Alone

/-- The features reply of a switch with one port. -/
def oneReply : List UInt8 := Ani41.featuresMessage 12 [1]

/-- A thread sends the datapath, when its controller has handled the reply. -/
def introduction : List Choice :=
  [.call .calm, .storePorts, .createThread true, .configure .calm, .share 0, .share 0, .share 0]

/-- A report of the first 128 octets of the frame that it sends. -/
def greetingReport : PacketInMessage where
  xid := 7
  bufferId := 256
  totalLen := 1038
  inPort := 2
  reason := 0
  data := (greetingFrame 12).take 128

theorem greetingReport_reports :
    Reports greetingReport.encode 2 (greetingFrame 12) where
  framed := by decide +kernel
  type := rfl
  inPort := rfl
  header := by
    rw [length_greetingFrame]
    decide
  part := List.take_prefix _ _
  enough := List.prefix_rfl

/-- The events in which a controller handles the reply and a thread sends. -/
def Introduces : List Event → Bool
  | [.described _, .internal, .created 0, .handled _, .internal, .internal, .shared 0 _] => true
  | _ => false

theorem deliver_event {p q : Process} {chunk : List UInt8} {event : Event}
    (taken : p.next (.deliver chunk) = some (event, q)) : event = .received chunk := by
  simp only [Process.next] at taken
  split at taken
  · cases taken
    rfl
  · cases taken

/-- The first controller is told its datapath and sends it out of its port. -/
theorem introduced : ∃ p happened q,
    Process.Step (Process.initial false) (.received oneReply) p ∧
    Run Process.Step p happened q ∧ happened.all Alone = true ∧
    .shared 0 (framePacket 1 (greetingFrame 12)).encode ∈ happened := by
  have computed : ((Process.initial false).next (.deliver oneReply)).bind
      (fun taken => (taken.2.play introduction).map fun run =>
        (Introduces run.1, run.1.all Alone, infos run.1)) =
      some (true, true, [⟨12, 1⟩]) := by decide +kernel
  obtain ⟨⟨event, p⟩, first, computed⟩ := Option.bind_eq_some_iff.mp computed
  obtain ⟨⟨happened, q⟩, played, same⟩ := Option.map_eq_some_iff.mp computed
  obtain ⟨introduces, alone, told⟩ : Introduces happened = true ∧ happened.all Alone = true ∧
      infos happened = [⟨12, 1⟩] := by simpa using same
  obtain rfl : event = .received oneReply := deliver_event first
  have step := Process.next_step first
  have run := Process.play_run played
  refine ⟨p, happened, q, step, run, alone, ?_⟩
  unfold Introduces at introduces
  split at introduces
  · rename_i a b bytes
    have whole : Process.Reaches false
        ([.received oneReply, .described a, .internal] ++
          .created 0 :: [.handled b, .internal, .internal] ++ [.shared 0 bytes]) q :=
      .cons step run
    obtain ⟨middle, past, last⟩ := whole.snoc_inv
    obtain ⟨_, _, older, newer, portno, -, -, oldAt, newAt, least, most, rfl⟩ :=
      Process.Reaches.announces past last
    have same : infos ([.received oneReply, .described a, .internal] ++
        .created 0 :: [.handled b, .internal, .internal]) = [⟨12, 1⟩] := told
    rw [same] at oldAt newAt
    obtain rfl : older = ⟨12, 1⟩ := List.mem_singleton.mp (List.mem_of_getElem? oldAt)
    obtain rfl : newer = ⟨12, 1⟩ := List.mem_singleton.mp (List.mem_of_getElem? newAt)
    obtain rfl : portno = 1 := by
      have most : (portno : Int) ≤ 1 := most
      omega
    simp
  · cases introduces

def Handles : Event → Bool
  | .handled _ => true
  | _ => false

/-- The other controller prints what it gets. -/
theorem greeted : ∃ p call q,
    Process.Step (Process.initial false) (.received greetingReport.encode) p ∧
    Process.Step p (.handled call) q ∧ q.ani.console = [.message (greeting 12)] := by
  have computed : ((Process.initial false).next (.deliver greetingReport.encode)).bind
      (fun taken => (taken.2.next (.call .calm)).map fun last =>
        (Handles last.1, last.2.ani.console)) =
      some (true, [.message (greeting 12)]) := by decide +kernel
  obtain ⟨⟨event, p⟩, first, computed⟩ := Option.bind_eq_some_iff.mp computed
  obtain ⟨⟨last, q⟩, second, same⟩ := Option.map_eq_some_iff.mp computed
  obtain ⟨handles, console⟩ := Prod.mk.inj same
  obtain rfl : event = .received greetingReport.encode := deliver_event first
  have called : p.next (.call .calm) = some (last, q) := second
  cases last with
  | handled call => exact ⟨p, call, q, Process.next_step first, Process.next_step called, console⟩
  | _ => cases handles

theorem greetings_name_neighbours_twoSwitches :
    ∃ (labels : List (Label Bool Event)) (net : Net Bool Process),
      Reaches (Network.twoSwitches Ani41.hostA) (fun _ => false) labels net ∧
      (net.controllers false).ani.console = [.message (greeting 12)] ∧
      Named (Network.twoSwitches Ani41.hostA) labels false (greeting 12) := by
  obtain ⟨p, happened, q, received, runs, alone, sends⟩ := introduced
  obtain ⟨before, call, after, gets, handles, console⟩ := greeted
  let topology := Network.twoSwitches Ani41.hostA
  let spoken : Net Bool Process := (Net.initial fun _ => false).tell true (.other oneReply)
  have framed : Framed oneReply ∧ messageType oneReply ≠ ofptPacketIn := by decide +kernel
  have begins : Run (Step topology) (Net.initial fun _ => false)
      [.spoke true oneReply, .controller true (.received oneReply)] (spoken.control true p []) :=
    .cons (.spoke framed.1 framed.2)
      (.single (received_step (Net.mem_tell_self (.other oneReply)) received))
  have here : (spoken.control true p []).controllers true = p := Net.control_self
  obtain ⟨told, goes, -, others, sent⟩ : ∃ told, Run (Step topology) _ _ told ∧ _ :=
    alone_run runs here alone
  have idle : told.controllers false = Process.initial false :=
    (others false (by decide)).trans (Net.control_other (by decide))
  have linked : topology.link (true, 1) = some (false, 2) := rfl
  obtain ⟨net, ends, final⟩ := greeting_run linked (sent 0 _ sends) greetingReport_reports idle
    gets handles ⟨_, _, begins.trans goes⟩
  have run : Reaches topology (fun _ => false) _ net := (begins.trans goes).trans ends
  have shown : (net.controllers false).ani.console = [.message (greeting 12)] := by
    rw [final, console]
  refine ⟨_, net, run, shown, greetings_name_neighbours run ?_ ?_⟩
  · intro here frame member
    simp at member
  · rw [shown]
    exact List.mem_cons_self

end DAIM.Neighbours
