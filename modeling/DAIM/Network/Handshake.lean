import DAIM.Network.Identity
import DAIM.Ani41.Replys

/-!
# A round of the discovery over a link

What two neighbours do in one round of the first of them, as runs of their
processes and as a run of the network: the request, its answer, and the `NODE`.
-/

namespace DAIM.Network

open DAIM.Library DAIM.OpenFlow DAIM.Linked DAIM.Com DAIM.Ani41

variable {Switch : Type*}

/-! ## What a discovery thread does -/

/-- Neither a host nor a switch says something of its own, and the connection stays. -/
def Ordinary : Label Switch Event → Prop
  | .spoke _ _ => False
  | .hostSent _ _ => False
  | .controller _ .lost => False
  | _ => True

/-- No `NODE` is taken. -/
def Nodeless : Label Switch Event → Prop
  | .controller _ (.handled call) => ¬ call.IsNode
  | _ => True

/-- A switch introduces itself to its controller. -/
def Introductory : Label Switch Event → Prop
  | .spoke _ _ => True
  | .controller _ (.received _) => True
  | .controller _ (.handled call) => call.handler = .featuresReply
  | _ => False

/-- What a discovery thread does without its switch. -/
def Alone (event : Event) : Prop := event = .internal ∨ ∃ index bytes, event = .shared index bytes

theorem Introductory.nodeless {label : Label Switch Event} (introductory : Introductory label) :
    Nodeless label := by
  cases label with
  | controller s event =>
      cases event with
      | handled call =>
          exact fun node => absurd (node.1.symm.trans introductory) (by decide)
      | _ => trivial
  | _ => trivial

theorem thread_ordinary {s : Switch} {events : List Event}
    (alone : ∀ event ∈ events, Alone event) :
    ∀ label ∈ events.map (Label.controller s), Ordinary label ∧ Nodeless label := by
  intro label member
  obtain ⟨event, happened, rfl⟩ := List.mem_map.mp member
  rcases alone event happened with rfl | ⟨index, bytes, rfl⟩
  · exact ⟨trivial, trivial⟩
  · exact ⟨trivial, trivial⟩

/-- A frame goes over a link and is read at its other end. -/
theorem arrival_ordinary {here there : Port Switch} {frame : Frame} {bytes : List UInt8} :
    ∀ label ∈ [Label.executed here frame, .reported there frame bytes,
      .controller there.1 (.received bytes)], Ordinary label ∧ Nodeless label := by
  simp [Ordinary, Nodeless]

theorem call_ordinary {s : Switch} {call : Call} (notNode : ¬ call.IsNode) :
    ∀ label ∈ [Label.controller s (.handled call)], Ordinary label ∧ Nodeless label := by
  intro label member
  cases List.mem_singleton.mp member
  exact ⟨trivial, notNode⟩

section Threads

variable [DecidableEq Switch] {topology : Topology Switch} {net : Net Switch Process}

/-- What it sends goes to the switch. -/
theorem thread_run (s : Switch) {events : List Event} {now process : Process}
    (same : net.controllers s = now) (run : Run Process.Step now events process)
    (alone : ∀ event ∈ events, Alone event) :
    Run (Step topology) net (events.map (.controller s))
      (net.control s process ((events.flatMap Event.sent).map fun bytes => ⟨bytes, none⟩)) := by
  subst same
  induction run with
  | refl =>
      have same : net.control s (net.controllers s) [] = net := by simp [Net.control]
      rw [List.flatMap_nil, List.map_nil, List.map_nil, same]
      exact .refl
  | @snoc events middle process event _ step inductionHypothesis =>
      have before := inductionHypothesis fun other member =>
        alone other (List.mem_append_left _ member)
      have taken : Process.Step ((net.control s middle
          ((events.flatMap Event.sent).map fun bytes => ⟨bytes, none⟩)).controllers s) event
          process := by
        rwa [Net.control_self]
      rw [List.flatMap_append, List.map_append, List.map_append, ← Net.control_control]
      apply Run.snoc before
      rcases alone event (List.mem_append_right _ List.mem_cons_self) with rfl | ⟨_, _, rfl⟩
      · exact .controller taken (Exchanges.quiet trivial)
      · exact .controller taken Exchanges.shared

theorem events_thread (s : Switch) (happened : List Event) :
    events s (happened.map (.controller s)) = happened := by
  simp [events, List.filterMap_map, Label.event?, Function.comp_def]

end Threads

/-! ## A round -/

theorem emits_discovery {port : UInt16} {message : DiscoveryMessage}
    {about : Option (UInt16 × Frame)} (physical : port ≠ ofppFlood) :
    Emits ⟨(discoveryPacket port message).encode, about⟩ port (discoveryFrame message) := by
  have decoded : PacketOut.decode (Sent.mk (discoveryPacket port message).encode about).bytes =
      some (discoveryPacket port message) := discoveryPacket_decode port message
  have outputs : Outputs (discoveryPacket port message).actions
      (discoveryPacket port message).inPort port :=
    ⟨⟨port, 0⟩, List.mem_cons_self, by rw [if_neg physical]⟩
  exact .data decoded nofun outputs

def discoveryReport (port : UInt16) (message : DiscoveryMessage) : PacketInMessage where
  xid := 7
  bufferId := 256
  totalLen := 34
  inPort := port
  reason := 0
  data := discoveryFrame message

theorem discoveryReport_reports (port : UInt16) (message : DiscoveryMessage) :
    Reports (discoveryReport port message).encode port (discoveryFrame message) := by
  have complete : 18 ≤ (discoveryFrame message).length := (discoveryFrame_form message).complete
  have short := length_discoveryFrame message
  have header : 14 ≤ (discoveryReport port message).data.length := Nat.le_trans (by decide) complete
  have bounded : 18 + (discoveryReport port message).data.length < 65536 :=
    Nat.lt_of_le_of_lt (Nat.add_le_add_left short 18) (by decide)
  exact reports_encode header bounded

theorem play_alone {p q : Process} {count : Nat} {events : List Event}
    (played : p.play (List.replicate count (.share 0)) = some (events, q)) :
    ∀ event ∈ events, Alone event := by
  induction count generalizing p events with
  | zero =>
      cases played
      exact fun event impossible => absurd impossible List.not_mem_nil
  | succ count inductionHypothesis =>
      obtain ⟨⟨first, middle⟩, moved, played⟩ := Option.bind_eq_some_iff.mp played
      obtain ⟨⟨more, last⟩, later, same⟩ := Option.bind_eq_some_iff.mp played
      cases same
      obtain ⟨⟨sent, next⟩, -, same⟩ := Option.map_eq_some_iff.mp moved
      cases same
      intro event member
      rcases List.mem_cons.mp member with rfl | rest
      · cases sent with
        | none => exact .inl rfl
        | some bytes => exact .inr ⟨0, bytes, rfl⟩
      · exact inductionHypothesis later event rest

/-- What two neighbours do in a round of the first of them. -/
structure Round where
  asked : List Event
  asking : Process
  reply : Call
  answering : Process
  echo : Call
  told : Process
  named : List Event
  naming : Process
  node : Call
  learned : Process

/-- The thread of the first takes some steps up to its request, and four more
up to its `NODE`. -/
def playRound (here there : UInt16) (datapathId : UInt64) (steps : Nat) (p q : Process) :
    Option Round := do
  let (asked, asking) ← p.play (List.replicate steps (.share 0))
  let (reply, answering) ← q.deliver (discoveryReport there .echoRequest).encode .calm
  let (echo, told) ← asking.deliver (discoveryReport here .echoReply).encode .calm
  let (named, naming) ← told.play (List.replicate 4 (.share 0))
  let (node, learned) ←
    answering.deliver (discoveryReport there (.node datapathId here)).encode .calm
  some ⟨asked, asking, reply, answering, echo, told, named, naming, node, learned⟩

/-- The three messages of the round, each sent once. -/
def Round.Exchanged (here there : UInt16) (datapathId : UInt64) (round : Round) : Prop :=
  round.asked.flatMap Event.sent = [(discoveryPacket here .echoRequest).encode] ∧
    round.reply.sent = [(discoveryPacket there .echoReply).encode] ∧
    round.named.flatMap Event.sent = [(discoveryPacket here (.node datapathId here)).encode] ∧
    nodesTo here round.named = 1 ∧ ¬ round.reply.IsNode ∧ ¬ round.echo.IsNode ∧
    round.node.IsNode

instance (here there : UInt16) (datapathId : UInt64) (round : Round) :
    Decidable (round.Exchanged here there datapathId) :=
  inferInstanceAs (Decidable (_ ∧ _))

/-- In a network the round is a run over the link, which ends with the `NODE`. -/
theorem Round.run [DecidableEq Switch] {topology : Topology Switch} {net : Net Switch Process}
    {s t : Switch} {here there : UInt16} {datapathId : UInt64} {p q : Process} {steps : Nat}
    {round : Round} (linked : topology.link (s, here) = some (t, there)) (different : s ≠ t)
    (first : net.controllers s = p) (second : net.controllers t = q)
    (played : playRound here there datapathId steps p q = some round)
    (exchanged : round.Exchanged here there datapathId) :
    ∃ labels before next, Run (Step topology) net labels before ∧
      (∀ label ∈ labels, Ordinary label ∧ Nodeless label) ∧
      nodesTo here (events s labels) ≥ 1 ∧
      Step topology before (.controller t (.handled round.node)) next ∧
      next.controllers s = round.naming ∧ next.controllers t = round.learned := by
  obtain ⟨⟨asked, asking⟩, asks, played⟩ := Option.bind_eq_some_iff.mp played
  obtain ⟨⟨reply, answering⟩, answers, played⟩ := Option.bind_eq_some_iff.mp played
  obtain ⟨⟨echo, told⟩, hears, played⟩ := Option.bind_eq_some_iff.mp played
  obtain ⟨⟨named, naming⟩, names, played⟩ := Option.bind_eq_some_iff.mp played
  obtain ⟨⟨node, learned⟩, learns, played⟩ := Option.bind_eq_some_iff.mp played
  cases played
  obtain ⟨requested, replied, nodes, counted, notReply, notEcho, isNode⟩ := exchanged
  have back : topology.link (t, there) = some (s, here) := topology.symmetric linked
  have heard : (discoveryPacket there .echoReply).encode ∈ reply.sent := by
    rw [show reply.sent = _ from replied]
    exact List.mem_cons_self
  have sends {bytes : List UInt8} {events : List Event} {net : Net Switch Process} {now : Process}
      (only : events.flatMap Event.sent = [bytes]) :
      (⟨bytes, none⟩ : Sent) ∈ (net.control s now
        ((events.flatMap Event.sent).map fun bytes => ⟨bytes, none⟩)).outbox s := by
    rw [only]
    exact Net.mem_control_self List.mem_cons_self
  obtain ⟨net1, run1, asker1, answerer1, sent1⟩ : ∃ after : Net Switch Process,
      Run (Step topology) net (asked.map (.controller s)) after ∧ after.controllers s = asking ∧
        after.controllers t = q ∧
        ⟨(discoveryPacket here .echoRequest).encode, none⟩ ∈ after.outbox s :=
    ⟨_, thread_run s first (Process.play_run asks) (play_alone asks), Net.control_self,
      (Net.control_other different.symm).trans second, sends requested⟩
  obtain ⟨net2, run2, asker2, sent2, answerer2⟩ : ∃ after : Net Switch Process,
      Run (Step topology) net1 _ after ∧ after.controllers s = asking ∧
        ⟨(discoveryPacket there .echoReply).encode,
          some (there, discoveryFrame .echoRequest)⟩ ∈ after.outbox t ∧
        after.controllers t = answering :=
    ⟨_, executed_run linked answerer1 sent1 (emits_discovery (topology.physical linked))
        (discoveryReport_reports there .echoRequest) answers,
      (Net.control_other different).trans asker1, Net.mem_answers heard, Net.control_self⟩
  obtain ⟨net3, run3, asker3, answerer3⟩ : ∃ after : Net Switch Process,
      Run (Step topology) net2 _ after ∧ after.controllers s = told ∧
        after.controllers t = answering :=
    ⟨_, executed_run back asker2 sent2 (emits_discovery (topology.physical back))
        (discoveryReport_reports here .echoReply) hears,
      Net.control_self, (Net.control_other different.symm).trans answerer2⟩
  obtain ⟨net4, run4, asker4, answerer4, sent4⟩ : ∃ after : Net Switch Process,
      Run (Step topology) net3 (named.map (.controller s)) after ∧
        after.controllers s = naming ∧ after.controllers t = answering ∧
        ⟨(discoveryPacket here (.node datapathId here)).encode, none⟩ ∈ after.outbox s :=
    ⟨_, thread_run s asker3 (Process.play_run names) (play_alone names), Net.control_self,
      (Net.control_other different.symm).trans answerer3, sends nodes⟩
  obtain ⟨next, run5, finished, recorded⟩ : ∃ after : Net Switch Process,
      Run (Step topology) net4 _ after ∧ after.controllers s = naming ∧
        after.controllers t = learned :=
    ⟨_, executed_run linked answerer4 sent4 (emits_discovery (topology.physical linked))
        (discoveryReport_reports there (.node datapathId here)) learns,
      (Net.control_other different).trans asker4, Net.control_self⟩
  have run := run1.trans (run2.trans (run3.trans (run4.trans run5)))
  let request : List (Label Switch Event) := [.executed (s, here) (discoveryFrame .echoRequest),
    .reported (t, there) (discoveryFrame .echoRequest)
      (discoveryReport there .echoRequest).encode,
    .controller t (.received (discoveryReport there .echoRequest).encode)]
  let answer : List (Label Switch Event) := [.executed (t, there) (discoveryFrame .echoReply),
    .reported (s, here) (discoveryFrame .echoReply) (discoveryReport here .echoReply).encode,
    .controller s (.received (discoveryReport here .echoReply).encode)]
  let last : List (Label Switch Event) :=
    [.executed (s, here) (discoveryFrame (.node datapathId here)),
    .reported (t, there) (discoveryFrame (.node datapathId here))
      (discoveryReport there (.node datapathId here)).encode,
    .controller t (.received (discoveryReport there (.node datapathId here)).encode)]
  let labels : List (Label Switch Event) := asked.map (.controller s) ++ (request ++
    ([.controller t (.handled reply)] ++ (answer ++ ([.controller s (.handled echo)] ++
      (named.map (.controller s) ++ last)))))
  have split : labels ++ [Label.controller t (.handled node)] = asked.map (.controller s) ++
      (request ++ [.controller t (.handled reply)] ++ (answer ++
        [.controller s (.handled echo)] ++ (named.map (.controller s) ++ (last ++
          [.controller t (.handled node)])))) := by
    simp [labels]
  have whole : Run (Step topology) net (labels ++ [.controller t (.handled node)]) next :=
    split ▸ run
  obtain ⟨before, earlier, step⟩ := whole.snoc_inv
  refine ⟨labels, before, next, earlier, ?_, ?_, step, finished, recorded⟩
  · simp only [labels, List.forall_mem_append]
    exact ⟨thread_ordinary (play_alone asks), arrival_ordinary, call_ordinary notReply,
      arrival_ordinary, call_ordinary notEcho, thread_ordinary (play_alone names),
      arrival_ordinary⟩
  · have all : events s (named.map (.controller s)) = named := events_thread s named
    have once : nodesTo here named = 1 := counted
    simp only [labels, events_append, nodesTo_append, all, once]
    omega

end DAIM.Network
