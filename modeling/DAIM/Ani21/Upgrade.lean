import DAIM.Library.Simulation
import DAIM.Ani21.Greetings
import DAIM.Ani21.Process
import DAIM.Ani41.Reconnect

/-!
# Version 2.1 against version 4

Version 4 changed what a controller does with a discovery frame.  As long as no
message of the new discovery comes in, its main thread and that of version 2.1
can do exactly the same.
-/

namespace DAIM.Ani21

open DAIM.Library DAIM.OpenFlow DAIM.Linked DAIM.Com
open DAIM.Ani41 (Handler Call dispatch)

/-! ## What both versions have -/

/-- The console lines that version 4 can print, too. -/
def Line.upgrade : Line → Option Ani41.Line
  | .host entry => some (.host entry)
  | .port entry => some (.port entry)
  | .message _ => none

/-- The globals of version 4 that are those of version 2.1 where this has them. -/
def Ani.onto (s : Ani) (other : Ani41.Ani) : Ani41.Ani :=
  { other with
    cbench := s.cbench
    swSockfd := s.swSockfd
    hosts := s.hosts
    ports := s.ports
    readBuffer := s.readBuffer
    writeBuffer := s.writeBuffer
    readBufferp := s.readBufferp
    readBufferLen := s.readBufferLen
    writeBufferLen := s.writeBufferLen
    transactionId := s.transactionId
    switchId := s.switchId
    noOfPorts := s.noOfPorts
    pheader := s.pheader
    console := s.console.filterMap Line.upgrade }

def Outcome.onto (outcome : Outcome) (other : Ani41.Ani) (spawned : Bool) : Ani41.Outcome :=
  ⟨outcome.ani.onto other, outcome.sent, outcome.result, spawned⟩

/-- Version 4 frees two more lists. -/
def downgrade : Ani41.MainPlace → MainPlace
  | .reading => .reading
  | .closing => .closing
  | .freeHosts => .freeHosts
  | .freePorts => .freePorts
  | .freeLinks => .accepting
  | .freeReplys => .accepting
  | .accepting => .accepting
  | .sending => .sending
  | .scanning counter => .scanning counter
  | .exited => .exited

/-- The lists that only version 4 has are empty. -/
structure Bare (other : Ani41.Ani) : Prop where
  links : other.links = .empty
  swReplys : other.swReplys = .empty

/-- Both main threads are at the same place with the same globals. -/
structure Agree (p : Process) (q : Ani41.Process) : Prop where
  place : p.place = downgrade q.place
  ani : ∃ other, q.ani = p.ani.onto other ∧ Bare other

/-- What the main thread of version 2.1 shows. -/
def Event.shown : Event → Option Ani41.Event
  | .received chunk => some (.received chunk)
  | .lost => some .lost
  | .connected connection => some (.connected connection)
  | .handled call => some (.handled call)
  | .internal | .described _ | .created _ | .shared _ _ => none

/-- What the main thread of version 4 shows. -/
def shown41 : Ani41.Event → Option Ani41.Event
  | .internal | .shared _ _ => none
  | event => some event

/-- A text for the console, whose first octet is no type of the new discovery. -/
structure IsText (message : Memory) : Prop where
  type : payload message AnimHeader.type ≠ animEchoRequest ∧
    payload message AnimHeader.type ≠ animEchoReply ∧ payload message AnimHeader.type ≠ animNode
  ends : 0 ∈ (payload message).slice 0 messageSize

/-- A `PACKET_IN` with an LLDP frame has at most text in it. -/
def NoDiscovery (message : Memory) : Prop :=
  (parsePacketIn message).type = lldpData → IsText message

/-- No discovery message is handled. -/
def Plain (event : Ani41.Event) : Prop :=
  ∀ call, event = .handled call → call.handler = .packout → NoDiscovery call.message

theorem isText_iff {message : Memory} : IsText message ↔
    (payload message AnimHeader.type ≠ animEchoRequest ∧
      payload message AnimHeader.type ≠ animEchoReply ∧
        payload message AnimHeader.type ≠ animNode) ∧
      0 ∈ (payload message).slice 0 messageSize :=
  ⟨fun text => ⟨text.type, text.ends⟩, fun ⟨type, ends⟩ => ⟨type, ends⟩⟩

instance (message : Memory) : Decidable (IsText message) := decidable_of_iff _ isText_iff.symm

instance (message : Memory) : Decidable (NoDiscovery message) :=
  inferInstanceAs (Decidable (_ → _))

/-- Decides `Plain`. -/
def isPlain : Ani41.Event → Bool
  | .handled call => decide (call.handler = .packout → NoDiscovery call.message)
  | _ => true

theorem plain_of_isPlain {event : Ani41.Event} (plain : isPlain event = true) : Plain event := by
  rintro call rfl packout
  exact of_decide_eq_true plain packout

/-! ## The handlers -/

section Handlers

variable (env : Env) (ofBuffer : Nat) (packet : PacketIn) (message : Memory)
variable (s : Ani) (other : Ani41.Ani)

theorem view_onto (p : Ani41.Pointer) : (s.onto other).view p = s.view p := by
  cases p <;> rfl

theorem console_onto (entries : List SwitchHost) :
    (s.console ++ entries.map Line.host).filterMap Line.upgrade =
      s.console.filterMap Line.upgrade ++ entries.map Ani41.Line.host := by
  rw [List.filterMap_append, List.filterMap_map]
  exact congrArg _ (List.filterMap_eq_map ▸ rfl)

theorem console_ports (entries : List Ani41.SwitchPort) :
    (s.console ++ entries.map Line.port).filterMap Line.upgrade =
      s.console.filterMap Line.upgrade ++ entries.map Ani41.Line.port := by
  rw [List.filterMap_append, List.filterMap_map]
  exact congrArg _ (List.filterMap_eq_map ▸ rfl)

theorem Outcome.onto_ite {condition : Prop} [Decidable condition] (left right : Outcome)
    (spawned : Bool) :
    (if condition then left else right).onto other spawned =
      if condition then left.onto other spawned else right.onto other spawned :=
  apply_ite (Outcome.onto · other spawned) condition left right

theorem actionHello_onto :
    Ani41.actionHello env ofBuffer (s.onto other) =
      (actionHello env ofBuffer s).onto other false := by
  unfold actionHello
  simp only [Outcome.onto_ite]
  rfl

theorem actionEcho_onto :
    Ani41.actionEcho env ofBuffer (s.onto other) =
      (actionEcho env ofBuffer s).onto other false := by
  unfold actionEcho
  simp only [Outcome.onto_ite]
  rfl

/-! ### `action_packout` -/

/-- The branches of `action_packout` for a state of version 4. -/
def Sending.onto (other : Ani41.Ani) (sending : Sending) : Ani41.Sending :=
  (sending.1.onto other, sending.2)

theorem learnHost_onto (ipSrc : UInt32) :
    Ani41.learnHost env packet ipSrc (s.onto other) =
      (learnHost env packet ipSrc s).map (Ani.onto · other) := by
  unfold Ani41.learnHost learnHost
  have same : (s.onto other).hosts = s.hosts := rfl
  have id : (s.onto other).switchId = s.switchId := rfl
  rw [same, id]
  cases Hosts.learn env s.hosts _ with
  | none => rfl
  | some learned => simp only [Option.map_some, Ani.onto, console_onto]

theorem lookupPort_onto (dst : Mac) :
    Ani41.lookupPort dst (s.onto other) =
      (lookupPort dst s).map fun (s, outPort) => (s.onto other, outPort) := by
  unfold Ani41.lookupPort lookupPort
  have same : (s.onto other).hosts = s.hosts := rfl
  rw [same]
  cases Hosts.lookup s.hosts dst <;> rfl

theorem packoutIp6_onto :
    Ani41.packoutIp6 env packet (s.onto other) = (packoutIp6 env packet s).onto other := by
  unfold packoutIp6
  rw [apply_ite (Sending.onto other)]
  rfl

theorem packoutArp_onto :
    Ani41.packoutArp env message packet (s.onto other) =
      (packoutArp env message packet s).map (Sending.onto other) := by
  unfold Ani41.packoutArp packoutArp
  simp only [learnHost_onto]
  cases learnHost env packet (ntohl ((payload message).load32 Arp.ipSource)) s with
  | none => rfl
  | some learned =>
      simp only [Option.map_some, lookupPort_onto]
      split
      · rfl
      · cases lookupPort packet.dst learned with
        | none => rfl
        | some found =>
            simp only [Option.map_some]
            split <;> rfl

theorem packoutIp_onto :
    Ani41.packoutIp env message packet (s.onto other) =
      (packoutIp env message packet s).map (Sending.onto other) := by
  unfold Ani41.packoutIp packoutIp
  simp only [lookupPort_onto]
  cases lookupPort packet.dst s with
  | none => rfl
  | some found =>
      simp only [Option.map_some, apply_ite (Option.map (Sending.onto other))]
      rfl

/-- Version 4 does nothing about a text, and version 2.1 prints it. -/
theorem packoutLldp_onto (text : IsText message) (unlocked : other.linksMutex = none) :
    Ani41.packoutLldp env message packet (s.onto other) =
      (packoutLldp message s).map (Sending.onto other) := by
  have free : ¬ (s.onto other).linksMutex ≠ none := fun held => held unlocked
  obtain ⟨notRequest, notReply, notNode⟩ := text.type
  unfold Ani41.packoutLldp packoutLldp
  simp only [if_neg free, if_neg notRequest, if_neg notReply, if_neg notNode, if_pos text.ends]
  simp only [Option.map_some, Sending.onto, Ani.onto, List.filterMap_append, List.filterMap_cons,
    Line.upgrade, List.filterMap_nil, List.append_nil]

theorem packoutBranch_onto
    (lldp : packet.type = lldpData → IsText message ∧ other.linksMutex = none) :
    Ani41.packoutBranch env message packet (s.onto other) =
      (packoutBranch env message packet s).map (Sending.onto other) := by
  unfold Ani41.packoutBranch packoutBranch
  rw [packoutIp6_onto, packoutArp_onto, packoutIp_onto]
  simp only [apply_ite (Option.map (Sending.onto other))]
  by_cases isLldp : packet.type = lldpData
  · obtain ⟨text, unlocked⟩ := lldp isLldp
    rw [packoutLldp_onto env packet message s other text unlocked]
    rfl
  · rw [if_neg isLldp, if_neg isLldp]
    rfl

theorem actionPackout_onto
    (lldp : (parsePacketIn (s.readBuffer.shift ofBuffer)).type = lldpData →
      IsText (s.readBuffer.shift ofBuffer) ∧ other.linksMutex = none) :
    Ani41.actionPackout env ofBuffer (s.onto other) =
      (actionPackout env ofBuffer s).map (Outcome.onto · other false) := by
  have branch := packoutBranch_onto env (parsePacketIn (s.readBuffer.shift ofBuffer))
    (s.readBuffer.shift ofBuffer)
    { s with transactionId := (parsePacketIn (s.readBuffer.shift ofBuffer)).xid } other lldp
  unfold Ani41.actionPackout actionPackout
  simp only [Ani.onto] at branch ⊢
  rw [branch]
  cases packoutBranch env _ _ _ with
  | none => rfl
  | some sending =>
      simp only [Option.map_some, apply_ite (Option.map (Outcome.onto · other false))]
      rfl

/-! ### `action_features_reply` -/

/-- The state in which the port records are stored, whatever the threads were
told. -/
def describe (ofBuffer : Nat) (s : Ani) : Ani := storeDatapath ofBuffer (countPorts ofBuffer s)

theorem describe_readBuffer : (describe ofBuffer s).readBuffer = s.readBuffer := by
  simp only [describe, storeDatapath, countPorts]

theorem describe_readBufferp : (describe ofBuffer s).readBufferp = s.readBufferp := by
  simp only [describe, storeDatapath, countPorts]

theorem actionFeaturesReply_noPorts (unlocked : other.linksMutex = none)
    (noPorts : (countPorts ofBuffer s).noOfPorts = 0) :
    Ani41.actionFeaturesReply env ofBuffer (s.onto other) =
      some (Outcome.onto ⟨countPorts ofBuffer s, [], -1⟩
        { other with linksMutex := some .main } false) := by
  have free : ¬ other.linksMutex ≠ none := fun held => held unlocked
  exact (if_neg free).trans (if_pos noPorts)

theorem sendSwitchConfig_onto :
    Ani41.sendSwitchConfig env (s.onto other) =
      (sendSwitchConfig env s).onto other env.threadCreated := by
  unfold sendSwitchConfig
  simp only [Outcome.onto_ite]
  rfl

theorem actionFeaturesReply_onto (unlocked : other.linksMutex = none)
    (ports : (countPorts ofBuffer s).noOfPorts ≠ 0) (told : SwitchInfo) :
    Ani41.actionFeaturesReply env ofBuffer (s.onto other) =
      (configureSwitch env ofBuffer { describe ofBuffer s with swIn := told }).map
        (Outcome.onto · other env.threadCreated) := by
  have free : ¬ other.linksMutex ≠ none := fun held => held unlocked
  refine (if_neg free).trans ((if_neg ports).trans ?_)
  unfold configureSwitch
  simp only [describe, storeDatapath, countPorts, switchInfo, Ani.onto]
  cases Ani41.addPorts env _ _ _ _ _ with
  | none => rfl
  | some ports =>
      simp only
      cases ports.showAll with
      | none => rfl
      | some shown =>
          simp only [Option.map_some, ← sendSwitchConfig_onto, Ani.onto, console_ports, ← unlocked]

/-- The other handlers do the same in both versions. -/
theorem handle_onto {handler : Handler} (notReply : handler ≠ .featuresReply)
    (lldp : handler = .packout →
      (parsePacketIn (s.readBuffer.shift ofBuffer)).type = lldpData →
      IsText (s.readBuffer.shift ofBuffer) ∧ other.linksMutex = none) :
    Ani41.handle handler env ofBuffer (s.onto other) =
      (handle handler env ofBuffer s).map (Outcome.onto · other false) := by
  cases handler with
  | hello => exact congrArg some (actionHello_onto env ofBuffer s other)
  | featuresReply => exact absurd rfl notReply
  | packout => exact actionPackout_onto env ofBuffer s other (lldp rfl)
  | echo => exact congrArg some (actionEcho_onto env ofBuffer s other)

/-! ## The loop over a chunk -/

theorem checkOpenflow_onto :
    Ani41.checkOpenflow ofBuffer (s.onto other) =
      (checkOpenflow ofBuffer s).map (Ani.onto · other) id := by
  unfold checkOpenflow
  rw [apply_ite (Prod.map (Ani.onto · other) id)]
  rfl

theorem packetSize_onto :
    packetSize s =
      (ntohs (((s.onto other).view (s.onto other).pheader).load16 OfpHeader.length)).toNat := by
  rw [view_onto]
  rfl

theorem normalHandler_onto :
    Ani41.normalHandler (s.onto other) = (normalHandler s).map (Ani.onto · other) id := by
  unfold Ani41.normalHandler normalHandler
  rw [show (s.onto other).readBufferp = s.readBufferp from rfl, checkOpenflow_onto]
  simp only [Prod.map_fst, Prod.map_snd, id_eq, view_onto,
    apply_ite (Prod.map (Ani.onto · other) id)]
  rfl

end Handlers

/-- What becomes of the main thread of version 4 after a call. -/
def returned41 (caller : Caller) (threads : List Ani41.Thread) (outcome : Ani41.Outcome) :
    Ani41.Process :=
  match caller with
  | .single =>
      ⟨outcome.ani, Ani41.afterCall outcome.result .reading,
        Ani41.spawn threads outcome.spawned⟩
  | .loop counter size =>
      ⟨{ outcome.ani with readBufferp := outcome.ani.readBufferp + size },
        Ani41.afterCall outcome.result (.scanning (counter - size)),
        Ani41.spawn threads outcome.spawned⟩

section Calls

variable {s next : Ani} {other : Ani41.Ani} {place : MainPlace} {place41 : Ani41.MainPlace}
variable {caller : Caller} {handler : Handler} {env : Env}

theorem downgrade_sending (same : MainPlace.sending = downgrade place41) : place41 = .sending := by
  cases place41 <;> cases same
  rfl

theorem downgrade_scanning {counter : Int} (same : MainPlace.scanning counter = downgrade place41) :
    place41 = .scanning counter := by
  cases place41 <;> cases same
  rfl

/-- Version 4 chooses the same handler. -/
theorem Calls.step41 (calls : Calls s place next caller handler) (same : place = downgrade place41)
    (threads : List Ani41.Thread) {outcome : Ani41.Outcome}
    (run : Ani41.handle handler env next.readBufferp (next.onto other) = some outcome) :
    Ani41.Process.Step ⟨s.onto other, place41, threads⟩
      (.handled (.of handler next.readBufferp (next.onto other) env outcome))
      (returned41 caller threads outcome) := by
  cases calls with
  | single normal chosen =>
      cases downgrade_sending same
      have chosen41 := normalHandler_onto { s with readBufferp := 0 } other
      rw [chosen] at chosen41
      exact .answered normal chosen41 run
  | loop more checked chosen =>
      cases downgrade_scanning same
      have checked41 := checkOpenflow_onto s.readBufferp s other
      rw [checked] at checked41
      rw [packetSize_onto next other]
      exact .scanAnswered more checked41 ((view_onto next other _).symm ▸ chosen) run

end Calls

theorem returned_place (caller : Caller) (threads : List Thread) (threads41 : List Ani41.Thread)
    (outcome : Outcome) (other : Ani41.Ani) (spawned : Bool) :
    (Process.returned caller threads outcome).place =
      downgrade (returned41 caller threads41 (outcome.onto other spawned)).place := by
  have after (place : Ani41.MainPlace) :
      (if outcome.result = -1 then MainPlace.exited else downgrade place) =
        downgrade (Ani41.afterCall outcome.result place) := by
    unfold Ani41.afterCall
    split <;> rfl
  cases caller with
  | single => exact after .reading
  | loop counter size => exact after (.scanning (counter - size))

theorem returned_ani (caller : Caller) (threads : List Thread) (threads41 : List Ani41.Thread)
    (outcome : Outcome) (other : Ani41.Ani) (spawned : Bool) :
    (returned41 caller threads41 (outcome.onto other spawned)).ani =
      (Process.returned caller threads outcome).ani.onto other := by
  cases caller <;> rfl

/-- A call ends, or the loop over the chunk goes on. -/
theorem returned41_place (caller : Caller) (threads : List Ani41.Thread)
    (outcome : Ani41.Outcome) :
    (returned41 caller threads outcome).place ≠ .freeLinks ∧
      (returned41 caller threads outcome).place ≠ .freeReplys := by
  have after (place : Ani41.MainPlace) (other : place ≠ .freeLinks ∧ place ≠ .freeReplys) :
      Ani41.afterCall outcome.result place ≠ .freeLinks ∧
        Ani41.afterCall outcome.result place ≠ .freeReplys := by
    unfold Ani41.afterCall
    split
    · exact ⟨nofun, nofun⟩
    · exact other
  cases caller with
  | single => exact after .reading ⟨nofun, nofun⟩
  | loop counter size => exact after (.scanning (counter - size)) ⟨nofun, nofun⟩

/-! ## Version 4 can do what version 2.1 does -/

/-- Between two calls, when no thread of version 4 has taken a step. -/
structure Settled (p : Process) (q : Ani41.Process) : Prop where
  place : p.place = downgrade q.place
  ani : ∃ other, q.ani = p.ani.onto other ∧ Bare other ∧
    (q.place = .exited ∨ other.linksMutex = none)
  freed : q.place ≠ .freeLinks ∧ q.place ≠ .freeReplys

def MainPlace.caller? : MainPlace → Option Caller
  | .storePorts caller | .createThread caller | .addPorts caller _ => some caller
  | _ => none

/-- Version 2.1 is in `action_features_reply`, version 4 is about to call it. -/
structure Midway (p : Process) (q : Ani41.Process) (before next : Ani) (caller : Caller)
    (other : Ani41.Ani) : Prop where
  calls : Calls before (downgrade q.place) next caller .featuresReply
  ports : (countPorts next.readBufferp next).noOfPorts ≠ 0
  place : p.place.caller? = some caller
  ani : ∃ told, p.ani = { describe next.readBufferp next with swIn := told }
  waiting : q.ani = before.onto other
  bare : Bare other
  unlocked : other.linksMutex = none

def Follows (p : Process) (q : Ani41.Process) : Prop :=
  Settled p q ∨ ∃ before next caller other, Midway p q before next caller other

section Forward

variable {p next : Process} {q after : Ani41.Process} {event : Event}

/-- What there is to show for a step of version 2.1. -/
def Matched (event : Event) (next : Process) (q : Ani41.Process) : Prop :=
  ∃ marks after, Run Ani41.Process.Step q marks after ∧
    marks.filterMap shown41 = event.shown.toList ∧ Follows next after

theorem Matched.one {mark : Ani41.Event} (taken : Ani41.Process.Step q mark after)
    (same : shown41 mark = event.shown) (settled : Settled next after) : Matched event next q := by
  obtain ⟨marks, run, shows⟩ := Run.matches taken same
  exact ⟨marks, after, run, shows, .inl settled⟩

theorem Matched.idle (silent : event.shown = none) (follows : Follows next q) :
    Matched event next q :=
  ⟨[], q, .refl, by rw [silent]; rfl, follows⟩

theorem Calls.not_exited {s t : Ani} {place : Ani41.MainPlace} {caller : Caller} {handler : Handler}
    (calls : Calls s (downgrade place) t caller handler) : place ≠ .exited := by
  rintro rfl
  cases calls

/-- A call that both versions make. -/
theorem Matched.call {s t : Ani} {place41 : Ani41.MainPlace} {caller : Caller} {handler : Handler}
    {env : Env} {other with41 : Ani41.Ani} {outcome : Outcome} {spawned : Bool}
    {threads : List Thread} {threads41 : List Ani41.Thread}
    (calls : Calls s (downgrade place41) t caller handler)
    (run : Ani41.handle handler env t.readBufferp (t.onto other) =
      some (outcome.onto with41 spawned))
    (bare : Bare with41) (free : outcome.result = -1 ∨ with41.linksMutex = none)
    (same : shown41 (.handled (.of handler t.readBufferp (t.onto other) env
      (outcome.onto with41 spawned))) = event.shown) :
    Matched event (Process.returned caller threads outcome) ⟨s.onto other, place41, threads41⟩ := by
  apply Matched.one (calls.step41 rfl threads41 run) same
  refine ⟨returned_place .., ⟨with41, returned_ani .., bare, ?_⟩, returned41_place ..⟩
  rcases free with failed | unlocked
  · left
    have exits (place : Ani41.MainPlace) : Ani41.afterCall outcome.result place = .exited :=
      if_pos failed
    cases caller with
    | single => exact exits _
    | loop counter size => exact exits _
  · exact .inr unlocked

/-- Version 4 frees its empty lists as well. -/
theorem frees {s : Ani} {other : Ani41.Ani} (bare : Bare other)
    {ports : ObjectList Ani41.SwitchPort} {count : Int}
    (released : s.ports.freeList = some (ports, count))
    (threads41 : List Ani41.Thread) :
    Run Ani41.Process.Step ⟨s.onto other, .freePorts, threads41⟩ [.internal, .internal, .internal]
      ⟨Ani.onto { s with ports := ports } { other with links := .empty, swReplys := .empty },
        .accepting, threads41⟩ := by
  have links : other.links.freeList = some (.empty, -1) := by
    rw [bare.links]
    rfl
  have swReplys : other.swReplys.freeList = some (.empty, -1) := by
    rw [bare.swReplys]
    rfl
  have first : Ani41.Process.Step ⟨s.onto other, .freePorts, threads41⟩ .internal
      ⟨Ani.onto { s with ports := ports } other, .freeLinks, threads41⟩ := .freePorts released
  have second : Ani41.Process.Step
      ⟨Ani.onto { s with ports := ports } other, .freeLinks, threads41⟩ .internal
      ⟨Ani.onto { s with ports := ports } { other with links := .empty }, .freeReplys,
        threads41⟩ := .freeLinks links
  exact .cons first (.cons second (.single (.freeReplys swReplys)))

theorem Settled.step (settled : Settled p q) (step : Process.Step p event next)
    (plain : ∀ shown ∈ event.shown, Plain shown) : Matched event next q := by
  obtain ⟨samePlace, ⟨other, sameAni, bare, free⟩, freed⟩ := settled
  obtain ⟨ani41, place41, threads41⟩ := q
  simp only at samePlace sameAni free freed
  subst sameAni
  have goes {s t : Ani} {place : Ani41.MainPlace} (next41 : Ani41.MainPlace)
      {threads : List Thread} {mark : Ani41.Event}
      (unlocked : next41 = .exited ∨ other.linksMutex = none)
      (ends : next41 ≠ .freeLinks ∧ next41 ≠ .freeReplys)
      (taken : Ani41.Process.Step ⟨s.onto other, place, threads41⟩ mark
        ⟨t.onto other, next41, threads41⟩) (same : shown41 mark = event.shown) :
      Matched event ⟨t, downgrade next41, threads⟩ ⟨s.onto other, place, threads41⟩ :=
    .one taken same ⟨rfl, ⟨other, rfl, bare, unlocked⟩, ends⟩
  have still {s : Ani} {place : MainPlace} {threads : List Thread}
      (same : place = downgrade place41) (silent : event.shown = none) :
      Matched event ⟨s, place, threads⟩ ⟨s.onto other, place41, threads41⟩ :=
    .idle silent (.inl ⟨same, ⟨other, rfl, bare, free⟩, freed⟩)
  cases step with
  | received some fits =>
      cases place41 <;> cases samePlace
      exact goes .sending (.inr (free.resolve_left nofun)) ⟨nofun, nofun⟩ (.received some fits) rfl
  | lost failed =>
      cases place41 <;> cases samePlace
      exact goes .closing (.inr (free.resolve_left nofun)) ⟨nofun, nofun⟩ (.lost failed) rfl
  | closed =>
      cases place41 <;> cases samePlace
      exact goes .freeHosts (.inr (free.resolve_left nofun)) ⟨nofun, nofun⟩ .closed rfl
  | freeHosts released =>
      cases place41 <;> cases samePlace
      exact goes .freePorts (.inr (free.resolve_left nofun)) ⟨nofun, nofun⟩
        (.freeHosts released) rfl
  | freePorts released =>
      cases place41 <;> cases samePlace
      refine ⟨_, _, frees bare released threads41, rfl, .inl ⟨rfl, ⟨_, rfl, ⟨rfl, rfl⟩, ?_⟩, ?_⟩⟩
      · exact .inr (free.resolve_left nofun)
      · exact ⟨nofun, nofun⟩
  | connected =>
      cases place41 <;> cases samePlace
      · exact absurd rfl freed.1
      · exact absurd rfl freed.2
      · exact goes .sending (.inr (free.resolve_left nofun)) ⟨nofun, nofun⟩ .connected rfl
  | refused =>
      cases place41 <;> cases samePlace
      · exact absurd rfl freed.1
      · exact absurd rfl freed.2
      · exact goes .exited (.inl rfl) ⟨nofun, nofun⟩ .refused rfl
  | scan bench =>
      cases place41 <;> cases samePlace
      exact goes (.scanning _) (.inr (free.resolve_left nofun)) ⟨nofun, nofun⟩ (.scan bench) rfl
  | @ignored s next threads normal chosen =>
      cases place41 <;> cases samePlace
      have chosen41 := normalHandler_onto { s with readBufferp := 0 } other
      rw [chosen] at chosen41
      exact goes .reading (.inr (free.resolve_left nofun)) ⟨nofun, nofun⟩
        (.ignored normal chosen41) rfl
  | scanned done =>
      cases place41 <;> cases samePlace
      exact goes .reading (.inr (free.resolve_left nofun)) ⟨nofun, nofun⟩ (.scanned done) rfl
  | @unknown s next threads counter more checked =>
      cases place41 <;> cases samePlace
      have checked41 := checkOpenflow_onto s.readBufferp s other
      rw [checked] at checked41
      exact goes .reading (.inr (free.resolve_left nofun)) ⟨nofun, nofun⟩
        (.unknown more checked41) rfl
  | @skipped s next threads counter more checked none =>
      cases place41 <;> cases samePlace
      have checked41 := checkOpenflow_onto s.readBufferp s other
      rw [checked] at checked41
      have skips : Ani41.Process.Step ⟨s.onto other, .scanning counter, threads41⟩ .internal
          ⟨Ani.onto { next with readBufferp := next.readBufferp + packetSize next } other,
            .scanning (counter - packetSize next), threads41⟩ := by
        rw [packetSize_onto next other]
        exact .skipped more checked41 ((view_onto next other _).symm ▸ none)
      exact goes (.scanning _) (.inr (free.resolve_left nofun)) ⟨nofun, nofun⟩ skips rfl
  | @answered s next place threads caller handler env outcome calls run =>
      subst samePlace
      have unlocked := free.resolve_left calls.not_exited
      have notReply : handler ≠ .featuresReply := by
        rintro rfl
        cases run
      have noDiscovery := plain (.handled (callOf handler next env outcome)) rfl
      have same := handle_onto env next.readBufferp next other notReply
        fun packout lldp => ⟨noDiscovery _ rfl packout lldp, unlocked⟩
      rw [run, Option.map_some] at same
      exact .call calls same bare (.inr unlocked) rfl
  | @noPorts s next place threads caller env calls none =>
      subst samePlace
      have unlocked := free.resolve_left calls.not_exited
      have same := actionFeaturesReply_noPorts env next.readBufferp next other unlocked none
      exact .call calls same ⟨bare.links, bare.swReplys⟩ (.inl rfl) rfl
  | @described s next place threads caller calls ports =>
      subst samePlace
      have unlocked := free.resolve_left calls.not_exited
      exact .idle rfl (.inr ⟨s, next, caller, other, calls, ports, rfl, ⟨_, rfl⟩, rfl, bare,
        unlocked⟩)
  | storedPorts => cases place41 <;> cases samePlace
  | created => cases place41 <;> cases samePlace
  | notCreated => cases place41 <;> cases samePlace
  | configured _ _ => cases place41 <;> cases samePlace
  | thread _ _ => exact still samePlace rfl
  | shared _ _ => exact still samePlace rfl

theorem Midway.step {before t : Ani} {caller : Caller} {other : Ani41.Ani}
    (midway : Midway p q before t caller other) (step : Process.Step p event next) :
    Matched event next q := by
  obtain ⟨calls, ports, place, ⟨told, ani⟩, waiting, bare, unlocked⟩ := midway
  obtain ⟨ani41, place41, threads41⟩ := q
  simp only at calls waiting
  subst waiting
  have still {s : Ani} {place : MainPlace} {threads : List Thread} {told : SwitchInfo}
      (inside : place.caller? = some caller)
      (same : s = { describe t.readBufferp t with swIn := told }) (silent : event.shown = none) :
      Matched event ⟨s, place, threads⟩ ⟨before.onto other, place41, threads41⟩ :=
    .idle silent (.inr ⟨before, t, caller, other, calls, ports, inside, ⟨_, same⟩, rfl, bare,
      unlocked⟩)
  cases step with
  | storedPorts =>
      subst ani
      exact still place rfl rfl
  | created => exact still place ani rfl
  | notCreated => exact still place ani rfl
  | @configured s threads caller created env outcome thread run =>
      cases place
      have same := actionFeaturesReply_onto env t.readBufferp t other unlocked ports told
      simp only at ani
      have pointer : s.readBufferp = t.readBufferp := by rw [ani, describe_readBufferp]
      have buffer : s.readBuffer = t.readBuffer := by rw [ani, describe_readBuffer]
      have event : callOf .featuresReply s env outcome = callOf .featuresReply t env outcome := by
        unfold callOf
        rw [buffer, pointer]
      rw [pointer, ani] at run
      rw [run, Option.map_some] at same
      rw [event]
      exact .call calls same bare (.inr unlocked) rfl
  | thread _ _ => exact still place ani rfl
  | shared _ _ => exact still place ani rfl
  | answered inner _ => cases inner <;> cases place
  | noPorts inner _ => cases inner <;> cases place
  | described inner _ => cases inner <;> cases place
  | _ => cases place

/-- Whatever version 2.1 does, version 4 can do. -/
theorem follows : Simulates Process.Step Ani41.Process.Step Event.shown shown41 Plain
    Follows := by
  rintro p next event q (settled | ⟨before, t, caller, other, midway⟩) step plain
  · exact settled.step step plain
  · exact midway.step step

end Forward

/-! ## Version 2.1 can do what version 4 does -/

section Empty

variable {Value : Type} {list moved : ObjectList Value}

theorem getObject_empty (empty : list = .empty) {found : Option Addr}
    (got : list.getObject = some (moved, found)) : moved = list ∧ found = none := by
  subst empty
  cases got
  exact ⟨rfl, rfl⟩

theorem listRewind_empty (empty : list = .empty) : list.listRewind = list := by
  subst empty
  rfl

theorem freeList_empty (empty : list = .empty) {count : Int}
    (released : list.freeList = some (moved, count)) : moved = list := by
  subst empty
  cases released
  rfl

theorem readObject_empty (empty : list = .empty) (address : Addr) :
    list.readObject address = none := by
  subst empty
  rfl

end Empty

/-- A thread of version 4 that never gets a reply changes nothing that version
2.1 has. -/
theorem share_bare {index : Nat} {s next : Ani41.Ani} {thread after : Ani41.Thread}
    {sent : Option (List UInt8)} (step : Ani41.ShareStep index s thread sent next after)
    (bare : Bare s) :
    next = { s with linksMutex := next.linksMutex, animNodeCounter := next.animNodeCounter } := by
  cases step with
  | nextReply _ got => cases (getObject_empty bare.swReplys got).2
  | noReply _ got =>
      obtain ⟨rfl, -⟩ := getObject_empty bare.swReplys got
      rfl
  | shareNode _ found => cases (readObject_empty bare.swReplys _).symm.trans found
  | rewindReplys _ => rw [listRewind_empty bare.swReplys]
  | nextLink _ got => cases (getObject_empty bare.links got).2
  | noLink _ got =>
      obtain ⟨rfl, -⟩ := getObject_empty bare.links got
      rfl
  | printLink _ found => cases (readObject_empty bare.links _).symm.trans found
  | rewindLinks _ => rw [listRewind_empty bare.links]
  | freeReplys _ released =>
      obtain rfl := freeList_empty bare.swReplys released
      rfl
  | freeLinks _ released =>
      obtain rfl := freeList_empty bare.links released
      rfl
  | _ => rfl

section Backward

variable {s t : Ani} {other : Ani41.Ani} {place : MainPlace} {caller : Caller}
variable {threads : List Thread} {threads41 : List Ani41.Thread} {env : Env}

theorem unlocked_of_features {ofBuffer : Nat} {s : Ani41.Ani} {outcome : Ani41.Outcome}
    (run : Ani41.actionFeaturesReply env ofBuffer s = some outcome) : s.linksMutex = none := by
  by_contra held
  have stuck : Ani41.actionFeaturesReply env ofBuffer s = none := if_pos held
  rw [stuck] at run
  cases run

theorem unlocked_of_lldp {ofBuffer : Nat} {s : Ani41.Ani} {outcome : Ani41.Outcome}
    (run : Ani41.actionPackout env ofBuffer s = some outcome)
    (lldp : (parsePacketIn (s.readBuffer.shift ofBuffer)).type = lldpData) :
    s.linksMutex = none := by
  by_contra held
  have stuck (s : Ani41.Ani) (held : s.linksMutex ≠ none) (message : Memory) (packet : PacketIn)
      (lldp : packet.type = lldpData) : Ani41.packoutBranch env message packet s = none := by
    unfold Ani41.packoutBranch
    rw [lldp]
    exact if_pos held
  unfold Ani41.actionPackout at run
  simp only at run
  rw [stuck _ (by exact held) _ _ lldp] at run
  cases run

/-- The steps of version 2.1 for a features reply with ports. -/
theorem Calls.features (calls : Calls s place t caller .featuresReply)
    (ports : (countPorts t.readBufferp t).noOfPorts ≠ 0) {outcome : Outcome}
    (run : configureSwitch env t.readBufferp (storePorts (describe t.readBufferp t)) =
      some outcome) :
    ∃ marks after, Run Process.Step ⟨s, place, threads⟩ marks
        (Process.returned caller after outcome) ∧
      marks.filterMap Event.shown = [.handled (callOf .featuresReply t env outcome)] := by
  have described : Process.Step ⟨s, place, threads⟩
      (.described (switchInfo (t.readBuffer.shift t.readBufferp)))
      ⟨describe t.readBufferp t, .storePorts caller, threads⟩ := .described calls ports
  have pointer : (storePorts (describe t.readBufferp t)).readBufferp = t.readBufferp :=
    describe_readBufferp t.readBufferp t
  have buffer : (storePorts (describe t.readBufferp t)).readBuffer = t.readBuffer :=
    describe_readBuffer t.readBufferp t
  have event : callOf .featuresReply (storePorts (describe t.readBufferp t)) env outcome =
      callOf .featuresReply t env outcome := by
    unfold callOf
    rw [buffer, pointer]
  have configured {created : Bool} (after : List Thread) (thread : env.threadCreated = created) :
      Process.Step ⟨storePorts (describe t.readBufferp t), .addPorts caller created, after⟩
        (.handled (callOf .featuresReply t env outcome))
        (Process.returned caller after outcome) := by
    rw [← event]
    refine .configured thread ?_
    rw [pointer]
    exact run
  cases thread : env.threadCreated with
  | true =>
      exact ⟨_, _, .cons described (.cons .storedPorts (.cons .created
        (.single (configured _ thread)))), rfl⟩
  | false =>
      exact ⟨_, _, .cons described (.cons .storedPorts (.cons .notCreated
        (.single (configured _ thread)))), rfl⟩

theorem normalHandler_back {next41 : Ani41.Ani} {found : Option Handler}
    (chosen : Ani41.normalHandler { s.onto other with readBufferp := 0 } = (next41, found)) :
    ∃ next, normalHandler { s with readBufferp := 0 } = (next, found) ∧
      next41 = next.onto other := by
  have same := normalHandler_onto { s with readBufferp := 0 } other
  cases same.symm.trans chosen
  exact ⟨_, rfl, rfl⟩

theorem checkOpenflow_back {ofBuffer : Nat} {next41 : Ani41.Ani} {checked : Int}
    (chosen : Ani41.checkOpenflow ofBuffer (s.onto other) = (next41, checked)) :
    ∃ next, checkOpenflow ofBuffer s = (next, checked) ∧ next41 = next.onto other := by
  rw [checkOpenflow_onto] at chosen
  cases chosen
  exact ⟨_, rfl, rfl⟩

/-- A call of version 4, matched by version 2.1. -/
theorem Calls.answer {handler : Handler} (calls : Calls s place t caller handler)
    (bare : Bare other) {outcome : Ani41.Outcome}
    (run : Ani41.handle handler env t.readBufferp (t.onto other) = some outcome)
    (plain : Plain (.handled (.of handler t.readBufferp (t.onto other) env outcome))) :
    ∃ marks after, Run Process.Step ⟨s, place, threads⟩ marks after ∧
      marks.filterMap Event.shown =
        [.handled (.of handler t.readBufferp (t.onto other) env outcome)] ∧
      Agree after (returned41 caller threads41 outcome) := by
  have agrees {with41 : Ani41.Ani} (bare : Bare with41) (ended : Outcome) (spawned : Bool)
      (after : List Thread) : Agree (Process.returned caller after ended)
        (returned41 caller threads41 (ended.onto with41 spawned)) :=
    ⟨returned_place .., ⟨with41, returned_ani .., bare⟩⟩
  by_cases features : handler = .featuresReply
  · subst features
    have held : (t.onto other).linksMutex = none := unlocked_of_features run
    have unlocked : other.linksMutex = none := held
    by_cases ports : (countPorts t.readBufferp t).noOfPorts = 0
    · have same := actionFeaturesReply_noPorts env t.readBufferp t other unlocked ports
      have locked : Bare { other with linksMutex := some .main } := ⟨bare.links, bare.swReplys⟩
      cases same.symm.trans run
      exact ⟨_, _, .single (Process.Step.noPorts calls ports), rfl, agrees locked _ _ _⟩
    · have same := actionFeaturesReply_onto env t.readBufferp t other unlocked ports
        (storePorts (describe t.readBufferp t)).swIn
      obtain ⟨ended, configured, rfl⟩ := Option.map_eq_some_iff.mp (same.symm.trans run)
      obtain ⟨marks, after, steps, shows⟩ := calls.features ports configured
      exact ⟨marks, _, steps, shows, agrees bare _ _ _⟩
  · have unlocked (packout : handler = .packout)
        (lldp : (parsePacketIn (t.readBuffer.shift t.readBufferp)).type = lldpData) :
        (t.onto other).linksMutex = none := by
      subst packout
      exact unlocked_of_lldp run lldp
    have same := handle_onto env t.readBufferp t other features fun packout lldp =>
      ⟨plain _ rfl packout lldp, unlocked packout lldp⟩
    obtain ⟨ended, handled, rfl⟩ := Option.map_eq_some_iff.mp (same.symm.trans run)
    exact ⟨_, _, .single (.answered calls handled), rfl, agrees bare _ _ _⟩

/-- Whatever version 4 does, version 2.1 can do. -/
theorem precedes : Simulates Ani41.Process.Step Process.Step shown41 Event.shown Plain
    (fun q p => Agree p q) := by
  rintro q next41 mark ⟨s, place, threads⟩ ⟨samePlace, ⟨other, sameAni, bare⟩⟩ step plain
  obtain ⟨ani41, place41, threads41⟩ := q
  simp only at samePlace sameAni
  subst samePlace sameAni
  -- a step of the main thread that both versions have
  have goes {t : Ani} {place : MainPlace} {event : Event} (after : Ani41.MainPlace)
      (taken : Process.Step ⟨s, place, threads⟩ event ⟨t, downgrade after, threads⟩)
      (same : event.shown = shown41 mark) :
      ∃ marks finish, Run Process.Step ⟨s, place, threads⟩ marks finish ∧
        marks.filterMap Event.shown = (shown41 mark).toList ∧
        Agree finish ⟨t.onto other, after, threads41⟩ := by
    obtain ⟨marks, run, shows⟩ := Run.matches taken same
    exact ⟨marks, _, run, shows, rfl, other, rfl, bare⟩
  have still {bare41 : Ani41.Ani} {place : MainPlace} (after : Ani41.MainPlace)
      {threads41 : List Ani41.Thread} (bare : Bare bare41) (same : place = downgrade after)
      (silent : shown41 mark = none) :
      ∃ marks finish, Run Process.Step ⟨s, place, threads⟩ marks finish ∧
        marks.filterMap Event.shown = (shown41 mark).toList ∧
        Agree finish ⟨s.onto bare41, after, threads41⟩ :=
    ⟨[], _, .refl, by rw [silent]; rfl, same, bare41, rfl, bare⟩
  have shares {index : Nat} {next : Ani41.Ani} {thread after : Ani41.Thread}
      {sent : Option (List UInt8)} {threads41 : List Ani41.Thread} {place : Ani41.MainPlace}
      (taken : Ani41.ShareStep index (s.onto other) thread sent next after)
      (silent : shown41 mark = none) :
      ∃ marks finish, Run Process.Step ⟨s, downgrade place, threads⟩ marks finish ∧
        marks.filterMap Event.shown = (shown41 mark).toList ∧
        Agree finish ⟨next, place, threads41⟩ := by
    have same : next = s.onto { other with
        linksMutex := next.linksMutex, animNodeCounter := next.animNodeCounter } :=
      share_bare taken ⟨bare.links, bare.swReplys⟩
    have kept : Bare { other with
        linksMutex := next.linksMutex, animNodeCounter := next.animNodeCounter } :=
      ⟨bare.links, bare.swReplys⟩
    rw [same]
    exact still place kept rfl silent
  cases step with
  | received some fits => exact goes .sending (.received some fits) rfl
  | lost failed => exact goes .closing (.lost failed) rfl
  | closed => exact goes .freeHosts .closed rfl
  | freeHosts released => exact goes .freePorts (.freeHosts released) rfl
  | freePorts released => exact goes .freeLinks (.freePorts released) rfl
  | freeLinks released =>
      obtain rfl := freeList_empty (show (s.onto other).links = .empty from bare.links) released
      exact (still .freeReplys bare rfl rfl :)
  | freeReplys released =>
      obtain rfl :=
        freeList_empty (show (s.onto other).swReplys = .empty from bare.swReplys) released
      exact (still .accepting bare rfl rfl :)
  | connected => exact goes .sending .connected rfl
  | refused => exact goes .exited .refused rfl
  | scan bench => exact goes (.scanning _) (.scan bench) rfl
  | ignored normal chosen =>
      obtain ⟨t, chosen21, rfl⟩ := normalHandler_back chosen
      exact goes .reading (.ignored normal chosen21) rfl
  | answered normal chosen run =>
      obtain ⟨t, chosen21, rfl⟩ := normalHandler_back chosen
      exact Calls.answer (.single normal chosen21) bare run (plain _ rfl)
  | scanned done => exact goes .reading (.scanned done) rfl
  | unknown more checked =>
      obtain ⟨t, checked21, rfl⟩ := checkOpenflow_back checked
      exact goes .reading (.unknown more checked21) rfl
  | skipped more checked none =>
      obtain ⟨t, checked21, rfl⟩ := checkOpenflow_back checked
      rw [view_onto] at none
      rw [← packetSize_onto t other]
      exact goes (.scanning _) (.skipped more checked21 none) rfl
  | scanAnswered more checked chosen run =>
      obtain ⟨t, checked21, rfl⟩ := checkOpenflow_back checked
      rw [view_onto] at chosen
      rw [← packetSize_onto t other]
      exact Calls.answer (.loop more checked21 chosen) bare run (plain _ rfl)
  | thread _ taken => exact shares taken rfl
  | shared _ taken => exact shares taken rfl

end Backward

/-! ## The runs -/

theorem initial_agree (cbench : Bool) :
    Agree (Process.initial cbench) (Ani41.Process.initial cbench) :=
  ⟨rfl, Ani41.Ani.initial cbench, rfl, rfl, rfl⟩

theorem Follows.agree {p : Process} {q : Ani41.Process} (follows : Follows p q)
    (outside : p.place.caller? = none) : Agree p q := by
  rcases follows with settled | ⟨before, next, caller, other, midway⟩
  · obtain ⟨other, same, bare, -⟩ := settled.ani
    exact ⟨settled.place, other, same, bare⟩
  · rw [midway.place] at outside
    cases outside

/-- As long as no message of the new discovery is handled, what the main thread
of one version can show the other one can show, and whenever version 2.1 is not
in `action_features_reply` they end with the same tables and the same lines on
the console. -/
theorem upgrade_shows_same (cbench : Bool) :
    (∀ events p, Process.Reaches cbench events p →
      (∀ shown ∈ events.filterMap Event.shown, Plain shown) →
      ∃ marks q, Ani41.Process.Reaches cbench marks q ∧
        marks.filterMap shown41 = events.filterMap Event.shown ∧
        (p.place.caller? = none → Agree p q)) ∧
    ∀ marks q, Ani41.Process.Reaches cbench marks q →
      (∀ shown ∈ marks.filterMap shown41, Plain shown) →
      ∃ events p, Process.Reaches cbench events p ∧
        events.filterMap Event.shown = marks.filterMap shown41 ∧ Agree p q := by
  have start := initial_agree cbench
  constructor
  · intro events p run plain
    have settled : Settled (Process.initial cbench) (Ani41.Process.initial cbench) :=
      ⟨rfl, ⟨Ani41.Ani.initial cbench, rfl, ⟨rfl, rfl⟩, .inr rfl⟩, nofun, nofun⟩
    obtain ⟨marks, q, reaches, same, still⟩ := follows.run (.inl settled) run plain
    exact ⟨marks, q, reaches, same, still.agree⟩
  · intro marks q run plain
    exact precedes.run start run plain

/-- The report of the frame in which another controller greets. -/
def heardGreeting : List UInt8 :=
  PacketInMessage.encode
    { xid := 9, bufferId := 257, totalLen := 1038, inPort := 1, reason := 0
      data := (greetingFrame 12).take 128 }

/-- A switch says `HELLO` and tells its port, its host asks for an address, and
the controller of a neighbour greets. -/
def exchange : List Choice :=
  [.deliver (headerMessage ofptHello 5), .call .calm,
    .deliver (Ani41.featuresMessage 11 [1]), .call .calm, .storePorts, .createThread true,
    .configure .calm, .deliver (Ani41.arpReport 1 Mac.broadcast Ani41.hostA), .call .calm,
    .deliver heardGreeting, .call .calm]

theorem upgrade_shows_same_exchange :
    ∃ events p marks q, Process.Reaches false events p ∧ Ani41.Process.Reaches false marks q ∧
      (events.filterMap Event.shown).length = 8 ∧ .message (greeting 12) ∈ p.ani.console ∧
      q.ani.hosts.contents.length = 1 ∧ q.ani.console.length = 2 ∧
      marks.filterMap shown41 = events.filterMap Event.shown ∧ Agree p q ∧
      ∃ again r, Process.Reaches false again r ∧
        again.filterMap Event.shown = marks.filterMap shown41 ∧ Agree r q := by
  have computed : ((Process.initial false).play exchange).map (fun run =>
      (run.1.filterMap Event.shown |>.length, (run.1.filterMap Event.shown).all isPlain,
        decide (run.2.place = .reading), decide (.message (greeting 12) ∈ run.2.ani.console),
        run.2.ani.hosts.contents.length, (run.2.ani.console.filterMap Line.upgrade).length)) =
      some (8, true, true, true, 1, 2) := by decide +kernel
  obtain ⟨⟨events, p⟩, played, same⟩ := Option.map_eq_some_iff.mp computed
  simp only [Prod.mk.injEq, decide_eq_true_eq, List.all_eq_true] at same
  obtain ⟨many, plain, reading, greets, known, printed⟩ := same
  have plain : ∀ shown ∈ events.filterMap Event.shown, Plain shown := fun shown member =>
    plain_of_isPlain (plain shown member)
  have run : Process.Reaches false events p := Process.play_run played
  obtain ⟨marks, q, reaches, shows, agrees⟩ := (upgrade_shows_same false).1 events p run plain
  have agree : Agree p q := agrees (by rw [reading]; rfl)
  obtain ⟨other, ani, -⟩ := agree.ani
  refine ⟨events, p, marks, q, run, reaches, many, greets, ?_, ?_, shows, agree, ?_⟩
  · rw [ani]
    exact known
  · rw [ani]
    exact printed
  · exact (upgrade_shows_same false).2 marks q reaches (by rwa [shows])

end DAIM.Ani21
