import DAIM.OpenFlow.Frames
import DAIM.Ani21.Process
import DAIM.Ani41.Sent

/-!
# What the handlers do

What a handler sends and prints, and what it leaves alone.  The messages of the
main thread make no switch emit a frame of the controller and install no flow
for discovery frames; only discovery frames make it print a text.
-/

namespace DAIM.Ani21

open DAIM.Library DAIM.OpenFlow DAIM.Linked DAIM.Com
open DAIM.Ani41 (Handler)

/-- What no handler but `action_features_reply` changes. -/
structure Fixed where
  swIn : SwitchInfo
  cbench : Bool
  readBuffer : Memory
  readBufferp : Nat
  readBufferLen : Int

def Ani.fixed (s : Ani) : Fixed :=
  ⟨s.swIn, s.cbench, s.readBuffer, s.readBufferp, s.readBufferLen⟩

def Line.text? : Line → Option (List UInt8)
  | .message text => some text
  | _ => none

/-- The texts on the console. -/
def Ani.texts (s : Ani) : List (List UInt8) := s.console.filterMap Line.text?

/-- No text was printed, and nothing else was changed that stays fixed. -/
structure Silent (s next : Ani) : Prop where
  fixed : next.fixed = s.fixed
  texts : next.texts = s.texts

theorem Silent.trans {s middle next : Ani} (first : Silent s middle) (second : Silent middle next) :
    Silent s next :=
  ⟨second.fixed.trans first.fixed, second.texts.trans first.texts⟩

theorem Ani.silent_transactionId (s : Ani) (xid : UInt32) :
    Silent s { s with transactionId := xid } := ⟨rfl, rfl⟩

/-- A packet without a frame, a flow for other frames, or neither. -/
structure Modest (bytes : List UInt8) : Prop where
  packet : ∀ packet, PacketOut.decode bytes = some packet → packet.data = []
  flow : ∀ flow, FlowMod.decode bytes = some flow → flow.fields.dlType ≠ lldpData

theorem Modest.of_plain {bytes : List UInt8} (plain : Ani41.Plain bytes) : Modest bytes where
  packet _ decoded := absurd (PacketOut.type_of_decode decoded) plain.type.1
  flow _ decoded := absurd (FlowMod.type_of_decode decoded) plain.type.2

/-- The rest of the state, and what was sent. -/
structure Effects (s : Ani) (sending : Sending) : Prop where
  silent : Silent s sending.1
  modest : ∀ bytes ∈ sending.2, Modest bytes

theorem Effects.none {s next : Ani} (silent : Silent s next) : Effects s (next, []) :=
  ⟨silent, nofun⟩

theorem Effects.after {s middle : Ani} {sending : Sending} (effects : Effects middle sending)
    (silent : Silent s middle) : Effects s sending :=
  ⟨silent.trans effects.silent, effects.modest⟩

/-! ## `action_packout` -/

section Packout

variable {env : Env} {packet : PacketIn} {message : Memory} {s : Ani} {sending : Sending}

theorem sendFlood_effects : Effects s (sendFlood env packet s) := by
  refine ⟨⟨rfl, rfl⟩, fun bytes member => ?_⟩
  have written := createOfPacketOut_bytes Memory.zero s.transactionId packet.bufferId
    packet.inPort 0 ofppFlood
  have same : bytes = _ := (List.mem_singleton.mp member).trans written
  rw [same]
  refine ⟨fun decoded run => ?_, fun flow run => ?_⟩
  · rw [PacketOut.decode_encode (by show 24 < 65536; decide)] at run
    cases run
    rfl
  · exact absurd (FlowMod.type_of_decode run) (show ofptPacketOut ≠ ofptFlowMod by decide)

theorem sendFlowMod_effects {nwSrc nwDst : UInt32} {tpSrc tpDst : UInt16} {nwProto : UInt8}
    {dlType outPort : UInt16} (other : dlType ≠ lldpData) :
    Effects s (sendFlowMod env packet nwSrc nwDst (htons tpSrc) (htons tpDst) nwProto dlType
      outPort s) := by
  refine ⟨⟨rfl, rfl⟩, fun bytes member => ?_⟩
  have written := createOfFlowMod_bytes Memory.zero s.transactionId packet.inPort 0
    packet.bufferId ofpfcAdd 0 0 0 60 0 0 nwSrc nwDst tpSrc tpDst nwProto 0 ofpVlanNone
    (htons 0).toUInt8 packet.src packet.dst dlType 0 outPort
  have same : bytes = _ := (List.mem_singleton.mp member).trans written
  rw [same]
  refine ⟨fun packet run => ?_, fun flow run => ?_⟩
  · exact absurd (PacketOut.type_of_decode run) (show ofptFlowMod ≠ ofptPacketOut by decide)
  · rw [FlowMod.decode_encode (by show 80 < 65536; decide)] at run
    cases run
    exact other

theorem texts_hosts (entries : List SwitchHost) :
    (entries.map Line.host).filterMap Line.text? = [] := by
  rw [List.filterMap_map, List.filterMap_eq_nil_iff]
  exact fun _ _ => rfl

theorem learnHost_silent {ipSrc : UInt32} {next : Ani}
    (run : learnHost env packet ipSrc s = some next) : Silent s next := by
  unfold learnHost at run
  split at run
  · cases run
  · cases run
    refine ⟨rfl, ?_⟩
    unfold Ani.texts
    rw [List.filterMap_append, texts_hosts, List.append_nil]

theorem lookupPort_silent {dst : Mac} {next : Ani} {port : UInt16}
    (run : lookupPort dst s = some (next, port)) : Silent s next := by
  unfold lookupPort at run
  split at run
  · cases run
  · cases run
    exact ⟨rfl, rfl⟩

theorem packoutIp6_effects : Effects s (packoutIp6 env packet s) := by
  unfold packoutIp6
  split
  · exact sendFlood_effects
  · exact .none ⟨rfl, rfl⟩

theorem packoutArp_effects (run : packoutArp env message packet s = some sending) :
    Effects s sending := by
  unfold packoutArp at run
  simp only at run
  split at run
  · cases run
  · rename_i learned learns
    have kept := learnHost_silent learns
    split at run
    · cases run
      exact sendFlood_effects.after kept
    · split at run
      · cases run
      · rename_i found port looked
        have same := kept.trans (lookupPort_silent looked)
        split at run
        · cases run
          exact (sendFlowMod_effects (by decide)).after same
        · cases run
          exact .none same

theorem packoutIp_effects (run : packoutIp env message packet s = some sending) :
    Effects s sending := by
  unfold packoutIp at run
  simp only at run
  split at run
  · cases run
  · rename_i found port looked
    have same := lookupPort_silent looked
    have flow {nwSrc nwDst : UInt32} {tpSrc tpDst : UInt16} {nwProto : UInt8} :
        Effects s (sendFlowMod env packet nwSrc nwDst (htons tpSrc) (htons tpDst) nwProto ipData
          port found) :=
      (sendFlowMod_effects (by decide)).after same
    -- ICMP, TCP and UDP, to a known and to an unknown port each, and two others
    split at run
    · split at run
      · cases run
        exact flow
      · cases run
        exact .none same
    · split at run
      · split at run
        · cases run
          exact flow
        · cases run
          exact .none same
      · split at run
        · split at run
          · cases run
            exact flow
          · cases run
            exact .none same
        · split at run
          · cases run
            exact sendFlood_effects.after same
          · cases run
            exact .none same

/-- For a discovery frame `action_packout` prints what it carries. -/
theorem packoutBranch_effects (run : packoutBranch env message packet s = some sending) :
    packet.type ≠ lldpData ∧ Effects s sending ∨
      packet.type = lldpData ∧ sending.2 = [] ∧ sending.1.fixed = s.fixed ∧
        sending.1.texts = s.texts ++ [cString ((payload message).slice 0 messageSize)] := by
  unfold packoutBranch at run
  split at run
  · rename_i ip6
    cases run
    exact .inl ⟨ne_of_eq_of_ne ip6 (by decide), packoutIp6_effects⟩
  · split at run
    · rename_i arp
      exact .inl ⟨ne_of_eq_of_ne arp (by decide), packoutArp_effects run⟩
    · split at run
      · rename_i ip
        exact .inl ⟨ne_of_eq_of_ne ip (by decide), packoutIp_effects run⟩
      · split at run
        · rename_i lldp
          unfold packoutLldp at run
          simp only at run
          split at run
          · cases run
            refine .inr ⟨lldp, rfl, rfl, ?_⟩
            unfold Ani.texts
            rw [List.filterMap_append]
            rfl
          · cases run
        · rename_i other
          cases run
          exact .inl ⟨other, .none ⟨rfl, rfl⟩⟩

end Packout

/-! ## All handlers -/

/-- What a call prints as a text. -/
def printed (handler : Handler) (message : Memory) : List (List UInt8) :=
  if handler = .packout ∧ (parsePacketIn message).type = lldpData then
    [cString ((payload message).slice 0 messageSize)]
  else
    []

/-- A message of the main thread, which does not answer a discovery frame. -/
structure Modest.Answer (handler : Handler) (message : Memory) (bytes : List UInt8) : Prop where
  modest : Modest bytes
  other : handler = .packout → (parsePacketIn message).type ≠ lldpData

/-- The effects of a handler that got the message. -/
structure Answers (handler : Handler) (message : Memory) (s : Ani) (outcome : Outcome) : Prop where
  fixed : outcome.ani.fixed = s.fixed
  texts : outcome.ani.texts = s.texts ++ printed handler message
  modest : ∀ bytes ∈ outcome.sent, Modest.Answer handler message bytes

theorem Answers.plain {handler : Handler} {message : Memory} {s : Ani} {outcome : Outcome}
    (other : handler ≠ .packout) (silent : Silent s outcome.ani)
    (plain : ∀ bytes ∈ outcome.sent, Ani41.Plain bytes) : Answers handler message s outcome where
  fixed := silent.fixed
  texts := by rw [printed, if_neg (fun both => other both.1), List.append_nil, silent.texts]
  modest bytes member := ⟨.of_plain (plain bytes member), fun packout => absurd packout other⟩

section Handlers

variable {env : Env} {ofBuffer : Nat} {s : Ani} {outcome : Outcome}

theorem actionHello_answers (message : Memory) :
    Answers .hello message s (actionHello env ofBuffer s) := by
  apply Answers.plain (by decide)
  · unfold actionHello
    simp only
    split
    · exact ⟨rfl, rfl⟩
    · split
      · split
        · exact ⟨rfl, rfl⟩
        · split
          · exact ⟨rfl, rfl⟩
          · exact ⟨rfl, rfl⟩
      · exact ⟨rfl, rfl⟩
  · unfold actionHello Ani.outgoing Ani.send
    simp only [createOfHello_bytes, createOfFeaturesRequest_bytes]
    have one {xid : UInt32} : ∀ bytes ∈ [headerMessage ofptHello xid], Ani41.Plain bytes :=
      fun bytes member => .hello (List.mem_singleton.mp member)
    have both {xid next : UInt32} :
        ∀ bytes ∈ [headerMessage ofptHello xid, headerMessage ofptFeaturesRequest next],
          Ani41.Plain bytes := by
      intro bytes member
      rcases List.mem_cons.mp member with hello | request
      · exact .hello hello
      · exact .featuresRequest (List.mem_singleton.mp request)
    split
    · exact one
    · split
      · split
        · exact both
        · split
          · exact both
          · exact both
      · exact one

theorem actionEcho_answers (message : Memory) :
    Answers .echo message s (actionEcho env ofBuffer s) := by
  apply Answers.plain (by decide)
  · unfold actionEcho
    simp only
    split
    · exact ⟨rfl, rfl⟩
    · split
      · exact ⟨rfl, rfl⟩
      · exact ⟨rfl, rfl⟩
  · unfold actionEcho Ani.outgoing Ani.send
    simp only [createOfEchoReply_bytes]
    have reply {xid : UInt32} : ∀ bytes ∈ [headerMessage ofptEchoReply xid], Ani41.Plain bytes :=
      fun bytes member => .echoReply (List.mem_singleton.mp member)
    split
    · exact reply
    · split
      · exact reply
      · exact reply

theorem sendSwitchConfig_answers (message : Memory) :
    Answers .featuresReply message s (sendSwitchConfig env s) := by
  apply Answers.plain (by decide)
  · unfold sendSwitchConfig
    simp only
    split
    · exact ⟨rfl, rfl⟩
    · split
      · exact ⟨rfl, rfl⟩
      · exact ⟨rfl, rfl⟩
  · unfold sendSwitchConfig Ani.outgoing Ani.send
    simp only [createOfSwitchConfig_bytes]
    have config {xid : UInt32} :
        ∀ bytes ∈ [switchConfigMessage xid 0 128], Ani41.Plain bytes :=
      fun bytes member => .switchConfig (List.mem_singleton.mp member)
    split
    · exact config
    · split
      · exact config
      · exact config

theorem texts_ports (entries : List Ani41.SwitchPort) :
    (entries.map Line.port).filterMap Line.text? = [] := by
  rw [List.filterMap_map, List.filterMap_eq_nil_iff]
  exact fun _ _ => rfl

theorem configureSwitch_answers (message : Memory)
    (run : configureSwitch env ofBuffer s = some outcome) :
    Answers .featuresReply message s outcome := by
  unfold configureSwitch at run
  simp only at run
  split at run
  · cases run
  · split at run
    · cases run
    · rename_i ports printed _
      cases run
      generalize same : { s with
        ports := ports
        console := s.console ++ printed.map Line.port } = added
      obtain ⟨fixed, texts, modest⟩ : Answers .featuresReply message added
        (sendSwitchConfig env added) := sendSwitchConfig_answers message
      subst same
      refine ⟨fixed, texts.trans ?_, modest⟩
      unfold Ani.texts
      rw [List.filterMap_append, texts_ports, List.append_nil]

theorem actionPackout_answers (run : actionPackout env ofBuffer s = some outcome) :
    Answers .packout (s.readBuffer.shift ofBuffer) s outcome := by
  unfold actionPackout at run
  simp only at run
  split at run
  · cases run
  · rename_i next sent branch
    have begins := s.silent_transactionId (parsePacketIn (s.readBuffer.shift ofBuffer)).xid
    have done : Answers .packout (s.readBuffer.shift ofBuffer) s ⟨next, sent, outcome.result⟩ := by
      rcases packoutBranch_effects branch with ⟨other, effects⟩ | ⟨lldp, silent, fixed, texts⟩
      · have kept := begins.trans effects.silent
        refine ⟨kept.fixed, ?_, fun bytes member => ?_⟩
        · rw [printed, if_neg (fun both => other both.2), List.append_nil]
          exact kept.texts
        · exact ⟨effects.modest bytes member, fun _ => other⟩
      · refine ⟨fixed.trans begins.fixed, ?_, fun bytes member => ?_⟩
        · rw [printed, if_pos ⟨rfl, lldp⟩, ← begins.texts]
          exact texts
        · rw [show sent = [] from silent] at member
          cases member
    split at run
    · cases run
      exact done
    · cases run
      exact done

theorem handle_answers {handler : Handler} (run : handle handler env ofBuffer s = some outcome) :
    Answers handler (s.readBuffer.shift ofBuffer) s outcome := by
  cases handler with
  | hello =>
      cases run
      exact actionHello_answers _
  | featuresReply => cases run
  | packout => exact actionPackout_answers run
  | echo =>
      cases run
      exact actionEcho_answers _

end Handlers

/-! ## The calls of the handlers -/

section Calls

variable {s next : Ani}

theorem checkOpenflow_silent {ofBuffer : Nat} {checked : Int}
    (called : checkOpenflow ofBuffer s = (next, checked)) : Silent s next := by
  unfold checkOpenflow at called
  simp only at called
  split at called <;> (cases called; exact ⟨rfl, rfl⟩)

theorem normalHandler_silent {found : Option Handler} (chosen : normalHandler s = (next, found)) :
    Silent s next := by
  unfold normalHandler at chosen
  split at chosen
  rename_i looked checked called
  have same := checkOpenflow_silent called
  split at chosen <;> (cases chosen; exact same)

/-- Before a call only the position in the buffer is set. -/
theorem Calls.silent {place : MainPlace} {caller : Caller} {handler : Handler}
    (calls : Calls s place next caller handler) :
    Silent { s with readBufferp := next.readBufferp } next := by
  cases calls with
  | single _ chosen =>
      have same := normalHandler_silent chosen
      have start : next.readBufferp = 0 := congrArg Fixed.readBufferp same.fixed
      rwa [start]
  | loop _ checked _ =>
      have same := checkOpenflow_silent checked
      have position : next.readBufferp = s.readBufferp := congrArg Fixed.readBufferp same.fixed
      rwa [position]

end Calls

/-! ## The steps of the process -/

section Steps

variable {p q : Process} {event : Event}

def Event.call? : Event → Option Ani41.Call
  | .handled call => some call
  | _ => none

/-- The thread that is created, or that sends. -/
def Event.thread? : Event → Option Nat
  | .created index => some index
  | .shared index _ => some index
  | _ => none

/-- The texts that a step prints. -/
def Event.prints : Event → List (List UInt8)
  | .handled call => printed call.handler call.message
  | _ => []

theorem returned_texts (caller : Caller) (threads : List Thread) (outcome : Outcome) :
    (Process.returned caller threads outcome).ani.texts = outcome.ani.texts := by
  cases caller <;> rfl

/-- The handlers print what they are called with, and no other step prints a text. -/
theorem Process.Step.texts (step : Process.Step p event q) :
    q.ani.texts = p.ani.texts ++ event.prints := by
  have quiet {s next : Ani} (same : next.texts = s.texts) : next.texts = s.texts ++ [] := by
    rw [same, List.append_nil]
  cases step with
  | answered calls run =>
      rw [returned_texts, (handle_answers run).texts]
      exact congrArg (· ++ _) calls.silent.texts
  | noPorts calls _ =>
      rw [returned_texts]
      exact quiet calls.silent.texts
  | @described s next place threads caller calls _ =>
      have same : (storeDatapath next.readBufferp (countPorts next.readBufferp next)).texts =
          next.texts := by simp only [Ani.texts, storeDatapath, countPorts]
      exact quiet (same.trans calls.silent.texts)
  | configured _ run =>
      rw [returned_texts]
      exact (configureSwitch_answers _ run).texts
  | ignored _ chosen => exact quiet (normalHandler_silent chosen).texts
  | unknown _ checked => exact quiet (checkOpenflow_silent checked).texts
  | skipped _ checked _ => exact quiet (checkOpenflow_silent checked).texts
  | _ => exact quiet rfl

/-- What the main thread sends. -/
theorem Process.Step.modest {call : Ani41.Call} (step : Process.Step p (.handled call) q) :
    ∀ bytes ∈ call.sent, Modest.Answer call.handler call.message bytes := by
  generalize shown : Event.handled call = event at step
  intro bytes member
  cases step with
  | answered calls run =>
      cases shown
      exact (handle_answers run).modest bytes member
  | noPorts calls _ =>
      cases shown
      cases member
  | configured _ run =>
      cases shown
      exact (configureSwitch_answers _ run).modest bytes member
  | _ => cases shown

end Steps

end DAIM.Ani21
