import DAIM.Ani41.Branches
import DAIM.Ani41.Sent

/-!
# What the result of a handler tells

A handler judges its sends by `write_buffer_len`, and runs off its end where it
has no judgement.  The results of `send` are -1 or positive.
-/

namespace DAIM.Ani41

open DAIM.Library DAIM.OpenFlow DAIM.Linked DAIM.Com DAIM.Hosts

/-- The hosts that the destination of a packet is looked up in: the sender of
an ARP packet was learned before. -/
def hostsHeard (env : Env) (s : Ani) (message : Memory) : List SwitchHost :=
  if IsArp message ∧ env.allocated 0 = true then
    insertNew SwitchHost.macAddr s.hosts.contents (hostEntry s.switchId message)
  else s.hosts.contents

/-- The packet is answered out of `write_buffer`. -/
def WritesAnswer (cbench : Bool) (hosts : List SwitchHost) (message : Memory) : Prop :=
  let packet := parsePacketIn message
  let protocol := payload message Iphdr.protocol
  packet.type = ip6Data ∧ cbench = true ∨
    packet.type = arpData ∧ (packet.dst = Mac.broadcast ∨ portOf hosts packet.dst ≠ 0) ∨
    packet.type = ipData ∧
      (FlowProtocol protocol ∧ portOf hosts packet.dst ≠ 0 ∨ protocol = ipProtoUnknown)

/-- How many messages the call passed to `send` out of `write_buffer`.  The
branch of `action_packout` for LLDP has a buffer of its own. -/
def Call.writes (call : Call) : Nat :=
  if call.handler = .packout ∧ (parsePacketIn call.message).type = lldpData then 0
  else call.sent.length

/-- A `send` out of `write_buffer` failed in the call. -/
def Call.WriteFails (call : Call) : Prop :=
  ∃ index < call.writes, call.env.sendResult index = -1

/-- What makes the result of the call tell whether a `send` failed, in the state
before it: a handler that tests for 0 must run off its end with -1, and one that
tests a length that it need not have set must not be misled by it. -/
def Call.Tells (call : Call) (s : Ani) : Prop :=
  match call.handler with
  | .hello =>
      call.env.sendResult 0 = -1 ∨ call.env.sendResult 1 = -1 → call.env.fallsOff = -1
  | .echo => call.env.sendResult 0 = -1 → call.env.fallsOff = -1
  | .featuresReply => True
  | .packout =>
      (WritesAnswer s.cbench (hostsHeard call.env s call.message) call.message →
        call.env.sendResult 0 = -1 ∨ call.env.fallsOff ≠ -1) ∧
      (¬ WritesAnswer s.cbench (hostsHeard call.env s call.message) call.message →
        0 ≤ s.writeBufferLen ∧ call.env.fallsOff ≠ -1)

/-! ## Which packets are answered out of the buffer -/

theorem flowOr_bytes (port : UInt16) (message : FlowMod) :
    (flowOr port message).bytes ≠ [] ↔ port ≠ 0 := by
  unfold flowOr
  split
  · rename_i nonzero
    exact iff_of_true (List.cons_ne_nil _ _) nonzero
  · rename_i zero
    exact iff_of_false (fun some => some rfl) zero

theorem writesAnswer_iff (cbench : Bool) (hosts : List SwitchHost) (message : Memory) :
    WritesAnswer cbench hosts message ↔
      (answer cbench hosts message).bytes ≠ [] ∧ (parsePacketIn message).type ≠ lldpData := by
  have others : ip6Data ≠ arpData ∧ ip6Data ≠ ipData ∧ ip6Data ≠ lldpData ∧ arpData ≠ ip6Data ∧
      arpData ≠ ipData ∧ arpData ≠ lldpData ∧ ipData ≠ ip6Data ∧ ipData ≠ arpData ∧
      ipData ≠ lldpData := by decide
  unfold WritesAnswer
  simp only
  by_cases ip6 : (parsePacketIn message).type = ip6Data
  · unfold answer
    cases cbench <;> simp [ip6, others, Answer.bytes]
  · by_cases arp : (parsePacketIn message).type = arpData
    · rw [answer_of_arp cbench hosts arp]
      split
      · rename_i broadcast
        simp [arp, others, broadcast, Answer.bytes]
      · rename_i unicast
        rw [flowOr_bytes]
        simp [arp, others, unicast]
    · by_cases ip : (parsePacketIn message).type = ipData
      · rw [answer_of_ip cbench hosts ip]
        split
        · rename_i protocol
          rw [flowOr_bytes]
          have known : payload message Iphdr.protocol ≠ ipProtoUnknown := by
            rcases protocol with icmp | tcp | udp
            · exact ne_of_eq_of_ne icmp (by decide)
            · exact ne_of_eq_of_ne tcp (by decide)
            · exact ne_of_eq_of_ne udp (by decide)
          simp [ip, others, protocol, known]
        · rename_i protocol
          split
          · rename_i unknown
            simp [ip, others, unknown, Answer.bytes]
          · rename_i known
            simp [ip, others, protocol, known, Answer.bytes]
      · have silent : (parsePacketIn message).type ≠ lldpData →
            (answer cbench hosts message).bytes = [] := by
          intro lldp
          unfold answer
          simp only [if_neg ip6, if_neg arp, if_neg ip, if_neg lldp]
          rfl
        simp only [ip6, arp, ip, false_and, or_self, false_iff]
        exact fun ⟨answered, lldp⟩ => answered (silent lldp)

/-! ## What a call leaves in `write_buffer_len` -/

section Parts

variable {env : Env} {message : Memory} {packet : PacketIn} {s next : Ani} {sending : Sending}

/-- Nothing was sent out of `write_buffer` and its length is the old one, or one
message was and the length is the result of the `send`. -/
def WritesOnce (env : Env) (s : Ani) (sending : Sending) : Prop :=
  sending.2 = [] ∧ sending.1.writeBufferLen = s.writeBufferLen ∨
    sending.2.length = 1 ∧ sending.1.writeBufferLen = env.sendResult 0

theorem WritesOnce.sent {nwSrc nwDst : UInt32} {tpSrc tpDst : UInt16} {nwProto : UInt8}
    {dlType port : UInt16} :
    WritesOnce env s (sendFlowMod env packet nwSrc nwDst tpSrc tpDst nwProto dlType port next) :=
  .inr ⟨rfl, rfl⟩

theorem WritesOnce.flooded : WritesOnce env s (sendFlood env packet next) := .inr ⟨rfl, rfl⟩

theorem WritesOnce.silent (kept : next.writeBufferLen = s.writeBufferLen) :
    WritesOnce env s (next, []) :=
  .inl ⟨rfl, kept⟩

theorem learnHost_length {ipSrc : UInt32} (learned : learnHost env packet ipSrc s = some next) :
    next.writeBufferLen = s.writeBufferLen := by
  unfold learnHost at learned
  split at learned
  · cases learned
  · cases learned
    rfl

theorem lookupPort_length {dst : Mac} {port : UInt16}
    (found : lookupPort dst s = some (next, port)) : next.writeBufferLen = s.writeBufferLen := by
  unfold lookupPort at found
  split at found
  · cases found
  · cases found
    rfl

theorem packoutArp_length (run : packoutArp env message packet s = some sending) :
    WritesOnce env s sending := by
  unfold packoutArp at run
  simp only at run
  split at run
  · cases run
  · rename_i learned learn
    split at run
    · cases run
      exact .flooded
    · split at run
      · cases run
      · rename_i found port lookup
        split at run
        · cases run
          exact .sent
        · cases run
          exact .silent ((lookupPort_length lookup).trans (learnHost_length learn))

theorem packoutIp_length (run : packoutIp env message packet s = some sending) :
    WritesOnce env s sending := by
  obtain ⟨found, port, lookup, answer⟩ := packoutIp_answered run
  cases answer with
  | flow => exact .sent
  | flood => exact .flooded
  | silent => exact .silent (lookupPort_length lookup)

theorem packoutBranch_length (run : packoutBranch env message packet s = some sending) :
    (packet.type ≠ lldpData → WritesOnce env s sending) ∧
      (packet.type = lldpData → sending.1.writeBufferLen = s.writeBufferLen) := by
  unfold packoutBranch at run
  split at run
  · rename_i ip6
    refine ⟨fun _ => ?_, fun lldp => absurd (ip6.symm.trans lldp) (by decide)⟩
    obtain rfl := Option.some.inj run
    unfold packoutIp6
    split
    · exact .flooded
    · exact .silent rfl
  · split at run
    · rename_i arp
      exact ⟨fun _ => packoutArp_length run, fun lldp => absurd (arp.symm.trans lldp) (by decide)⟩
    · split at run
      · rename_i ip
        exact ⟨fun _ => packoutIp_length run, fun lldp => absurd (ip.symm.trans lldp) (by decide)⟩
      · split at run
        · rename_i lldp
          exact ⟨fun other => absurd lldp other, fun _ => packoutLldp_length run⟩
        · rename_i other
          cases run
          exact ⟨fun _ => .silent rfl, fun lldp => absurd lldp other⟩

end Parts

/-! ## Results -/

section Results

variable {env : Env} {s : Ani} {outcome : Outcome}

/-- The results that a `send` can have. -/
def SendResults (env : Env) : Prop := ∀ index, env.sendResult index = -1 ∨ 0 < env.sendResult index

theorem actionHello_result (sends : SendResults env) (ofBuffer : Nat) (s : Ani) :
    ((actionHello env ofBuffer s).result = -1 ↔
      (env.sendResult 0 = -1 ∨ env.sendResult 1 = -1) ∧ env.fallsOff = -1) ∧
    ((∃ index < (actionHello env ofBuffer s).sent.length, env.sendResult index = -1) ↔
      env.sendResult 0 = -1 ∨ env.sendResult 1 = -1) := by
  unfold actionHello Ani.send
  rcases sends 0 with failed | first
  · simp [failed]
  · have nonzero : env.sendResult 0 ≠ 0 := by omega
    have sent : env.sendResult 0 ≠ -1 := by omega
    have both {index : Nat} : index < 2 ↔ index = 0 ∨ index = 1 := by omega
    simp only [if_neg nonzero, if_pos first]
    rcases sends 1 with failed | second
    · simp [failed]
      exact ⟨1, by decide, failed⟩
    · have nonzeroToo : env.sendResult 1 ≠ 0 := by omega
      have sentToo : env.sendResult 1 ≠ -1 := by omega
      simp [nonzeroToo, second, sent, sentToo, both]

theorem actionEcho_result (sends : SendResults env) (ofBuffer : Nat) (s : Ani) :
    ((actionEcho env ofBuffer s).result = -1 ↔
      env.sendResult 0 = -1 ∧ env.fallsOff = -1) ∧
    ((∃ index < (actionEcho env ofBuffer s).sent.length, env.sendResult index = -1) ↔
      env.sendResult 0 = -1) := by
  unfold actionEcho Ani.send
  rcases sends 0 with failed | first
  · simp [failed]
  · have nonzero : env.sendResult 0 ≠ 0 := by omega
    have sent : env.sendResult 0 ≠ -1 := by omega
    simp [nonzero, first, sent]

theorem sendSwitchConfig_result (sends : SendResults env) (s : Ani) :
    (sendSwitchConfig env s).result = -1 ↔
      ∃ index < (sendSwitchConfig env s).sent.length, env.sendResult index = -1 := by
  unfold sendSwitchConfig Ani.send
  rcases sends 0 with failed | first
  · simp [failed]
  · have nonnegative : ¬ env.sendResult 0 < 0 := by omega
    have sent : env.sendResult 0 ≠ -1 := by omega
    simp [nonnegative, first, sent]

/-- With ports in the reply, the call comes to its end. -/
theorem actionFeaturesReply_config {ofBuffer : Nat}
    (run : actionFeaturesReply env ofBuffer s = some outcome)
    (ports : portCount (ntohs ((s.readBuffer.shift ofBuffer).load16 OfpHeader.length)) ≠ 0) :
    ∃ next, outcome = sendSwitchConfig env next := by
  unfold actionFeaturesReply at run
  simp only [if_neg ports] at run
  split at run
  · cases run
  · split at run
    · cases run
    · split at run
      · cases run
      · cases run
        exact ⟨_, rfl⟩

/-- A call of `action_packout` judges the length that it leaves behind. -/
theorem actionPackout_result {ofBuffer : Nat}
    (run : actionPackout env ofBuffer s = some outcome) :
    outcome.result = (if outcome.ani.writeBufferLen < 0 then -1 else env.fallsOff) ∧
      ((parsePacketIn (s.readBuffer.shift ofBuffer)).type ≠ lldpData →
        WritesOnce env s (outcome.ani, outcome.sent)) ∧
      ((parsePacketIn (s.readBuffer.shift ofBuffer)).type = lldpData →
        outcome.ani.writeBufferLen = s.writeBufferLen) := by
  unfold actionPackout at run
  simp only at run
  split at run
  · cases run
  · rename_i next sent branch
    have length := packoutBranch_length branch
    unfold WritesOnce at length ⊢
    split at run
    · rename_i negative
      cases run
      exact ⟨(if_pos negative).symm, length⟩
    · rename_i nonnegative
      cases run
      exact ⟨(if_neg nonnegative).symm, length⟩

end Results

/-! ## Calls of a run -/

theorem hostsHeard_eq {env : Env} {s : Ani} {tables : Tables} (shows : s.Shows tables)
    (message : Memory) :
    hostsHeard env s message = (tables.packout (env.allocated 0) s.switchId message).hosts := by
  rw [hostsHeard, shows.hosts.contents_eq, Tables.packout]
  cases env.allocated 0 <;> simp

namespace Called

variable {p q : Process} {call : Call} {started : Ani} {ofBuffer : Nat} {outcome : Outcome}
variable {tables : Tables}

theorem result (called : Called p call q started ofBuffer outcome) :
    call.result = outcome.result := by
  rw [called.made]
  rfl

theorem writeBufferLen (called : Called p call q started ofBuffer outcome) :
    started.writeBufferLen = p.ani.writeBufferLen := by
  rw [called.pointers]

/-- Only a packet of the discovery is not answered out of `write_buffer`. -/
theorem writeFails_of_ne (called : Called p call q started ofBuffer outcome)
    (other : call.handler = .packout → (parsePacketIn call.message).type ≠ lldpData) :
    call.WriteFails ↔ ∃ index < outcome.sent.length, call.env.sendResult index = -1 := by
  have writes : call.writes = outcome.sent.length := by
    rw [Call.writes, if_neg (fun both => other both.1 both.2), called.sent]
  rw [Call.WriteFails, writes]

theorem tells_hello (called : Called p call q started ofBuffer outcome)
    (sends : SendResults call.env) (handler : call.handler = .hello) :
    (call.result = -1 ↔ call.WriteFails) ↔ call.Tells p.ani := by
  have run := called.run
  rw [handler] at run
  obtain ⟨result, fails⟩ := actionHello_result sends ofBuffer started
  rw [Option.some.inj run] at result fails
  rw [called.result, called.writeFails_of_ne (by simp [handler]), result, fails, Call.Tells,
    handler]
  exact and_iff_left_iff_imp

theorem tells_echo (called : Called p call q started ofBuffer outcome)
    (sends : SendResults call.env) (handler : call.handler = .echo) :
    (call.result = -1 ↔ call.WriteFails) ↔ call.Tells p.ani := by
  have run := called.run
  rw [handler] at run
  obtain ⟨result, fails⟩ := actionEcho_result sends ofBuffer started
  rw [Option.some.inj run] at result fails
  rw [called.result, called.writeFails_of_ne (by simp [handler]), result, fails, Call.Tells,
    handler]
  exact and_iff_left_iff_imp

theorem tells_featuresReply (called : Called p call q started ofBuffer outcome)
    (sends : SendResults call.env) (handler : call.handler = .featuresReply)
    (ports : portCount (ntohs (call.message.load16 OfpHeader.length)) ≠ 0) :
    (call.result = -1 ↔ call.WriteFails) ↔ call.Tells p.ani := by
  have run := called.run
  rw [handler] at run
  rw [called.message] at ports
  obtain ⟨next, config⟩ := actionFeaturesReply_config run ports
  have result := sendSwitchConfig_result sends next
  rw [← config] at result
  rw [called.result, called.writeFails_of_ne (by simp [handler]), result, Call.Tells, handler]
  exact iff_of_true Iff.rfl trivial

theorem tells_packout (called : Called p call q started ofBuffer outcome)
    (shows : p.ani.Shows tables) (sends : SendResults call.env)
    (handler : call.handler = .packout) :
    (call.result = -1 ↔ call.WriteFails) ↔ call.Tells p.ani := by
  have run := called.run
  rw [handler] at run
  obtain ⟨result, other, lldp⟩ := actionPackout_result run
  rw [← called.message] at other lldp
  have judged : call.result = -1 ↔
      outcome.ani.writeBufferLen < 0 ∨ call.env.fallsOff = -1 := by
    rw [called.result, result]
    split
    · rename_i negative
      exact iff_of_true rfl (.inl negative)
    · rename_i nonnegative
      exact ⟨.inr, fun judged => judged.resolve_left nonnegative⟩
  have answered := (called.packout shows handler).2
  rw [← hostsHeard_eq shows] at answered
  have writes := writesAnswer_iff p.ani.cbench (hostsHeard call.env p.ani call.message) call.message
  rw [← answered, called.sent] at writes
  rw [judged, Call.Tells, handler]
  simp only
  by_cases discovery : (parsePacketIn call.message).type = lldpData
  · have silent : ¬ call.WriteFails := by
      rintro ⟨index, inside, -⟩
      rw [Call.writes, if_pos ⟨handler, discovery⟩] at inside
      exact Nat.not_lt_zero _ inside
    have unwritten := mt writes.mp fun both => both.2 discovery
    rw [lldp discovery, called.writeBufferLen]
    simp only [silent, unwritten, iff_false, not_or, Int.not_lt, not_false_eq_true, forall_const,
      false_implies, true_and, ne_eq]
  · rw [called.writeFails_of_ne fun _ => discovery]
    rcases other discovery with ⟨sent, kept⟩ | ⟨once, length⟩
    · -- the length is that of an earlier message
      have unwritten := mt writes.mp fun both => both.1 sent
      have length : outcome.ani.writeBufferLen = p.ani.writeBufferLen :=
        kept.trans called.writeBufferLen
      have none : outcome.sent = [] := sent
      rw [length, none]
      simp only [List.length_nil, Nat.not_lt_zero, false_and, exists_false, unwritten, iff_false,
        not_or, Int.not_lt, not_false_eq_true, forall_const, false_implies, true_and, ne_eq]
    · have written := writes.mpr ⟨by simp [← List.length_eq_zero_iff, once], discovery⟩
      have failed : (∃ index < outcome.sent.length, call.env.sendResult index = -1) ↔
          call.env.sendResult 0 = -1 := by
        rw [once]
        simp
      rw [length, failed]
      simp only [written, forall_const, not_true_eq_false, false_implies, and_true, ne_eq]
      have possible := sends 0
      omega

end Called

/-- Of every call in a run, the result tells whether a `send` out of
`write_buffer` failed exactly when nothing misleads it. -/
theorem returns_error_iff {cbench : Bool} {events : List Event} {p q : Process} {call : Call}
    (run : Process.Reaches cbench events p) (step : Process.Step p (.handled call) q)
    (sends : SendResults call.env)
    (ports : call.handler = .featuresReply →
      portCount (ntohs (call.message.load16 OfpHeader.length)) ≠ 0) :
    (call.result = -1 ↔ call.WriteFails) ↔ call.Tells p.ani := by
  obtain ⟨tables, shows, -⟩ := run.tables
  obtain ⟨started, ofBuffer, outcome, called⟩ := step.called
  cases handler : call.handler with
  | hello => exact called.tells_hello sends handler
  | echo => exact called.tells_echo sends handler
  | featuresReply => exact called.tells_featuresReply sends handler (ports handler)
  | packout => exact called.tells_packout shows sends handler

/-! ## An echo request whose reply cannot be sent -/

/-- An echo request without a body. -/
def bareEcho : List UInt8 := [ofpVersion, ofptEchoRequest, 0, 8, 0, 0, 0, 1]

/-- Every `send` fails, and control runs off the end with 0. -/
def brokenPipe : Env := { Env.calm with sendResult := fun _ => -1 }

theorem Process.deliver_step {q : Process} {chunk : List UInt8} {env : Env} {call : Call}
    (delivered : (Process.initial false).deliver chunk env = some (call, q)) :
    ∃ p, Process.Reaches false [.received chunk] p ∧ Process.Step p (.handled call) q := by
  obtain ⟨p, first, rest⟩ := (Process.deliver_run delivered).cons_inv
  exact ⟨p, .single first, rest.single_inv⟩

/-- The call reports no error. -/
theorem failed_echo_unreported :
    ¬ ∀ cbench events p q call, Process.Reaches cbench events p →
      Process.Step p (.handled call) q → SendResults call.env →
      (call.handler = .featuresReply →
        portCount (ntohs (call.message.load16 OfpHeader.length)) ≠ 0) →
      (call.result = -1 ↔ call.WriteFails) := by
  intro always
  have computed : ((Process.initial false).deliver bareEcho brokenPipe).map
      (fun run => (run.1.handler, run.1.result, run.1.sent.length)) =
        some (.echo, 0, 1) := by decide
  obtain ⟨⟨call, q⟩, delivered, same⟩ := Option.map_eq_some_iff.mp computed
  simp only [Prod.mk.injEq] at same
  obtain ⟨handler, result, sent⟩ := same
  obtain ⟨p, run, step⟩ := Process.deliver_step delivered
  have env := Process.deliver_env delivered
  have fails : call.WriteFails := by
    refine ⟨0, ?_, by rw [env]; rfl⟩
    rw [Call.writes, if_neg (by simp [handler]), sent]
    decide
  have told := always _ _ _ _ _ run step (env ▸ fun _ => .inl rfl) (by simp [handler])
  rw [result] at told
  exact absurd (told.mpr fails) (by decide)

theorem returns_error_iff_echo :
    ∃ p q call, Process.Reaches false [.received bareEcho] p ∧
      Process.Step p (.handled call) q ∧ (call.result = -1 ↔ call.WriteFails) := by
  have computed : ((Process.initial false).deliver bareEcho .calm).map
      (fun run => run.1.handler) = some .echo := by decide
  obtain ⟨⟨call, q⟩, delivered, same⟩ := Option.map_eq_some_iff.mp computed
  obtain ⟨p, run, step⟩ := Process.deliver_step delivered
  have env := Process.deliver_env delivered
  have handler : call.handler = .echo := same
  have tells : call.Tells p.ani := by
    rw [Call.Tells, handler, env]
    intro failed
    exact absurd failed (by decide)
  exact ⟨p, q, call, run, step,
    (returns_error_iff run step (env ▸ fun _ => .inr Int.one_pos) (by simp [handler])).mpr tells⟩

end DAIM.Ani41
