import DAIM.Ani1.Process
import DAIM.Ani41.Returns

/-!
# What a call leaves behind

`action_hello` and `action_echo` copy what the message states and send no more.
Each handler either makes the process exit or tells whether its last `send` can
have succeeded, which a later `action_packout` without an answer asks again.
-/

namespace DAIM.Ani1

open DAIM.Library DAIM.OpenFlow DAIM.Linked DAIM.Com
open DAIM.Ani41 (Handler dispatch portCount)

theorem statedLength_eq (message : Memory) :
    statedLength message = 256 * (message 2).toNat + (message 3).toNat := by
  have high : (message 2).toNat < 256 := (message 2).toNat_lt
  have low : (message 3).toNat < 256 := (message 3).toNat_lt
  have field : message.slice OfpHeader.length 2 = [message 2, message 3] := rfl
  rw [statedLength, ntohs_load16, field, UInt16.toNat_ofNat']
  show ((message 3).toNat + 256 * ((message 2).toNat + 256 * 0)) % 2 ^ 16 = _
  omega

theorem copyMessage_octet (message : Memory) (index : Nat) :
    copyMessage message index = if index < statedLength message then message index else 0 := by
  unfold copyMessage Memory.ofList Memory.store
  rw [Nat.zero_add, Memory.length_slice, Nat.sub_zero]
  by_cases inside : index < statedLength message
  · rw [if_pos ⟨Nat.zero_le _, inside⟩, if_pos inside, List.getD_eq_getElem?_getD,
      Memory.getElem?_slice _ _ _ inside, Nat.zero_add]
    rfl
  · rw [if_neg (fun both => inside both.2), if_neg inside]
    rfl

/-- The copy states its length when the length field was copied. -/
theorem statedLength_copyMessage (message : Memory) :
    statedLength (copyMessage message) =
      if statedLength message < 4 then 0 else statedLength message := by
  have whole := statedLength_eq message
  rw [statedLength_eq (copyMessage message), copyMessage_octet, copyMessage_octet]
  by_cases short : statedLength message < 4
  · have high : message 2 = 0 := by
      apply UInt8.toNat_inj.mp
      show (message 2).toNat = 0
      omega
    rw [if_pos short, if_neg (show ¬ 3 < statedLength message by omega), high, ite_self]
    rfl
  · rw [if_neg short, if_pos (show 2 < statedLength message by omega),
      if_pos (show 3 < statedLength message by omega), ← whole]

theorem headerBytes_length (buffer : Memory) : (headerBytes buffer).length = statedLength buffer :=
  Memory.length_slice _ _ _

theorem stated_or_zero_le (message : Memory) :
    (if statedLength message < 4 then 0 else statedLength message) ≤ statedLength message := by
  split
  · exact Nat.zero_le _
  · exact Nat.le_refl _

/-- Writing the type or the transaction id leaves the length alone. -/
theorem statedLength_store {offset : Nat} {bytes : List UInt8} (buffer : Memory)
    (outside : 4 ≤ offset ∨ offset + bytes.length ≤ 2) :
    statedLength (buffer.store offset bytes) = statedLength buffer := by
  rw [statedLength_eq, statedLength_eq, Memory.store_outside buffer (by omega),
    Memory.store_outside buffer (by omega)]

/-- The echo reply, which is sent by the length field of the copy. -/
theorem echoReply_length (message : Memory) :
    (headerBytes ((copyMessage message).store8 OfpHeader.type ofptEchoReply)).length =
      if statedLength message < 4 then 0 else statedLength message := by
  rw [headerBytes_length, Memory.store8, statedLength_store _ (.inr (by decide)),
    statedLength_copyMessage]

theorem featuresRequest_length (message : Memory) (xid : UInt32) :
    (headerBytes (((copyMessage message).store8 OfpHeader.type ofptFeaturesRequest).store32
      OfpHeader.xid xid)).length =
      if statedLength message < 4 then 0 else statedLength message := by
  rw [headerBytes_length, Memory.store32, statedLength_store _ (.inl (by decide)), Memory.store8,
    statedLength_store _ (.inr (by decide)), statedLength_copyMessage]

/-- What the handlers leave alone. -/
structure Globals.Keeps (s next : Globals) : Prop where
  readBuffer : next.readBuffer = s.readBuffer
  readBufferp : next.readBufferp = s.readBufferp
  readBufferLen : next.readBufferLen = s.readBufferLen

/-- What `action_hello` and `action_echo` do with a message. -/
structure Copies (message : Memory) (s : Globals) (called : Called) : Prop where
  copied : called.copied = statedLength message
  sent : ∀ bytes ∈ called.sent, bytes.length ≤ statedLength message
  kept : ∀ next result, called.returned = some (next, result) → s.Keeps next
  short : statedLength message < 4 →
    ∀ next result, called.returned = some (next, result) → result = -1 ∨ next.writeBufferLen < 0

section Copies

variable {message : Memory} {s : Globals}

theorem Copies.overran : Copies message s ⟨statedLength message, [], none⟩ where
  copied := rfl
  sent _ member := absurd member List.not_mem_nil
  kept _ _ never := by cases never
  short _ _ _ never := by cases never

theorem Copies.ended {sent : List (List UInt8)} {next : Globals} {result : Int}
    (shorter : ∀ bytes ∈ sent, bytes.length ≤ statedLength message) (keeps : s.Keeps next)
    (short : statedLength message < 4 → result = -1 ∨ next.writeBufferLen < 0) :
    Copies message s ⟨statedLength message, sent, some (next, result)⟩ where
  copied := rfl
  sent := shorter
  kept := by
    intro _ _ returned
    cases returned
    exact keeps
  short := by
    intro less _ _ returned
    cases returned
    exact short less

end Copies

theorem sendStatus_cases {env : Env} {sent : Int} (none : sent ≤ (0 : Nat)) :
    sendStatus env sent = -1 ∨ sent < 0 := by
  unfold sendStatus
  split
  · exact .inl rfl
  · right
    omega

theorem actionEcho_copies {env : Env} {ofBuffer : Nat} {s : Globals}
    (taken : TakenOf env (actionEcho env ofBuffer s).sent) :
    Copies (s.readBuffer.shift ofBuffer) s (actionEcho env ofBuffer s) := by
  have reply := echoReply_length (s.readBuffer.shift ofBuffer)
  revert taken
  unfold actionEcho
  simp only
  split
  · intro _
    exact .overran
  · intro taken
    refine .ended ?_ ⟨rfl, rfl, rfl⟩ fun short => ?_
    · intro bytes sent
      rw [List.mem_singleton.mp sent, reply]
      exact stated_or_zero_le _
    · have within := (taken 0 _ rfl).2
      rw [reply, if_pos short] at within
      exact sendStatus_cases within

theorem actionHello_copies {env : Env} {ofBuffer : Nat} {s : Globals}
    (taken : TakenOf env (actionHello env ofBuffer s).sent) :
    Copies (s.readBuffer.shift ofBuffer) s (actionHello env ofBuffer s) := by
  have request := featuresRequest_length (s.readBuffer.shift ofBuffer)
    (htonl (ntohl ((s.readBuffer.shift ofBuffer).load32 OfpHeader.xid) + 1))
  have whole : ((copyMessage (s.readBuffer.shift ofBuffer)).slice 0
      (statedLength (s.readBuffer.shift ofBuffer))).length =
      statedLength (s.readBuffer.shift ofBuffer) := Memory.length_slice _ _ _
  revert taken
  unfold actionHello
  simp only
  split
  · intro _
    exact .overran
  · split
    · intro _
      refine .ended ?_ ⟨rfl, rfl, rfl⟩ fun _ => .inl rfl
      intro bytes sent
      rw [List.mem_singleton.mp sent, whole]
    · split
      · intro taken
        refine .ended ?_ ⟨rfl, rfl, rfl⟩ fun short => ?_
        · intro bytes sent
          rcases List.mem_cons.mp sent with hello | again
          · rw [hello, whole]
          · rw [List.mem_singleton.mp again, request]
            exact stated_or_zero_le _
        · have within := (taken 1 _ rfl).2
          rw [request, if_pos short] at within
          exact sendStatus_cases within
      · rename_i nonzero negative
        intro _
        refine .ended ?_ ⟨rfl, rfl, rfl⟩ fun _ => .inr ?_
        · intro bytes sent
          rw [List.mem_singleton.mp sent, whole]
        · show env.sendResult 0 < 0
          omega

/-- Sending fails. -/
def refusing : Env := { Env.calm with sendResult := fun _ => -1 }

/-- The tables are intact. -/
structure Globals.Fit (s : Globals) : Prop where
  hosts : ∃ cells, s.hosts.Holds cells
  ports : ∃ cells, s.ports.Holds cells
  rewound : s.ports.current = none

theorem TakenOf.of_length {env : Env} {sent : List (List UInt8)}
    (taken : ∀ bytes ∈ sent, ∀ index, -1 ≤ env.sendResult index ∧
      env.sendResult index ≤ bytes.length) : TakenOf env sent :=
  fun index bytes found => taken bytes (List.mem_of_getElem? found) index

theorem refusing_taken (sent : List (List UInt8)) : TakenOf refusing sent := by
  apply TakenOf.of_length
  intro bytes _ _
  constructor
  · exact Int.le_refl _
  · show (-1 : Int) ≤ bytes.length
    omega

theorem calm_taken {sent : List (List UInt8)} (some : ∀ bytes ∈ sent, 0 < bytes.length) :
    TakenOf Env.calm sent := by
  apply TakenOf.of_length
  intro bytes member _
  have positive := some bytes member
  constructor
  · show (-1 : Int) ≤ 1
    omega
  · show (1 : Int) ≤ bytes.length
    omega

/-- In some environment the handler returns and the loop goes on; where `clear`
holds, the last `send` did not fail. -/
def CanPass (called : Env → Called) (clear : Prop) : Prop :=
  ∃ env next, TakenOf env (called env).sent ∧ (called env).returned = some (next, 0) ∧
    next.Fit ∧ (clear → 0 ≤ next.writeBufferLen)

theorem actionHello_passes {s : Globals} (fit : s.Fit) {ofBuffer : Nat}
    (fits : statedLength (s.readBuffer.shift ofBuffer) ≤ writeBufferSize) :
    CanPass (actionHello · ofBuffer s) (4 ≤ statedLength (s.readBuffer.shift ofBuffer)) := by
  by_cases long : 4 ≤ statedLength (s.readBuffer.shift ofBuffer)
  · have request := featuresRequest_length (s.readBuffer.shift ofBuffer)
      (htonl (ntohl ((s.readBuffer.shift ofBuffer).load32 OfpHeader.xid) + 1))
    rw [if_neg (Nat.not_lt.mpr long)] at request
    refine ⟨Env.calm, ?_⟩
    unfold actionHello
    simp only [if_neg (Nat.not_lt.mpr fits),
      if_neg (show ¬ Env.calm.sendResult 0 = 0 by decide),
      if_pos (show Env.calm.sendResult 0 > 0 by decide)]
    refine ⟨_, calm_taken ?_, rfl, ⟨fit.hosts, fit.ports, fit.rewound⟩, fun _ => ?_⟩
    · intro bytes sent
      rcases List.mem_cons.mp sent with hello | again
      · rw [hello, Memory.length_slice]
        omega
      · rw [List.mem_singleton.mp again, request]
        omega
    · show (0 : Int) ≤ 1
      omega
  · refine ⟨refusing, ?_⟩
    unfold actionHello
    simp only [if_neg (Nat.not_lt.mpr fits),
      if_neg (show ¬ refusing.sendResult 0 = 0 by decide),
      if_neg (show ¬ refusing.sendResult 0 > 0 by decide)]
    exact ⟨_, refusing_taken _, rfl, ⟨fit.hosts, fit.ports, fit.rewound⟩,
      fun more => absurd more long⟩

theorem actionEcho_passes {s : Globals} (fit : s.Fit) {ofBuffer : Nat}
    (fits : statedLength (s.readBuffer.shift ofBuffer) ≤ writeBufferSize) :
    CanPass (actionEcho · ofBuffer s) (4 ≤ statedLength (s.readBuffer.shift ofBuffer)) := by
  have reply := echoReply_length (s.readBuffer.shift ofBuffer)
  by_cases long : 4 ≤ statedLength (s.readBuffer.shift ofBuffer)
  · rw [if_neg (Nat.not_lt.mpr long)] at reply
    refine ⟨Env.calm, ?_⟩
    unfold actionEcho
    simp only [if_neg (Nat.not_lt.mpr fits)]
    refine ⟨_, calm_taken ?_, rfl, ⟨fit.hosts, fit.ports, fit.rewound⟩, fun _ => ?_⟩
    · intro bytes sent
      rw [List.mem_singleton.mp sent, reply]
      omega
    · show (0 : Int) ≤ 1
      omega
  · refine ⟨refusing, ?_⟩
    unfold actionEcho
    simp only [if_neg (Nat.not_lt.mpr fits)]
    exact ⟨_, refusing_taken _, rfl, ⟨fit.hosts, fit.ports, fit.rewound⟩,
      fun more => absurd more long⟩

/-! ## The other two handlers -/

/-- `action_packout` sends an answer to the packet, if only to every port. -/
def Answered (message : Memory) : Prop :=
  (parsePacketIn message).type = ip6Data ∨ IsArp message ∨
    (parsePacketIn message).type = ipData ∧
      (FlowProtocol (payload message Iphdr.protocol) ∨
        payload message Iphdr.protocol = ipProtoUnknown)

instance (message : Memory) : Decidable (Answered message) :=
  inferInstanceAs (Decidable (_ ∨ _ ∨ _ ∧ (_ ∨ _)))

/-- What a branch of `action_packout` does to the buffers. -/
structure Branch (env : Env) (message : Memory) (s : Ani) (sending : Sending) : Prop where
  readBuffer : sending.1.readBuffer = s.readBuffer
  answered : Answered message → sending.1.writeBufferLen = env.sendResult 0
  silent : ¬ Answered message → sending.1.writeBufferLen = s.writeBufferLen
  sent : ∀ bytes ∈ sending.2, 0 < bytes.length

theorem Branch.send {env : Env} {message buffer : Memory} {s next : Ani} {length : Nat}
    (kept : next.readBuffer = s.readBuffer) (positive : 0 < length) (answered : Answered message) :
    Branch env message s (send env buffer length next) where
  readBuffer := kept
  answered _ := rfl
  silent silent := absurd answered silent
  sent bytes member := by
    rw [List.mem_singleton.mp member, Memory.length_slice]
    exact positive

theorem Branch.silence {env : Env} {message : Memory} {s next : Ani}
    (kept : next.readBuffer = s.readBuffer) (same : next.writeBufferLen = s.writeBufferLen)
    (silent : ¬ Answered message) : Branch env message s (next, []) where
  readBuffer := kept
  answered answered := absurd answered silent
  silent _ := same
  sent _ none := absurd none List.not_mem_nil

theorem packoutArp_branch {env : Env} {message : Memory} {s : Ani} {sending : Sending}
    (arp : IsArp message)
    (run : packoutArp env message (parsePacketIn message) s = some sending) :
    Branch env message s sending := by
  unfold packoutArp at run
  simp only at run
  split at run
  · cases run
  · split at run
    · cases run
      exact .send rfl (by decide) (.inr (.inl arp))
    · split at run
      · cases run
      · cases run
        exact .send rfl (by decide) (.inr (.inl arp))

theorem packoutIp_branch {env : Env} {message : Memory} {s : Ani} {sending : Sending}
    (ip : (parsePacketIn message).type = ipData)
    (run : packoutIp env message (parsePacketIn message) s = some sending) :
    Branch env message s sending := by
  have answers (known : FlowProtocol (payload message Iphdr.protocol) ∨
      payload message Iphdr.protocol = ipProtoUnknown) : Answered message :=
    .inr (.inr ⟨ip, known⟩)
  unfold packoutIp at run
  split at run
  · cases run
  · simp only at run
    split at run
    · rename_i icmp
      cases run
      exact .send rfl (by decide) (answers (.inl (.inl icmp)))
    · split at run
      · rename_i tcp
        cases run
        exact .send rfl (by decide) (answers (.inl (.inr (.inl tcp))))
      · split at run
        · rename_i udp
          cases run
          exact .send rfl (by decide) (answers (.inl (.inr (.inr udp))))
        · split at run
          · rename_i unknown
            cases run
            exact .send rfl (by decide) (answers (.inr unknown))
          · rename_i icmp tcp udp unknown
            cases run
            refine Branch.silence rfl rfl ?_
            rintro (ip6 | arp | ⟨-, (is | is | is) | is⟩)
            · exact absurd (ip.symm.trans ip6) (by decide)
            · exact absurd (ip.symm.trans arp) (by decide)
            · exact icmp is
            · exact tcp is
            · exact udp is
            · exact unknown is

theorem packoutBranch_branch {env : Env} {message : Memory} {s : Ani} {sending : Sending}
    (run : packoutBranch env message (parsePacketIn message) s = some sending) :
    Branch env message s sending := by
  unfold packoutBranch at run
  split at run
  · rename_i ip6
    cases run
    exact .send rfl (by decide) (.inl ip6)
  · split at run
    · rename_i arp
      exact packoutArp_branch arp run
    · split at run
      · rename_i ip
        exact packoutIp_branch ip run
      · rename_i ip6 arp ip
        cases run
        refine Branch.silence rfl rfl ?_
        rintro (is | is | ⟨is, -⟩)
        · exact ip6 is
        · exact arp is
        · exact ip is

theorem packoutBranch_returns {env : Env} {s : Ani} {cells : List (Addr × SwitchHost)}
    (intact : s.hosts.Holds cells) (allocates : Ani41.Allocating env) (message : Memory)
    (packet : PacketIn) :
    ∃ sending more, packoutBranch env message packet s = some sending ∧
      sending.1.hosts.Holds more := by
  unfold packoutBranch
  split
  · exact ⟨_, cells, rfl, intact⟩
  · split
    · obtain ⟨learned, more, printed, learn, holds, -⟩ := Ani41.learn_holds intact allocates
        { datapathId := s.switchId, portNo := packet.inPort, macAddr := packet.src,
          ipAddr := ntohl ((payload message).load32 Arp.ipSource) }
      unfold packoutArp
      simp only [learn]
      split
      · exact ⟨_, more, rfl, holds⟩
      · obtain ⟨moved, found, kept⟩ := Ani41.lookup_holds holds packet.dst
        rw [found]
        exact ⟨_, more, rfl, kept⟩
    · split
      · obtain ⟨moved, found, kept⟩ := Ani41.lookup_holds intact packet.dst
        unfold packoutIp
        rw [found]
        simp only
        split
        · exact ⟨_, cells, rfl, kept⟩
        · split
          · exact ⟨_, cells, rfl, kept⟩
          · split
            · exact ⟨_, cells, rfl, kept⟩
            · split
              · exact ⟨_, cells, rfl, kept⟩
              · exact ⟨_, cells, rfl, kept⟩
      · exact ⟨_, cells, rfl, intact⟩

/-- The branch that `action_packout` takes. -/
def packoutRun (env : Env) (ofBuffer : Nat) (s : Globals) : Option Sending :=
  packoutBranch env (s.readBuffer.shift ofBuffer) (parsePacketIn (s.readBuffer.shift ofBuffer))
    { s.toAni with transactionId := (parsePacketIn (s.readBuffer.shift ofBuffer)).xid }

theorem handle_packout {env : Env} {ofBuffer : Nat} {s : Globals} {sending : Sending}
    (run : packoutRun env ofBuffer s = some sending) :
    handle .packout env ofBuffer s =
      ⟨0, sending.2, some ({ s with toAni := sending.1 },
        if sending.1.writeBufferLen < 0 then -1 else env.fallsOff)⟩ := by
  unfold packoutRun at run
  unfold handle actionPackout
  simp only [run]
  by_cases failed : sending.1.writeBufferLen < 0
  · simp only [if_pos failed]
  · simp only [if_neg failed]

theorem handle_packout_none {env : Env} {ofBuffer : Nat} {s : Globals}
    (run : packoutRun env ofBuffer s = none) : handle .packout env ofBuffer s = ⟨0, [], none⟩ := by
  unfold packoutRun at run
  unfold handle actionPackout
  simp only [run]

/-- Without an answer a `send` that failed before makes `action_packout` fail. -/
theorem packout_keeps {env : Env} {ofBuffer : Nat} {s next : Globals} {result : Int}
    (returned : (handle .packout env ofBuffer s).returned = some (next, result)) :
    s.Keeps next ∧ (¬ Answered (s.readBuffer.shift ofBuffer) → s.writeBufferLen < 0 →
      result = -1) := by
  cases run : packoutRun env ofBuffer s with
  | none =>
      rw [handle_packout_none run] at returned
      cases returned
  | some sending =>
      have does := packoutBranch_branch run
      rw [handle_packout run] at returned
      cases returned
      refine ⟨⟨does.readBuffer, rfl, rfl⟩, fun silent negative => ?_⟩
      rw [if_pos (by rwa [does.silent silent])]

theorem packout_passes {s : Globals} (fit : s.Fit) {ofBuffer : Nat}
    (clear : Answered (s.readBuffer.shift ofBuffer) ∨ 0 ≤ s.writeBufferLen) :
    CanPass (handle .packout · ofBuffer s) True := by
  obtain ⟨cells, intact⟩ := fit.hosts
  have started : ObjectList.Holds { s.toAni with
      transactionId := (parsePacketIn (s.readBuffer.shift ofBuffer)).xid }.hosts cells := intact
  obtain ⟨sending, more, run, holds⟩ := packoutBranch_returns started Ani41.calm_allocating
    (s.readBuffer.shift ofBuffer) (parsePacketIn (s.readBuffer.shift ofBuffer))
  have does := packoutBranch_branch run
  have still : 0 ≤ sending.1.writeBufferLen := by
    by_cases answered : Answered (s.readBuffer.shift ofBuffer)
    · rw [does.answered answered]
      show (0 : Int) ≤ 1
      omega
    · rw [does.silent answered]
      exact clear.resolve_left answered
  have called := handle_packout run
  rw [if_neg (Int.not_lt.mpr still)] at called
  refine ⟨Env.calm, ?_⟩
  simp only [called]
  exact ⟨_, calm_taken does.sent, rfl, ⟨⟨more, holds⟩, fit.ports, fit.rewound⟩, fun _ => still⟩

theorem featuresReply_keeps {env : Env} {ofBuffer : Nat} {s next : Globals} {result : Int}
    (returned : (actionFeaturesReply env ofBuffer s).returned = some (next, result)) :
    s.Keeps next ∧
      (portCount (ntohs ((s.readBuffer.shift ofBuffer).load16 OfpHeader.length)) = 0 →
        result = -1) ∧
      (result ≠ -1 → RecordsInside ofBuffer
        (portCount (ntohs ((s.readBuffer.shift ofBuffer).load16 OfpHeader.length)))) := by
  unfold actionFeaturesReply at returned
  simp only at returned
  split at returned
  · cases returned
    exact ⟨⟨rfl, rfl, rfl⟩, fun _ => rfl, fun more => absurd rfl more⟩
  · rename_i some
    split at returned
    · cases returned
    · rename_i inside
      split at returned
      · cases returned
      · split at returned
        · cases returned
        · unfold sendSwitchConfig at returned
          simp only at returned
          refine ⟨?_, fun none => absurd none some, fun _ => not_not.mp inside⟩
          split at returned
          · cases returned
            exact ⟨rfl, rfl, rfl⟩
          · split at returned
            · cases returned
              exact ⟨rfl, rfl, rfl⟩
            · cases returned
              exact ⟨rfl, rfl, rfl⟩

theorem featuresReply_passes {s : Globals} (fit : s.Fit) {ofBuffer : Nat}
    (some : portCount (ntohs ((s.readBuffer.shift ofBuffer).load16 OfpHeader.length)) ≠ 0)
    (inside : RecordsInside ofBuffer
      (portCount (ntohs ((s.readBuffer.shift ofBuffer).load16 OfpHeader.length)))) :
    CanPass (actionFeaturesReply · ofBuffer s) True := by
  obtain ⟨cells, intact⟩ := fit.ports
  have enough : ∀ other, 0 ≤ other →
      other <
          0 + (portCount (ntohs ((s.readBuffer.shift ofBuffer).load16 OfpHeader.length))).toNat →
        Env.calm.allocated other = true := fun _ _ _ => rfl
  obtain ⟨added, more, fill, holds, rewound⟩ := Ani41.addPorts_whole intact fit.rewound
    (s.readBuffer.shift ofBuffer)
    (be64toh ((s.readBuffer.shift ofBuffer).load64 OfpSwitchFeatures.datapathId)) enough
  obtain ⟨shown, print, still, ended⟩ := holds.showAll_eq rewound
  refine ⟨Env.calm, ?_⟩
  unfold actionFeaturesReply
  simp only [if_neg some, if_neg (not_not.mpr inside), fill, print]
  unfold sendSwitchConfig
  simp only [if_neg (show ¬ Env.calm.sendResult 0 < 0 by decide),
    if_pos (show Env.calm.sendResult 0 > 0 by decide)]
  refine ⟨_, calm_taken ?_, rfl, ⟨fit.hosts, ⟨more, still⟩, ended⟩, fun _ => ?_⟩
  · intro bytes sent
    rw [List.mem_singleton.mp sent, Memory.length_slice]
    decide
  · show (0 : Int) ≤ 1
    omega

/-! ## All handlers -/

/-- `action_hello` and `action_echo`. -/
def Copying (handler : Handler) : Prop := handler = .hello ∨ handler = .echo

instance (handler : Handler) : Decidable (Copying handler) := inferInstanceAs (Decidable (_ ∨ _))

/-- Whether the last `send` has failed for certain when the loop goes on behind
a message; `none` when it does not go on.  A message that is shorter than its
length field is sent back as no octets. -/
def behind (ofBuffer : Nat) (message : Memory) (failed : Bool) : Option Bool :=
  match dispatch (message OfpHeader.type) with
  | none => some failed
  | some .hello | some .echo => some (decide (statedLength message < 4))
  | some .featuresReply =>
      let noOfPorts := portCount (ntohs (message.load16 OfpHeader.length))
      if noOfPorts = 0 ∨ ¬ RecordsInside ofBuffer noOfPorts then none else some false
  | some .packout => if Answered message ∨ failed = false then some false else none

theorem handle_copies {handler : Handler} {env : Env} {ofBuffer : Nat} {s : Globals}
    (copying : Copying handler) (taken : TakenOf env (handle handler env ofBuffer s).sent) :
    Copies (s.readBuffer.shift ofBuffer) s (handle handler env ofBuffer s) := by
  rcases copying with rfl | rfl
  · exact actionHello_copies taken
  · exact actionEcho_copies taken

theorem behind_copying {handler : Handler} {ofBuffer : Nat} {message : Memory} {failed : Bool}
    (copying : Copying handler) (chosen : dispatch (message OfpHeader.type) = some handler) :
    behind ofBuffer message failed = some (decide (statedLength message < 4)) := by
  unfold behind
  rw [chosen]
  rcases copying with rfl | rfl <;> rfl

/-- What a handler that returns leaves behind it. -/
theorem handle_behind {handler : Handler} {env : Env} {ofBuffer : Nat} {s next : Globals}
    {result : Int} {failed : Bool}
    (chosen : dispatch (s.readBuffer.shift ofBuffer OfpHeader.type) = some handler)
    (taken : TakenOf env (handle handler env ofBuffer s).sent)
    (returned : (handle handler env ofBuffer s).returned = some (next, result))
    (negative : failed = true → s.writeBufferLen < 0) :
    s.Keeps next ∧ (result ≠ -1 → ∃ still,
      behind ofBuffer (s.readBuffer.shift ofBuffer) failed = some still ∧
        (still = true → next.writeBufferLen < 0)) := by
  by_cases copying : Copying handler
  · have copies := handle_copies copying taken
    refine ⟨copies.kept next result returned, fun more => ⟨_, behind_copying copying chosen, ?_⟩⟩
    intro short
    exact (copies.short (of_decide_eq_true short) next result returned).resolve_left more
  · unfold behind
    rw [chosen]
    cases handler with
    | hello => exact absurd (.inl rfl) copying
    | echo => exact absurd (.inr rfl) copying
    | featuresReply =>
        obtain ⟨kept, none, inside⟩ := featuresReply_keeps returned
        refine ⟨kept, fun more => ⟨false, ?_, fun never => by cases never⟩⟩
        simp only
        rw [if_neg]
        rintro (zero | outside)
        · exact more (none zero)
        · exact outside (inside more)
    | packout =>
        obtain ⟨kept, silent⟩ := packout_keeps returned
        refine ⟨kept, fun more => ⟨false, ?_, fun never => by cases never⟩⟩
        simp only
        rw [if_pos]
        by_contra neither
        obtain ⟨unanswered, certain⟩ := not_or.mp neither
        exact more (silent unanswered (negative (eq_true_of_ne_false certain)))

/-- Where the loop may go on there is an environment in which it does. -/
theorem handle_passes {handler : Handler} {ofBuffer : Nat} {s : Globals} {failed still : Bool}
    (fit : s.Fit) (chosen : dispatch (s.readBuffer.shift ofBuffer OfpHeader.type) = some handler)
    (fits : Copying handler → statedLength (s.readBuffer.shift ofBuffer) ≤ writeBufferSize)
    (clear : failed = false → 0 ≤ s.writeBufferLen)
    (goes : behind ofBuffer (s.readBuffer.shift ofBuffer) failed = some still) :
    CanPass (handle handler · ofBuffer s) (still = false) := by
  have weaken {called : Env → Called} {more less : Prop} (implied : less → more)
      (passes : CanPass called more) : CanPass called less := by
    obtain ⟨env, next, taken, returned, intact, nonnegative⟩ := passes
    exact ⟨env, next, taken, returned, intact, fun holds => nonnegative (implied holds)⟩
  have long (copying : Copying handler) (same : still = false) :
      4 ≤ statedLength (s.readBuffer.shift ofBuffer) := by
    rw [behind_copying copying chosen, same] at goes
    exact Nat.not_lt.mp (of_decide_eq_false (Option.some.inj goes))
  cases handler with
  | hello => exact weaken (long (.inl rfl)) (actionHello_passes fit (fits (.inl rfl)))
  | echo => exact weaken (long (.inr rfl)) (actionEcho_passes fit (fits (.inr rfl)))
  | featuresReply =>
      unfold behind at goes
      rw [chosen] at goes
      simp only at goes
      split at goes
      · cases goes
      · rename_i both
        obtain ⟨some, inside⟩ := not_or.mp both
        exact weaken (fun _ => trivial) (featuresReply_passes fit some (not_not.mp inside))
  | packout =>
      unfold behind at goes
      rw [chosen] at goes
      simp only at goes
      split at goes
      · rename_i either
        exact weaken (fun _ => trivial) (packout_passes fit (either.imp_right clear))
      · cases goes

end DAIM.Ani1
