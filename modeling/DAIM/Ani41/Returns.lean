import DAIM.Ani41.Branches
import DAIM.Ani41.FlowMods

/-!
# When a handler returns

With intact tables and allocations that succeed every handler returns, and
leaves intact tables behind; the handlers that lock the mutex need it to be
free, and give it back unless they were given a features reply without ports.
-/

namespace DAIM.Ani41

open DAIM.Library DAIM.OpenFlow DAIM.Linked DAIM.Com DAIM.Hosts

/-- The four tables are intact, and that of the ports is rewound. -/
structure Ani.Tidy (s : Ani) : Prop where
  hosts : ∃ cells, s.hosts.Holds cells
  ports : ∃ cells, s.ports.Holds cells
  rewound : s.ports.current = none
  links : ∃ cells, s.links.Holds cells
  swReplys : ∃ cells, s.swReplys.Holds cells

/-- A state from which every handler can run to its end. -/
structure Ani.Whole (s : Ani) : Prop extends s.Tidy where
  free : s.linksMutex = none

theorem Ani.initial_tidy (cbench : Bool) : (Ani.initial cbench).Tidy :=
  ⟨⟨[], ObjectList.holds_empty⟩, ⟨[], ObjectList.holds_empty⟩, rfl,
    ⟨[], ObjectList.holds_empty⟩, ⟨[], ObjectList.holds_empty⟩⟩

theorem Ani.initial_whole (cbench : Bool) : (Ani.initial cbench).Whole :=
  ⟨Ani.initial_tidy cbench, rfl⟩

/-- Every allocation of the call succeeds. -/
def Allocating (env : Env) : Prop :=
  ∀ index, env.objectAllocated index = true ∧ env.blockAllocated index = true

theorem calm_allocating : Allocating Env.calm := fun _ => ⟨rfl, rfl⟩

theorem Allocating.allocated {env : Env} (allocates : Allocating env) (index : Nat) :
    env.allocated index = true := by
  rw [Env.allocated, (allocates index).1, (allocates index).2]
  rfl

section Returns

variable {env : Env} {s : Ani}

/-- What every branch of `action_packout` leads to. -/
def ReturnsTidy (run : Option Sending) : Prop := ∃ sending, run = some sending ∧ sending.1.Tidy

theorem Ani.Tidy.congr (tidy : s.Tidy) {next : Ani} (hosts : next.hosts = s.hosts)
    (ports : next.ports = s.ports) (links : next.links = s.links)
    (swReplys : next.swReplys = s.swReplys) : next.Tidy where
  hosts := hosts ▸ tidy.hosts
  ports := ports ▸ tidy.ports
  rewound := ports ▸ tidy.rewound
  links := links ▸ tidy.links
  swReplys := swReplys ▸ tidy.swReplys

/-- Only the four tables and the mutex matter. -/
theorem Ani.Whole.congr (whole : s.Whole) {next : Ani} (free : next.linksMutex = s.linksMutex)
    (hosts : next.hosts = s.hosts) (ports : next.ports = s.ports) (links : next.links = s.links)
    (swReplys : next.swReplys = s.swReplys) : next.Whole :=
  ⟨whole.toTidy.congr hosts ports links swReplys, free.trans whole.free⟩

/-- Learning a host in an intact table, when the entry can be allocated. -/
theorem learn_holds {hosts : ObjectList SwitchHost} {cells : List (Addr × SwitchHost)}
    (intact : hosts.Holds cells) (allocates : Allocating env) (entry : SwitchHost) :
    ∃ learned more printed, learn env hosts entry = some (learned, printed) ∧
      learned.Holds more ∧
      more.map Prod.snd = insertNew SwitchHost.macAddr (cells.map Prod.snd) entry := by
  obtain ⟨⟨learned, printed⟩, run⟩ := learn_returns intact env entry
  have sound := learn_spec (.inl ⟨cells, intact, rfl⟩) run
  rw [allocates.allocated 0, if_pos rfl] at sound
  obtain ⟨more, holds, records⟩ | ⟨empty, -⟩ := sound
  · exact ⟨learned, more, printed, run, holds, records⟩
  · unfold insertNew at empty
    split at empty
    · rename_i known
      rw [empty] at known
      cases known
    · exact absurd (List.append_eq_nil_iff.mp empty).2 (List.cons_ne_nil _ _)

theorem learnHost_holds {cells : List (Addr × SwitchHost)} (intact : s.hosts.Holds cells)
    (allocates : Allocating env) (packet : PacketIn) (ipSrc : UInt32) :
    ∃ hosts more printed, learnHost env packet ipSrc s =
        some { s with hosts := hosts, console := s.console ++ printed } ∧ hosts.Holds more := by
  obtain ⟨learned, more, printed, run, holds, -⟩ := learn_holds intact allocates
    { datapathId := s.switchId, portNo := packet.inPort, macAddr := packet.src, ipAddr := ipSrc }
  exact ⟨learned, more, printed.map Line.host, by rw [learnHost, run], holds⟩

/-- The lookup only moves the cursor of an intact table. -/
theorem lookup_holds {hosts : ObjectList SwitchHost} {cells : List (Addr × SwitchHost)}
    (intact : hosts.Holds cells) (dst : Mac) : ∃ moved,
      lookup hosts dst = some (moved, portOf (cells.map Prod.snd) dst) ∧ moved.Holds cells := by
  obtain ⟨moved, found, kept, -⟩ := intact.find_eq (sameMac dst)
  refine ⟨moved, ?_, kept⟩
  rw [lookup, found, portOf]
  cases (cells.map Prod.snd).find? (sameMac dst) <;> rfl

theorem lookupPort_holds {cells : List (Addr × SwitchHost)} (intact : s.hosts.Holds cells)
    (dst : Mac) : ∃ hosts, lookupPort dst s =
      some ({ s with hosts := hosts }, portOf (cells.map Prod.snd) dst) ∧ hosts.Holds cells := by
  obtain ⟨moved, run, kept⟩ := lookup_holds intact dst
  exact ⟨moved, by rw [lookupPort, run], kept⟩

theorem learnHost_tidy (tidy : s.Tidy) (allocates : Allocating env) (packet : PacketIn)
    (ipSrc : UInt32) : ∃ next, learnHost env packet ipSrc s = some next ∧ next.Tidy := by
  obtain ⟨cells, intact⟩ := tidy.hosts
  obtain ⟨hosts, more, printed, run, holds⟩ := learnHost_holds intact allocates packet ipSrc
  exact ⟨_, run, ⟨more, holds⟩, tidy.ports, tidy.rewound, tidy.links, tidy.swReplys⟩

theorem lookupPort_tidy (tidy : s.Tidy) (dst : Mac) :
    ∃ next port, lookupPort dst s = some (next, port) ∧ next.Tidy := by
  obtain ⟨cells, intact⟩ := tidy.hosts
  obtain ⟨hosts, run, kept⟩ := lookupPort_holds intact dst
  exact ⟨_, _, run, ⟨cells, kept⟩, tidy.ports, tidy.rewound, tidy.links, tidy.swReplys⟩

theorem packoutArp_tidy (tidy : s.Tidy) (allocates : Allocating env) (message : Memory)
    (packet : PacketIn) : ReturnsTidy (packoutArp env message packet s) := by
  obtain ⟨learned, learn, kept⟩ := learnHost_tidy tidy allocates packet
    (ntohl ((payload message).load32 Arp.ipSource))
  unfold packoutArp
  simp only [learn]
  split
  · exact ⟨_, rfl, kept.congr rfl rfl rfl rfl⟩
  · obtain ⟨found, port, lookup, still⟩ := lookupPort_tidy kept packet.dst
    rw [lookup]
    simp only
    split
    · exact ⟨_, rfl, still.congr rfl rfl rfl rfl⟩
    · exact ⟨_, rfl, still⟩

theorem packoutIp_tidy (tidy : s.Tidy) (message : Memory) (packet : PacketIn) :
    ReturnsTidy (packoutIp env message packet s) := by
  obtain ⟨found, port, lookup, kept⟩ := lookupPort_tidy tidy packet.dst
  obtain ⟨sending, sends, answer⟩ := @packoutIp_answers env message packet s found port lookup
  refine ⟨sending, sends, ?_⟩
  cases answer with
  | flow => exact kept.congr rfl rfl rfl rfl
  | flood => exact kept.congr rfl rfl rfl rfl
  | silent => exact kept

theorem packoutLldp_tidy (tidy : s.Tidy) (free : s.linksMutex = none)
    (allocates : Allocating env) (message : Memory) (packet : PacketIn) :
    ReturnsTidy (packoutLldp env message packet s) := by
  obtain ⟨object, block⟩ := allocates 0
  unfold packoutLldp
  simp only
  rw [if_neg (not_not.mpr free), object, block]
  split
  · exact ⟨_, rfl, tidy⟩
  · split
    · obtain ⟨cells, intact⟩ := tidy.swReplys
      obtain ⟨added, fill, holds, -⟩ := intact.addFilled_eq ⟨packet.inPort, true⟩
      rw [fill]
      exact ⟨_, rfl, tidy.hosts, tidy.ports, tidy.rewound, tidy.links, _, holds⟩
    · split
      · obtain ⟨cells, intact⟩ := tidy.links
        obtain ⟨added, fill, holds, -⟩ := intact.addFilled_eq
          { nodeA := { datapathId := s.switchId, portNo := packet.inPort }
            nodeB := (linkEntry s.switchId message).nodeB }
        unfold linkEntry at fill
        rw [fill]
        exact ⟨_, rfl, tidy.hosts, tidy.ports, tidy.rewound, ⟨_, holds⟩, tidy.swReplys⟩
      · exact ⟨_, rfl, tidy⟩

/-- Only the branch for discovery packets needs the mutex. -/
theorem packoutBranch_tidy (tidy : s.Tidy) (allocates : Allocating env) (message : Memory)
    (packet : PacketIn) (unlocked : packet.type = lldpData → s.linksMutex = none) :
    ReturnsTidy (packoutBranch env message packet s) := by
  unfold packoutBranch
  split
  · refine ⟨_, rfl, ?_⟩
    unfold packoutIp6
    split
    · exact tidy.congr rfl rfl rfl rfl
    · exact tidy
  · split
    · exact packoutArp_tidy tidy allocates message packet
    · split
      · exact packoutIp_tidy tidy message packet
      · split
        · rename_i lldp
          exact packoutLldp_tidy tidy (unlocked lldp) allocates message packet
        · exact ⟨_, rfl, tidy⟩

theorem actionPackout_tidy (tidy : s.Tidy) (allocates : Allocating env) (ofBuffer : Nat)
    (unlocked : (parsePacketIn (s.readBuffer.shift ofBuffer)).type = lldpData →
      s.linksMutex = none) :
    ∃ outcome, actionPackout env ofBuffer s = some outcome ∧ outcome.ani.Tidy := by
  have started : Ani.Tidy
      { s with transactionId := (parsePacketIn (s.readBuffer.shift ofBuffer)).xid } :=
    tidy.congr rfl rfl rfl rfl
  obtain ⟨⟨ended, sent⟩, branch, kept⟩ := packoutBranch_tidy started allocates
    (s.readBuffer.shift ofBuffer) (parsePacketIn (s.readBuffer.shift ofBuffer)) unlocked
  unfold actionPackout
  simp only [branch]
  split <;> exact ⟨_, rfl, kept⟩

/-- Every branch gives the mutex back. -/
theorem packoutBranch_mutex {message : Memory} {packet : PacketIn} {sending : Sending}
    (run : packoutBranch env message packet s = some sending) :
    sending.1.linksMutex = s.linksMutex := by
  have stable : Stable env fun next => next.linksMutex = s.linksMutex :=
    ⟨fun _ _ _ same => same, fun _ _ same => same, fun _ _ same => same⟩
  exact stable.packoutBranch rfl (fun _ discovery => by rw [packoutLldp_frame discovery]) run

theorem actionPackout_whole (whole : s.Whole) (allocates : Allocating env) (ofBuffer : Nat) :
    ∃ outcome, actionPackout env ofBuffer s = some outcome ∧ outcome.ani.Whole := by
  obtain ⟨outcome, run, tidy⟩ :=
    actionPackout_tidy whole.toTidy allocates ofBuffer fun _ => whole.free
  refine ⟨outcome, run, tidy, ?_⟩
  unfold actionPackout at run
  simp only at run
  split at run
  · cases run
  · rename_i ended sent branch
    have kept : ended.linksMutex = none := (packoutBranch_mutex branch).trans whole.free
    split at run <;> cases run <;> exact kept

/-- The loop over the records comes to its end when their entries can be allocated. -/
theorem addPorts_whole {ports : ObjectList SwitchPort} {cells : List (Addr × SwitchPort)}
    (intact : ports.Holds cells) (rewound : ports.current = none) (message : Memory)
    (switchId : UInt64) {rounds index : Nat}
    (allocates : ∀ other, index ≤ other → other < index + rounds → env.allocated other = true) :
    ∃ added more, addPorts env message switchId rounds index ports = some added ∧
      added.Holds more ∧ added.current = none := by
  induction rounds generalizing ports cells index with
  | zero => exact ⟨ports, cells, rfl, intact, rewound⟩
  | succ rounds inductionHypothesis =>
      obtain ⟨next, fill, holds, current⟩ := intact.addFilled_eq (switchPort message switchId index)
      have later : ∀ other, index + 1 ≤ other → other < index + 1 + rounds →
          env.allocated other = true := by
        intro other from' below
        exact allocates other (by omega) (by omega)
      obtain ⟨added, more, rest⟩ := inductionHypothesis holds (current.trans rewound) later
      have here : env.allocated index = true := allocates index (Nat.le_refl _) (by omega)
      obtain ⟨object, block⟩ := Bool.and_eq_true_iff.mp here
      refine ⟨added, more, ?_, rest.2⟩
      rw [addPorts, object, block, fill]
      exact rest.1

/-- What a features reply leaves behind. -/
structure Listed (s next : Ani) : Prop where
  ports : ∃ cells, next.ports.Holds cells
  rewound : next.ports.current = none
  hosts : next.hosts = s.hosts
  links : next.links = s.links
  swReplys : next.swReplys = s.swReplys

/-- The end of `action_features_reply` sends, and keeps the tables. -/
theorem sendSwitchConfig_listed {next : Ani} (listed : Listed s next) :
    Listed s (sendSwitchConfig env next).ani := by
  obtain ⟨ports, rewound, hosts, links, swReplys⟩ := listed
  rw [sendSwitchConfig_frame]
  exact ⟨ports, rewound, hosts, links, swReplys⟩

theorem sendSwitchConfig_mutex (env : Env) (next : Ani) :
    (sendSwitchConfig env next).ani.linksMutex = next.linksMutex := by
  rw [sendSwitchConfig_frame]
  rfl

/-- With the mutex free, an intact table and memory for its entries, a features
reply is handled to the end. -/
theorem actionFeaturesReply_returns {cells : List (Addr × SwitchPort)} {ofBuffer : Nat}
    (free : s.linksMutex = none) (intact : s.ports.Holds cells) (rewound : s.ports.current = none)
    (allocates : ∀ index,
      index < (portCount (ntohs ((s.readBuffer.shift ofBuffer).load16 OfpHeader.length))).toNat →
        env.allocated index = true) :
    ∃ outcome, actionFeaturesReply env ofBuffer s = some outcome ∧ Listed s outcome.ani ∧
      (portCount (ntohs ((s.readBuffer.shift ofBuffer).load16 OfpHeader.length)) ≠ 0 →
        outcome.ani.linksMutex = none) := by
  unfold actionFeaturesReply
  simp only
  rw [if_neg (not_not.mpr free)]
  split
  · rename_i none
    exact ⟨_, rfl, ⟨⟨cells, intact⟩, rewound, rfl, rfl, rfl⟩, fun some => absurd none some⟩
  · obtain ⟨added, more, fill, holds, atRest⟩ := addPorts_whole intact rewound
      (s.readBuffer.shift ofBuffer)
      (be64toh ((s.readBuffer.shift ofBuffer).load64 OfpSwitchFeatures.datapathId))
      fun other _ below => allocates other (Nat.lt_of_lt_of_eq below (Nat.zero_add _))
    obtain ⟨shown, print, still, ended⟩ := holds.showAll_eq atRest
    rw [fill]
    simp only [print]
    exact ⟨_, rfl, sendSwitchConfig_listed ⟨⟨more, still⟩, ended, rfl, rfl, rfl⟩,
      fun _ => sendSwitchConfig_mutex env _⟩

theorem Listed.tidy {next : Ani} (listed : Listed s next) (tidy : s.Tidy) : next.Tidy where
  hosts := listed.hosts ▸ tidy.hosts
  ports := listed.ports
  rewound := listed.rewound
  links := listed.links ▸ tidy.links
  swReplys := listed.swReplys ▸ tidy.swReplys

theorem actionFeaturesReply_tidy (tidy : s.Tidy) (free : s.linksMutex = none)
    (allocates : Allocating env) (ofBuffer : Nat) :
    ∃ outcome, actionFeaturesReply env ofBuffer s = some outcome ∧ outcome.ani.Tidy ∧
      (portCount (ntohs ((s.readBuffer.shift ofBuffer).load16 OfpHeader.length)) ≠ 0 →
        outcome.ani.linksMutex = none) := by
  obtain ⟨cells, intact⟩ := tidy.ports
  obtain ⟨outcome, run, listed, back⟩ := actionFeaturesReply_returns free intact tidy.rewound
    fun index _ => allocates.allocated index
  exact ⟨outcome, run, listed.tidy tidy, back⟩

/-- A features reply with ports. -/
theorem actionFeaturesReply_whole (whole : s.Whole) (allocates : Allocating env) (ofBuffer : Nat) :
    ∃ outcome, actionFeaturesReply env ofBuffer s = some outcome ∧
      (portCount (ntohs ((s.readBuffer.shift ofBuffer).load16 OfpHeader.length)) ≠ 0 →
        outcome.ani.Whole) := by
  obtain ⟨outcome, run, tidy, back⟩ :=
    actionFeaturesReply_tidy whole.toTidy whole.free allocates ofBuffer
  exact ⟨outcome, run, fun some => ⟨tidy, back some⟩⟩

/-! ## All handlers -/

/-- The calls that lock the mutex. -/
def Handler.Locks (handler : Handler) (message : Memory) : Prop :=
  handler = .featuresReply ∨
    handler = .packout ∧ (parsePacketIn message).type = lldpData

theorem actionHello_tidy (tidy : s.Tidy) (env : Env) (ofBuffer : Nat) :
    (actionHello env ofBuffer s).ani.Tidy := by
  rw [actionHello_frame]
  exact tidy.congr rfl rfl rfl rfl

theorem actionEcho_tidy (tidy : s.Tidy) (env : Env) (ofBuffer : Nat) :
    (actionEcho env ofBuffer s).ani.Tidy := by
  rw [actionEcho_frame]
  exact tidy.congr rfl rfl rfl rfl

/-- With intact tables and allocations that succeed, every call returns that
does not wait for the mutex. -/
theorem handle_returns (tidy : s.Tidy) (allocates : Allocating env) {handler : Handler}
    {ofBuffer : Nat}
    (unlocked : handler.Locks (s.readBuffer.shift ofBuffer) → s.linksMutex = none) :
    ∃ outcome, handle handler env ofBuffer s = some outcome ∧ outcome.ani.Tidy := by
  cases handler with
  | hello => exact ⟨_, rfl, actionHello_tidy tidy env ofBuffer⟩
  | echo => exact ⟨_, rfl, actionEcho_tidy tidy env ofBuffer⟩
  | packout =>
      exact actionPackout_tidy tidy allocates ofBuffer fun lldp => unlocked (.inr ⟨rfl, lldp⟩)
  | featuresReply =>
      obtain ⟨outcome, run, kept, -⟩ :=
        actionFeaturesReply_tidy tidy (unlocked (.inl rfl)) allocates ofBuffer
      exact ⟨outcome, run, kept⟩

/-- A call that locks the mutex returns only if it has found it free. -/
theorem handle_unlocked {handler : Handler} {ofBuffer : Nat} {outcome : Outcome}
    (run : handle handler env ofBuffer s = some outcome)
    (locks : handler.Locks (s.readBuffer.shift ofBuffer)) : s.linksMutex = none := by
  by_contra busy
  rcases locks with rfl | ⟨rfl, lldp⟩
  · have run : actionFeaturesReply env ofBuffer s = some outcome := run
    unfold actionFeaturesReply at run
    simp only at run
    rw [if_pos busy] at run
    cases run
  · have run : actionPackout env ofBuffer s = some outcome := run
    unfold actionPackout packoutBranch packoutLldp at run
    simp only at run
    rw [if_neg (ne_of_eq_of_ne lldp (by decide)), if_neg (ne_of_eq_of_ne lldp (by decide)),
      if_neg (ne_of_eq_of_ne lldp (by decide)), if_pos lldp, if_pos busy] at run
    cases run

/-- A call that returns leaves intact tables. -/
theorem handle_tidy {handler : Handler} {ofBuffer : Nat} {outcome : Outcome} (tidy : s.Tidy)
    (allocates : Allocating env) (run : handle handler env ofBuffer s = some outcome) :
    outcome.ani.Tidy := by
  obtain ⟨other, same, kept⟩ := handle_returns tidy allocates (handle_unlocked run)
  cases same.symm.trans run
  exact kept

end Returns

end DAIM.Ani41
