import DAIM.Library.Questions
import DAIM.Linked.Traversals
import DAIM.Ani41.Told

/-!
# The loops over the tables of hosts and ports

The loops that a call of a handler runs over the two tables of the main thread,
in their order, each with the table as it is when the loop is entered.  The
handlers are written once more with these loops as a parameter: a call runs
exactly the loops that are listed for it, since its result is that of any loops
that do the same there, and it has none when one of them does not return.
-/

namespace DAIM.Ani41

open DAIM.Library DAIM.OpenFlow DAIM.Linked DAIM.Com DAIM.Hosts

/-! ## The loops of a call -/

/-- A loop over one of the tables, as the table is when the loop is entered. -/
inductive Traversal where
  | lookup (hosts : ObjectList SwitchHost) (mac : Mac)
  | showHosts (hosts : ObjectList SwitchHost)
  | showPorts (ports : ObjectList SwitchPort)

/-- The loop goes through the table without leaving it, from its first entry on. -/
def Traversal.Complete : Traversal → Prop
  | .lookup hosts mac => hosts.Searched (sameMac mac)
  | .showHosts hosts => hosts.Shown
  | .showPorts ports => ports.Shown

/-- What the loop prints. -/
def Traversal.lines : Traversal → List Line
  | .lookup _ _ => []
  | .showHosts hosts => (hosts.showAll.map fun shown => shown.2.map Line.host).getD []
  | .showPorts ports => (ports.showAll.map fun shown => shown.2.map Line.port).getD []

/-- The loops of the learning part: the address is looked up, and the table is
shown when the host was new. -/
def learnTraversals (env : Env) (hosts : ObjectList SwitchHost) (entry : SwitchHost) :
    List Traversal :=
  .lookup hosts entry.macAddr ::
    match hosts.find (sameMac entry.macAddr) with
    | some (hosts, none) =>
        match hosts.addFilled (env.objectAllocated 0) (env.blockAllocated 0) entry with
        | none => []
        | some hosts => [.showHosts hosts]
    | _ => []

def arpTraversals (env : Env) (message : Memory) (packet : PacketIn) (s : Ani) :
    List Traversal :=
  let entry : SwitchHost :=
    { datapathId := s.switchId, portNo := packet.inPort, macAddr := packet.src
      ipAddr := ntohl ((payload message).load32 Arp.ipSource) }
  learnTraversals env s.hosts entry ++
    match Hosts.learn env s.hosts entry with
    | none => []
    | some (hosts, _) => if packet.dst = Mac.broadcast then [] else [.lookup hosts packet.dst]

def packoutTraversals (env : Env) (message : Memory) (s : Ani) : List Traversal :=
  let packet := parsePacketIn message
  if packet.type = ip6Data then []
  else if packet.type = arpData then arpTraversals env message packet s
  else if packet.type = ipData then [.lookup s.hosts packet.dst]
  else []

def featuresTraversals (env : Env) (message : Memory) (s : Ani) : List Traversal :=
  if s.linksMutex ≠ none then []
  else if featuresCount message = 0 then []
  else
    match addPorts env message (Told.datapathId message) (featuresCount message).toNat 0
        s.ports with
    | none => []
    | some ports => [.showPorts ports]

/-- The loops that a handler runs over the tables of hosts and ports. -/
def Handler.traversals : Handler → Env → Nat → Ani → List Traversal
  | .packout, env, ofBuffer, s => packoutTraversals env (s.readBuffer.shift ofBuffer) s
  | .featuresReply, env, ofBuffer, s => featuresTraversals env (s.readBuffer.shift ofBuffer) s
  | _, _, _, _ => []

/-! ## The handlers with other loops -/

/-- The search for an address, `show_hosts` and `show_ports`. -/
structure Loops where
  search : Mac → ObjectList SwitchHost → Option (ObjectList SwitchHost × Option SwitchHost)
  showHosts : ObjectList SwitchHost → Option (ObjectList SwitchHost × List SwitchHost)
  showPorts : ObjectList SwitchPort → Option (ObjectList SwitchPort × List SwitchPort)

namespace Loops

/-- Those of the program. -/
def source : Loops where
  search mac hosts := hosts.find (sameMac mac)
  showHosts := ObjectList.showAll
  showPorts := ObjectList.showAll

def learn (loops : Loops) (env : Env) (hosts : ObjectList SwitchHost) (entry : SwitchHost) :
    Option (ObjectList SwitchHost × List SwitchHost) :=
  (loops.search entry.macAddr hosts).bind fun
    | (hosts, some _) => some (hosts, [])
    | (hosts, none) =>
        match hosts.addFilled (env.objectAllocated 0) (env.blockAllocated 0) entry with
        | none => none
        | some hosts => loops.showHosts hosts

def lookup (loops : Loops) (hosts : ObjectList SwitchHost) (mac : Mac) :
    Option (ObjectList SwitchHost × UInt16) :=
  (loops.search mac hosts).map fun
    | (hosts, none) => (hosts, 0)
    | (hosts, some host) => (hosts, host.portNo)

def learnHost (loops : Loops) (env : Env) (packet : PacketIn) (ipSrc : UInt32) (s : Ani) :
    Option Ani :=
  (loops.learn env s.hosts
    { datapathId := s.switchId, portNo := packet.inPort, macAddr := packet.src,
      ipAddr := ipSrc }).map fun (hosts, printed) =>
        { s with hosts := hosts, console := s.console ++ printed.map Line.host }

def lookupPort (loops : Loops) (dst : Mac) (s : Ani) : Option (Ani × UInt16) :=
  (loops.lookup s.hosts dst).map fun (hosts, outPort) => ({ s with hosts := hosts }, outPort)

def packoutArp (loops : Loops) (env : Env) (message : Memory) (packet : PacketIn) (s : Ani) :
    Option Sending :=
  let arp := payload message
  let ipSrc := ntohl (arp.load32 Arp.ipSource)
  let ipDst := ntohl (arp.load32 Arp.ipDest)
  (loops.learnHost env packet ipSrc s).bind fun s =>
    if packet.dst = Mac.broadcast then
      some (sendFlood env packet s)
    else
      (loops.lookupPort packet.dst s).map fun (s, outPort) =>
        if outPort ≠ 0 then
          let op : UInt8 := (ntohs (arp.load16 Arp.op)).toUInt8
          sendFlowMod env packet ipSrc ipDst (htons 0) (htons 0) (htons op.toUInt16).toUInt8
            arpData outPort s
        else
          (s, [])

def packoutIp (loops : Loops) (env : Env) (message : Memory) (packet : PacketIn) (s : Ani) :
    Option Sending :=
  (loops.lookupPort packet.dst s).map fun (s, outPort) =>
    let ip := payload message
    let ipSrc := ntohl (ip.load32 Iphdr.saddr)
    let ipDst := ntohl (ip.load32 Iphdr.daddr)
    let protocol := ip Iphdr.protocol
    let transport := ip.shift Iphdr.size
    let portSrc := ntohs (transport.load16 Transport.source)
    let portDst := ntohs (transport.load16 Transport.dest)
    if protocol = ipTypeIcmp then
      if outPort ≠ 0 then
        sendFlowMod env packet ipSrc ipDst (htons 0) (htons 0) ipTypeIcmp ipData outPort s
      else
        (s, [])
    else if protocol = ipTypeTcp then
      if outPort ≠ 0 then
        sendFlowMod env packet ipSrc ipDst (htons portSrc) (htons portDst) ipTypeTcp ipData
          outPort s
      else
        (s, [])
    else if protocol = ipTypeUdp then
      if outPort ≠ 0 then
        sendFlowMod env packet ipSrc ipDst (htons portSrc) (htons portDst) ipTypeUdp ipData
          outPort s
      else
        (s, [])
    else if protocol = ipProtoUnknown then
      sendFlood env packet s
    else
      (s, [])

def packoutBranch (loops : Loops) (env : Env) (message : Memory) (packet : PacketIn) (s : Ani) :
    Option Sending :=
  if packet.type = ip6Data then
    some (packoutIp6 env packet s)
  else if packet.type = arpData then
    loops.packoutArp env message packet s
  else if packet.type = ipData then
    loops.packoutIp env message packet s
  else if packet.type = lldpData then
    packoutLldp env message packet s
  else
    some (s, [])

def actionPackout (loops : Loops) (env : Env) (ofBuffer : Nat) (s : Ani) : Option Outcome :=
  let message := s.readBuffer.shift ofBuffer
  let packet := parsePacketIn message
  (loops.packoutBranch env message packet { s with transactionId := packet.xid }).map
    fun (s, sent) =>
      if s.writeBufferLen < 0 then
        ⟨s, sent, -1, false⟩
      else
        ⟨s, sent, env.fallsOff, false⟩

def actionFeaturesReply (loops : Loops) (env : Env) (ofBuffer : Nat) (s : Ani) :
    Option Outcome :=
  let message := s.readBuffer.shift ofBuffer
  let s := { s with transactionId := ntohl (message.load32 OfpHeader.xid) }
  if s.linksMutex ≠ none then
    none
  else
    let s := { s with
      linksMutex := some .main
      noOfPorts := portCount (ntohs (message.load16 OfpHeader.length)) }
    if s.noOfPorts = 0 then
      some ⟨s, [], -1, false⟩
    else
      let s := { s with switchId := be64toh (message.load64 OfpSwitchFeatures.datapathId) }
      (addPorts env message s.switchId s.noOfPorts.toNat 0 s.ports).bind fun ports =>
        (loops.showPorts ports).map fun (ports, printed) =>
          sendSwitchConfig env { s with
            ports := ports
            linksMutex := none
            console := s.console ++ printed.map Line.port }

def handle (loops : Loops) : Handler → Env → Nat → Ani → Option Outcome
  | .hello, env, ofBuffer, s => some (actionHello env ofBuffer s)
  | .featuresReply, env, ofBuffer, s => loops.actionFeaturesReply env ofBuffer s
  | .packout, env, ofBuffer, s => loops.actionPackout env ofBuffer s
  | .echo, env, ofBuffer, s => some (actionEcho env ofBuffer s)

end Loops

/-! ## With the loops of the program -/

section Source

variable {env : Env} {message : Memory} {packet : PacketIn} {s : Ani}

theorem source_search (mac : Mac) (hosts : ObjectList SwitchHost) :
    Loops.source.search mac hosts = hosts.find (sameMac mac) := rfl

theorem source_learn (env : Env) (hosts : ObjectList SwitchHost) (entry : SwitchHost) :
    Loops.source.learn env hosts entry = Hosts.learn env hosts entry := by
  unfold Loops.learn Hosts.learn
  rw [source_search]
  cases hosts.find (sameMac entry.macAddr) with
  | none => rfl
  | some found =>
      obtain ⟨moved, result⟩ := found
      cases result <;> rfl

theorem source_lookup (hosts : ObjectList SwitchHost) (mac : Mac) :
    Loops.source.lookup hosts mac = Hosts.lookup hosts mac := by
  unfold Loops.lookup Hosts.lookup
  rw [source_search]
  cases hosts.find (sameMac mac) with
  | none => rfl
  | some found =>
      obtain ⟨moved, result⟩ := found
      cases result <;> rfl

theorem source_learnHost (env : Env) (packet : PacketIn) (ipSrc : UInt32) (s : Ani) :
    Loops.source.learnHost env packet ipSrc s = learnHost env packet ipSrc s := by
  unfold Loops.learnHost learnHost
  rw [source_learn]
  generalize Hosts.learn _ _ _ = learned
  cases learned <;> rfl

theorem source_lookupPort (dst : Mac) (s : Ani) :
    Loops.source.lookupPort dst s = lookupPort dst s := by
  unfold Loops.lookupPort lookupPort
  rw [source_lookup]
  generalize Hosts.lookup _ _ = found
  cases found <;> rfl

theorem source_packoutArp (env : Env) (message : Memory) (packet : PacketIn) (s : Ani) :
    Loops.source.packoutArp env message packet s = packoutArp env message packet s := by
  unfold Loops.packoutArp packoutArp
  simp only [source_learnHost, source_lookupPort]
  cases learnHost env packet (ntohl ((payload message).load32 Arp.ipSource)) s with
  | none => rfl
  | some learned =>
      simp only [Option.bind_some]
      split
      · rfl
      · cases lookupPort packet.dst learned with
        | none => rfl
        | some found =>
            simp only [Option.map_some]
            split <;> rfl

theorem source_packoutIp (env : Env) (message : Memory) (packet : PacketIn) (s : Ani) :
    Loops.source.packoutIp env message packet s = packoutIp env message packet s := by
  unfold Loops.packoutIp packoutIp
  rw [source_lookupPort]
  cases lookupPort packet.dst s with
  | none => rfl
  | some found =>
      simp only [Option.map_some]
      -- the branches send the same, one protocol after the other
      split
      · split <;> rfl
      · split
        · split <;> rfl
        · split
          · split <;> rfl
          · split <;> rfl

theorem source_actionPackout (env : Env) (ofBuffer : Nat) (s : Ani) :
    Loops.source.actionPackout env ofBuffer s = actionPackout env ofBuffer s := by
  have branch : ∀ message packet s, Loops.source.packoutBranch env message packet s =
      packoutBranch env message packet s := by
    intro message packet s
    unfold Loops.packoutBranch packoutBranch
    rw [source_packoutArp, source_packoutIp]
  unfold Loops.actionPackout actionPackout
  simp only [branch]
  generalize packoutBranch _ _ _ _ = answered
  cases answered with
  | none => rfl
  | some answered =>
      simp only [Option.map_some]
      split <;> rfl

theorem source_actionFeaturesReply (env : Env) (ofBuffer : Nat) (s : Ani) :
    Loops.source.actionFeaturesReply env ofBuffer s = actionFeaturesReply env ofBuffer s := by
  have shows : Loops.source.showPorts = ObjectList.showAll := rfl
  unfold Loops.actionFeaturesReply actionFeaturesReply
  simp only [shows]
  split
  · rfl
  · split
    · rfl
    · generalize addPorts _ _ _ _ _ _ = added
      cases added with
      | none => rfl
      | some ports =>
          simp only [Option.bind_some]
          cases ports.showAll <;> rfl

/-- With the loops of the program the handlers are those of the program. -/
theorem source_handle (handler : Handler) (env : Env) (ofBuffer : Nat) (s : Ani) :
    Loops.source.handle handler env ofBuffer s = handle handler env ofBuffer s := by
  cases handler with
  | hello => rfl
  | echo => rfl
  | packout => exact source_actionPackout env ofBuffer s
  | featuresReply => exact source_actionFeaturesReply env ofBuffer s

end Source

/-! ## The loops that a call runs -/

/-- Other loops compared to those of the program, at one loop of a call. -/
def tableLoops : Interface Loops Traversal where
  original := .source
  Agrees loops
    | .lookup hosts mac => loops.search mac hosts = hosts.find (sameMac mac)
    | .showHosts hosts => loops.showHosts hosts = hosts.showAll
    | .showPorts ports => loops.showPorts ports = ports.showAll
  Fails loops
    | .lookup hosts mac => loops.search mac hosts = none
    | .showHosts hosts => loops.showHosts hosts = none
    | .showPorts ports => loops.showPorts ports = none

/-- The call runs these loops over the tables, and no others: it is the same with
all loops that do the same there, and does not get past one that does not return. -/
structure Handler.Runs (handler : Handler) (env : Env) (ofBuffer : Nat) (s : Ani)
    (traversals : List Traversal) : Prop where
  enough : ∀ loops, (∀ traversal ∈ traversals, tableLoops.Agrees loops traversal) →
    loops.handle handler env ofBuffer s = handle handler env ofBuffer s
  needed : ∀ loops,
    (∀ traversal ∈ traversals,
      tableLoops.Agrees loops traversal ∨ tableLoops.Fails loops traversal) →
    (∃ traversal ∈ traversals, tableLoops.Fails loops traversal) →
      loops.handle handler env ofBuffer s = none

section Asks

variable {env : Env} {message : Memory} {packet : PacketIn} {s : Ani}

theorem search_asks (mac : Mac) (hosts : ObjectList SwitchHost) :
    tableLoops.Asks (fun loops => loops.search mac hosts) [.lookup hosts mac] :=
  .one (fun _ agrees => agrees) fun _ fails => fails

theorem showHosts_asks (hosts : ObjectList SwitchHost) :
    tableLoops.Asks (fun loops => loops.showHosts hosts) [.showHosts hosts] :=
  .one (fun _ agrees => agrees) fun _ fails => fails

theorem showPorts_asks (ports : ObjectList SwitchPort) :
    tableLoops.Asks (fun loops => loops.showPorts ports) [.showPorts ports] :=
  .one (fun _ agrees => agrees) fun _ fails => fails

theorem learn_asks (env : Env) (hosts : ObjectList SwitchHost) (entry : SwitchHost) :
    tableLoops.Asks (fun loops => loops.learn env hosts entry)
      (learnTraversals env hosts entry) := by
  unfold Loops.learn learnTraversals
  apply Interface.Asks.bind_cons (search_asks entry.macAddr hosts)
  · intro stuck
    have none : hosts.find (sameMac entry.macAddr) = none := stuck
    rw [none]
  · rintro ⟨moved, found⟩ result
    have here : hosts.find (sameMac entry.macAddr) = some (moved, found) := result
    rw [here]
    cases found with
    | some host => exact .nothing _
    | none =>
        simp only
        cases moved.addFilled (env.objectAllocated 0) (env.blockAllocated 0) entry with
        | none => exact .nothing none
        | some added => exact showHosts_asks added

theorem lookup_asks (hosts : ObjectList SwitchHost) (mac : Mac) :
    tableLoops.Asks (fun loops => loops.lookup hosts mac) [.lookup hosts mac] :=
  (search_asks mac hosts).map _

theorem packoutArp_asks (env : Env) (message : Memory) (packet : PacketIn) (s : Ani) :
    tableLoops.Asks (fun loops => loops.packoutArp env message packet s)
      (arpTraversals env message packet s) := by
  unfold Loops.packoutArp arpTraversals
  apply Interface.Asks.bind ((learn_asks env s.hosts _).map _)
  · intro stuck
    have none : Hosts.learn env s.hosts _ = none :=
      (source_learn env s.hosts _).symm.trans (Option.map_eq_none_iff.mp stuck)
    rw [none]
  · intro learned result
    obtain ⟨⟨hosts, printed⟩, same, rfl⟩ := Option.map_eq_some_iff.mp result
    have here : Hosts.learn env s.hosts _ = some (hosts, printed) :=
      (source_learn env s.hosts _).symm.trans same
    rw [here]
    simp only
    split
    · exact .nothing _
    · exact ((lookup_asks hosts packet.dst).map _).map _

theorem packoutIp_asks (env : Env) (message : Memory) (packet : PacketIn) (s : Ani) :
    tableLoops.Asks (fun loops => loops.packoutIp env message packet s)
      [.lookup s.hosts packet.dst] :=
  ((lookup_asks s.hosts packet.dst).map _).map _

theorem actionPackout_asks (env : Env) (ofBuffer : Nat) (s : Ani) :
    tableLoops.Asks (fun loops => loops.actionPackout env ofBuffer s)
      (packoutTraversals env (s.readBuffer.shift ofBuffer) s) := by
  apply Interface.Asks.map
  unfold Loops.packoutBranch packoutTraversals
  simp only
  split
  · exact .nothing _
  · split
    · exact packoutArp_asks env _ _ _
    · split
      · exact packoutIp_asks env _ _ _
      · split
        · exact .nothing _
        · exact .nothing _

theorem actionFeaturesReply_asks (env : Env) (ofBuffer : Nat) (s : Ani) :
    tableLoops.Asks (fun loops => loops.actionFeaturesReply env ofBuffer s)
      (featuresTraversals env (s.readBuffer.shift ofBuffer) s) := by
  unfold Loops.actionFeaturesReply featuresTraversals featuresCount Told.datapathId
  simp only
  split
  · exact .nothing none
  · split
    · exact .nothing _
    · generalize addPorts _ _ _ _ _ _ = added
      cases added with
      | none => exact .nothing none
      | some ports => exact (showPorts_asks ports).map _

theorem handle_asks (handler : Handler) (env : Env) (ofBuffer : Nat) (s : Ani) :
    tableLoops.Asks (fun loops => loops.handle handler env ofBuffer s)
      (handler.traversals env ofBuffer s) := by
  cases handler with
  | hello => exact .nothing _
  | echo => exact .nothing _
  | packout => exact actionPackout_asks env ofBuffer s
  | featuresReply => exact actionFeaturesReply_asks env ofBuffer s

/-- A call runs exactly the loops that are listed for it. -/
theorem Handler.runs (handler : Handler) (env : Env) (ofBuffer : Nat) (s : Ani) :
    handler.Runs env ofBuffer s (handler.traversals env ofBuffer s) where
  enough loops agrees :=
    ((handle_asks handler env ofBuffer s).enough loops agrees).trans
      (source_handle handler env ofBuffer s)
  needed := (handle_asks handler env ofBuffer s).needed

end Asks

end DAIM.Ani41
