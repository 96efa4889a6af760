import DAIM.Com
import DAIM.PacketIn
import DAIM.Ani41.State
import DAIM.Ani41.Anim

/-!
# The message handlers of version 4

`action_hello`, `action_echo`, `action_features_reply` and `action_packout`
of `_con.cpp`.  A handler gets the offset of its message in `read_buffer` and
returns `none` when it cannot return: it waits for `links_mutex`, or it follows
a pointer that is not valid.  The packet pointers, which every handler sets
before it uses them, are local here.
-/

namespace DAIM.Ani41

open DAIM.Library DAIM.OpenFlow DAIM.Linked DAIM.Com

namespace Ani

/-- The message in `write_buffer`. -/
def outgoing (s : Ani) : List UInt8 := headerBytes s.writeBuffer

/-- `write_buffer_len = send (...)`, for the `index`-th send of the call. -/
def send (s : Ani) (env : Env) (index : Nat) : Ani :=
  { s with writeBufferLen := env.sendResult index }

end Ani

def actionHello (env : Env) (ofBuffer : Nat) (s : Ani) : Outcome :=
  let message := s.readBuffer.shift ofBuffer
  let s := { s with
    pheader := .read ofBuffer
    transactionId := ntohl (message.load32 OfpHeader.xid) }
  let s := { s with
    writeBuffer := createOfHello Memory.zero (htonl s.transactionId)
    pheader := .write 0 }
  let hello := s.outgoing
  let s := s.send env 0
  if s.writeBufferLen = 0 then
    ⟨s, [hello], -1, false⟩
  else if s.writeBufferLen > 0 then
    let s := { s with transactionId := s.transactionId + 1 }
    let s := { s with
      writeBuffer := createOfFeaturesRequest s.writeBuffer (htonl s.transactionId)
      pheader := .write 0 }
    let request := s.outgoing
    let s := s.send env 1
    if s.writeBufferLen = 0 then
      ⟨s, [hello, request], -1, false⟩
    else if s.writeBufferLen > 0 then
      ⟨s, [hello, request], 0, false⟩
    else
      ⟨s, [hello, request], env.fallsOff, false⟩
  else
    ⟨s, [hello], env.fallsOff, false⟩

def actionEcho (env : Env) (ofBuffer : Nat) (s : Ani) : Outcome :=
  let message := s.readBuffer.shift ofBuffer
  let s := { s with
    pheader := .read ofBuffer
    transactionId := ntohl (message.load32 OfpHeader.xid) }
  let s := { s with
    writeBuffer := createOfEchoReply Memory.zero (htonl s.transactionId)
    pheader := .write 0 }
  let reply := s.outgoing
  let s := s.send env 0
  if s.writeBufferLen = 0 then
    ⟨s, [reply], -1, false⟩
  else if s.writeBufferLen > 0 then
    ⟨s, [reply], 0, false⟩
  else
    ⟨s, [reply], env.fallsOff, false⟩

/-- `no_of_ports`: a subtraction and a division of 64-bit sizes, narrowed to `int`. -/
def portCount (length : UInt16) : Int :=
  ((length.toUInt64 - UInt64.ofNat OfpSwitchFeatures.size) /
    UInt64.ofNat OfpPhyPort.size).toUInt32.toInt32.toInt

/-- The record at `ports[index]` of a features reply. -/
def switchPort (message : Memory) (switchId : UInt64) (index : Nat) : SwitchPort :=
  let entry := message.shift (OfpSwitchFeatures.ports + OfpPhyPort.size * index)
  { datapathId := switchId
    portNo := ntohs (entry.load16 OfpPhyPort.portNo)
    macAddr := Mac.load entry OfpPhyPort.hwAddr }

/-- The loop over the port records, with the number of rounds that remain. -/
def addPorts (env : Env) (message : Memory) (switchId : UInt64) :
    Nat → Nat → ObjectList SwitchPort → Option (ObjectList SwitchPort)
  | 0, _, ports => some ports
  | rounds + 1, index, ports =>
      match ports.addFilled (env.objectAllocated index) (env.blockAllocated index)
          (switchPort message switchId index) with
      | none => none
      | some ports => addPorts env message switchId rounds (index + 1) ports

/-- The end of `action_features_reply`, after the lock was released. -/
def sendSwitchConfig (env : Env) (s : Ani) : Outcome :=
  let s := { s with transactionId := s.transactionId + 1 }
  let s := { s with
    writeBuffer := createOfSwitchConfig Memory.zero (htonl s.transactionId) (htons 0) (htons 128) }
  let config := s.outgoing
  let s := s.send env 0
  if s.writeBufferLen < 0 then
    ⟨s, [config], -1, env.threadCreated⟩
  else if s.writeBufferLen > 0 then
    ⟨s, [config], 0, env.threadCreated⟩
  else
    ⟨s, [config], env.fallsOff, env.threadCreated⟩

def actionFeaturesReply (env : Env) (ofBuffer : Nat) (s : Ani) : Option Outcome :=
  let message := s.readBuffer.shift ofBuffer
  let s := { s with transactionId := ntohl (message.load32 OfpHeader.xid) }
  if s.linksMutex ≠ none then
    none
  else
    let s := { s with
      linksMutex := some .main
      noOfPorts := portCount (ntohs (message.load16 OfpHeader.length)) }
    if s.noOfPorts = 0 then
      -- returns with the mutex held
      some ⟨s, [], -1, false⟩
    else
      let s := { s with switchId := be64toh (message.load64 OfpSwitchFeatures.datapathId) }
      match addPorts env message s.switchId s.noOfPorts.toNat 0 s.ports with
      | none => none
      | some ports =>
          match ports.showAll with
          | none => none
          | some (ports, printed) =>
              some (sendSwitchConfig env { s with
                ports := ports
                linksMutex := none
                console := s.console ++ printed.map Line.port })

/-! ## `action_packout` -/

/-- The state after some sends, and the octets sent. -/
abbrev Sending := Ani × List (List UInt8)

/-- The answer of the IPv6, ARP broadcast and unknown protocol branches. -/
def sendFlood (env : Env) (packet : PacketIn) (s : Ani) : Sending :=
  let s := { s with
    writeBuffer := createOfPacketOut Memory.zero (htonl s.transactionId) (htonl packet.bufferId)
      (htons packet.inPort) (UInt16.ofNat OfpActionOutput.size) 0 }
  let s := { s with
    writeBuffer := createOfActionOutput s.writeBuffer OfpPacketOut.actions (htons 0)
      (htons ofppFlood) }
  (s.send env 0, [s.outgoing])

/-- The answer of the four unicast branches, which pass the same arguments to
`create_of_flow_mod` but for the transport ports, the protocol and the type. -/
def sendFlowMod (env : Env) (packet : PacketIn) (ipSrc ipDst : UInt32)
    (ipPortSrc ipPortDst : UInt16) (ipProtocol : UInt8) (ethType outPort : UInt16)
    (s : Ani) : Sending :=
  let s := { s with
    writeBuffer := createOfFlowMod Memory.zero (htonl s.transactionId) (htons packet.inPort)
      (htons 0) (htonl packet.bufferId) (htons ofpfcAdd) (htobe64 0) (htons 0) (htons 0)
      (htons 60) (htons 0) (htonl 0) (htonl ipSrc) (htonl ipDst) ipPortSrc ipPortDst
      ipProtocol 0 (htons 65535) (htons 0).toUInt8 packet.src packet.dst (htons ethType)
      (UInt16.ofNat OfpActionOutput.size) }
  let s := { s with
    writeBuffer := createOfActionOutput s.writeBuffer OfpFlowMod.actions (htons 0)
      (htons outPort) }
  (s.send env 0, [s.outgoing])

/-- The learning part of the ARP branch. -/
def learnHost (env : Env) (packet : PacketIn) (ipSrc : UInt32) (s : Ani) : Option Ani :=
  match Hosts.learn env s.hosts
      { datapathId := s.switchId, portNo := packet.inPort, macAddr := packet.src,
        ipAddr := ipSrc } with
  | none => none
  | some (hosts, printed) =>
      some { s with hosts := hosts, console := s.console ++ printed.map Line.host }

/-- The lookup of the destination: `out_port` stays 0 without an entry. -/
def lookupPort (dst : Mac) (s : Ani) : Option (Ani × UInt16) :=
  match Hosts.lookup s.hosts dst with
  | none => none
  | some (hosts, outPort) => some ({ s with hosts := hosts }, outPort)

def packoutIp6 (env : Env) (packet : PacketIn) (s : Ani) : Sending :=
  if s.cbench then sendFlood env packet s else (s, [])

def packoutArp (env : Env) (message : Memory) (packet : PacketIn) (s : Ani) : Option Sending :=
  let arp := payload message
  let ipSrc := ntohl (arp.load32 Arp.ipSource)
  let ipDst := ntohl (arp.load32 Arp.ipDest)
  match learnHost env packet ipSrc s with
  | none => none
  | some s =>
      if packet.dst = Mac.broadcast then
        some (sendFlood env packet s)
      else
        match lookupPort packet.dst s with
        | none => none
        | some (s, outPort) =>
            if outPort ≠ 0 then
              let op : UInt8 := (ntohs (arp.load16 Arp.op)).toUInt8
              -- `htons (op)` is passed as an 8-bit protocol
              some (sendFlowMod env packet ipSrc ipDst (htons 0) (htons 0)
                (htons op.toUInt16).toUInt8 arpData outPort s)
            else
              some (s, [])

def packoutIp (env : Env) (message : Memory) (packet : PacketIn) (s : Ani) : Option Sending :=
  match lookupPort packet.dst s with
  | none => none
  | some (s, outPort) =>
      let ip := payload message
      let ipSrc := ntohl (ip.load32 Iphdr.saddr)
      let ipDst := ntohl (ip.load32 Iphdr.daddr)
      let protocol := ip Iphdr.protocol
      -- the transport header is taken to follow 20 octets of IP header
      let transport := ip.shift Iphdr.size
      let portSrc := ntohs (transport.load16 Transport.source)
      let portDst := ntohs (transport.load16 Transport.dest)
      if protocol = ipTypeIcmp then
        if outPort ≠ 0 then
          some (sendFlowMod env packet ipSrc ipDst (htons 0) (htons 0) ipTypeIcmp ipData outPort s)
        else
          some (s, [])
      else if protocol = ipTypeTcp then
        if outPort ≠ 0 then
          some (sendFlowMod env packet ipSrc ipDst (htons portSrc) (htons portDst) ipTypeTcp
            ipData outPort s)
        else
          some (s, [])
      else if protocol = ipTypeUdp then
        if outPort ≠ 0 then
          some (sendFlowMod env packet ipSrc ipDst (htons portSrc) (htons portDst) ipTypeUdp
            ipData outPort s)
        else
          some (s, [])
      else if protocol = ipProtoUnknown then
        some (sendFlood env packet s)
      else
        some (s, [])

/-- The LLDP branch, which runs with `links_mutex` held from its start to its end. -/
def packoutLldp (env : Env) (message : Memory) (packet : PacketIn) (s : Ani) :
    Option Sending :=
  let anim := payload message
  if s.linksMutex ≠ none then
    none
  else if anim AnimHeader.type = animEchoRequest then
    some (s, [headerBytes (echoReplyPacketOut packet.inPort)])
  else if anim AnimHeader.type = animEchoReply then
    match s.swReplys.addFilled (env.objectAllocated 0) (env.blockAllocated 0)
        { portNo := packet.inPort, received := true } with
    | none => none
    | some replys => some ({ s with swReplys := replys }, [])
  else if anim AnimHeader.type = animNode then
    let node := anim.shift AnimHeader.size
    match s.links.addFilled (env.objectAllocated 0) (env.blockAllocated 0)
        { nodeA := { datapathId := s.switchId, portNo := packet.inPort }
          nodeB := { datapathId := be64toh (node.load64 NetNodeWire.datapathId)
                     portNo := ntohs (node.load16 NetNodeWire.portNo) } } with
    | none => none
    | some links => some ({ s with links := links, animNodeCounter := 0 }, [])
  else
    some (s, [])

def packoutBranch (env : Env) (message : Memory) (packet : PacketIn) (s : Ani) :
    Option Sending :=
  if packet.type = ip6Data then
    some (packoutIp6 env packet s)
  else if packet.type = arpData then
    packoutArp env message packet s
  else if packet.type = ipData then
    packoutIp env message packet s
  else if packet.type = lldpData then
    packoutLldp env message packet s
  else
    some (s, [])

def actionPackout (env : Env) (ofBuffer : Nat) (s : Ani) : Option Outcome :=
  let message := s.readBuffer.shift ofBuffer
  let packet := parsePacketIn message
  match packoutBranch env message packet { s with transactionId := packet.xid } with
  | none => none
  | some (s, sent) =>
      if s.writeBufferLen < 0 then
        some ⟨s, sent, -1, false⟩
      else
        some ⟨s, sent, env.fallsOff, false⟩

/-- The functions that `send_information` calls. -/
inductive Handler where
  | hello
  | featuresReply
  | packout
  | echo
  deriving DecidableEq, Repr

def handle : Handler → Env → Nat → Ani → Option Outcome
  | .hello, env, ofBuffer, s => some (actionHello env ofBuffer s)
  | .featuresReply, env, ofBuffer, s => actionFeaturesReply env ofBuffer s
  | .packout, env, ofBuffer, s => actionPackout env ofBuffer s
  | .echo, env, ofBuffer, s => some (actionEcho env ofBuffer s)

/-! ## What the answers leave as it was -/

/-- The globals that a message is written and sent with, as they are in another
state. -/
def Ani.writing (s other : Ani) : Ani :=
  { s with
    writeBuffer := other.writeBuffer
    writeBufferLen := other.writeBufferLen
    transactionId := other.transactionId
    pheader := other.pheader }

section Frames

variable (env : Env) (ofBuffer : Nat) (s : Ani)

theorem actionHello_frame :
    (actionHello env ofBuffer s).ani = s.writing (actionHello env ofBuffer s).ani := by
  unfold actionHello
  simp only
  -- a first send that fails, a second one that does, and both done
  split
  · rfl
  · split
    · split
      · rfl
      · split
        · rfl
        · rfl
    · rfl

theorem actionHello_spawned : (actionHello env ofBuffer s).spawned = false := by
  unfold actionHello
  simp only
  split
  · rfl
  · split
    · split
      · rfl
      · split
        · rfl
        · rfl
    · rfl

theorem actionEcho_frame :
    (actionEcho env ofBuffer s).ani = s.writing (actionEcho env ofBuffer s).ani := by
  unfold actionEcho
  simp only
  split
  · rfl
  · split
    · rfl
    · rfl

theorem actionEcho_spawned : (actionEcho env ofBuffer s).spawned = false := by
  unfold actionEcho
  simp only
  split
  · rfl
  · split
    · rfl
    · rfl

theorem sendSwitchConfig_frame :
    (sendSwitchConfig env s).ani = s.writing (sendSwitchConfig env s).ani := by
  unfold sendSwitchConfig
  simp only
  split
  · rfl
  · split
    · rfl
    · rfl

theorem sendSwitchConfig_spawned : (sendSwitchConfig env s).spawned = env.threadCreated := by
  unfold sendSwitchConfig
  simp only
  split
  · rfl
  · split
    · rfl
    · rfl

end Frames

end DAIM.Ani41
