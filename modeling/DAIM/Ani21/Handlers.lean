import DAIM.Com
import DAIM.PacketIn
import DAIM.Ani21.NodeShare
import DAIM.Ani41.Handlers

/-!
# The message handlers of version 2.1

`action_hello`, `action_echo`, `action_features_reply` and `action_packout` of
`_con.cpp` in `ANIv21`.  As in version 4, a handler gets the offset of its
message in `read_buffer` and returns `none` when it cannot return.

`action_features_reply` is given in the parts between its accesses to `sw_in`.
-/

namespace DAIM.Ani21

open DAIM.Library DAIM.OpenFlow DAIM.Linked DAIM.Com
open DAIM.Ani41 (portCount addPorts Handler)

namespace Ani

/-- The message in `write_buffer`. -/
def outgoing (s : Ani) : List UInt8 := headerBytes s.writeBuffer

/-- `write_buffer_len = send (...)`, for the `index`-th send of the call. -/
def send (s : Ani) (env : Env) (index : Nat) : Ani :=
  { s with writeBufferLen := env.sendResult index }

end Ani

def actionHello (env : Env) (ofBuffer : Nat) (s : Ani) : Outcome :=
  let message := s.readBuffer.shift ofBuffer
  let s := { s with
    pheader := .read ofBuffer
    transactionId := ntohl (message.load32 OfpHeader.xid) }
  let s := { s with
    writeBuffer := createOfHello Memory.zero (htonl s.transactionId)
    pheader := .write 0 }
  let hello := s.outgoing
  let s := s.send env 0
  if s.writeBufferLen = 0 then
    ⟨s, [hello], -1⟩
  else if s.writeBufferLen > 0 then
    let s := { s with transactionId := s.transactionId + 1 }
    let s := { s with
      writeBuffer := createOfFeaturesRequest s.writeBuffer (htonl s.transactionId)
      pheader := .write 0 }
    let request := s.outgoing
    let s := s.send env 1
    if s.writeBufferLen = 0 then
      ⟨s, [hello, request], -1⟩
    else if s.writeBufferLen > 0 then
      ⟨s, [hello, request], 0⟩
    else
      ⟨s, [hello, request], env.fallsOff⟩
  else
    ⟨s, [hello], env.fallsOff⟩

def actionEcho (env : Env) (ofBuffer : Nat) (s : Ani) : Outcome :=
  let message := s.readBuffer.shift ofBuffer
  let s := { s with
    pheader := .read ofBuffer
    transactionId := ntohl (message.load32 OfpHeader.xid) }
  let s := { s with
    writeBuffer := createOfEchoReply Memory.zero (htonl s.transactionId)
    pheader := .write 0 }
  let reply := s.outgoing
  let s := s.send env 0
  if s.writeBufferLen = 0 then
    ⟨s, [reply], -1⟩
  else if s.writeBufferLen > 0 then
    ⟨s, [reply], 0⟩
  else
    ⟨s, [reply], env.fallsOff⟩

/-! ## `action_features_reply` -/

/-- The values of a features reply that the threads are to be told. -/
def switchInfo (message : Memory) : SwitchInfo where
  datapathId := be64toh (message.load64 OfpSwitchFeatures.datapathId)
  noOfPorts := portCount (ntohs (message.load16 OfpHeader.length))

/-- Up to the test of `no_of_ports`. -/
def countPorts (ofBuffer : Nat) (s : Ani) : Ani :=
  let message := s.readBuffer.shift ofBuffer
  { s with
    transactionId := ntohl (message.load32 OfpHeader.xid)
    noOfPorts := (switchInfo message).noOfPorts }

/-- The assignments to `switch_id` and to the first member of `sw_in`. -/
def storeDatapath (ofBuffer : Nat) (s : Ani) : Ani :=
  let message := s.readBuffer.shift ofBuffer
  let s := { s with switchId := (switchInfo message).datapathId }
  { s with swIn := { s.swIn with datapathId := s.switchId } }

/-- The assignment to its second member, which `pthread_create` follows. -/
def storePorts (s : Ani) : Ani := { s with swIn := { s.swIn with noOfPorts := s.noOfPorts } }

/-- The end of `action_features_reply`. -/
def sendSwitchConfig (env : Env) (s : Ani) : Outcome :=
  let s := { s with transactionId := s.transactionId + 1 }
  let s := { s with
    writeBuffer := createOfSwitchConfig Memory.zero (htonl s.transactionId) (htons 0) (htons 128) }
  let config := s.outgoing
  let s := s.send env 0
  if s.writeBufferLen < 0 then
    ⟨s, [config], -1⟩
  else if s.writeBufferLen > 0 then
    ⟨s, [config], 0⟩
  else
    ⟨s, [config], env.fallsOff⟩

/-- What follows the creation of the thread. -/
def configureSwitch (env : Env) (ofBuffer : Nat) (s : Ani) : Option Outcome :=
  let message := s.readBuffer.shift ofBuffer
  match addPorts env message s.switchId s.noOfPorts.toNat 0 s.ports with
  | none => none
  | some ports =>
      match ports.showAll with
      | none => none
      | some (ports, printed) =>
          some (sendSwitchConfig env { s with
            ports := ports
            console := s.console ++ printed.map Line.port })

/-! ## `action_packout` -/

/-- The state after some sends, and the octets sent. -/
abbrev Sending := Ani × List (List UInt8)

def sendFlood (env : Env) (packet : PacketIn) (s : Ani) : Sending :=
  let s := { s with
    writeBuffer := createOfPacketOut Memory.zero (htonl s.transactionId) (htonl packet.bufferId)
      (htons packet.inPort) (UInt16.ofNat OfpActionOutput.size) 0 }
  let s := { s with
    writeBuffer := createOfActionOutput s.writeBuffer OfpPacketOut.actions (htons 0)
      (htons ofppFlood) }
  (s.send env 0, [s.outgoing])

def sendFlowMod (env : Env) (packet : PacketIn) (ipSrc ipDst : UInt32)
    (ipPortSrc ipPortDst : UInt16) (ipProtocol : UInt8) (ethType outPort : UInt16)
    (s : Ani) : Sending :=
  let s := { s with
    writeBuffer := createOfFlowMod Memory.zero (htonl s.transactionId) (htons packet.inPort)
      (htons 0) (htonl packet.bufferId) (htons ofpfcAdd) (htobe64 0) (htons 0) (htons 0)
      (htons 60) (htons 0) (htonl 0) (htonl ipSrc) (htonl ipDst) ipPortSrc ipPortDst
      ipProtocol 0 (htons 65535) (htons 0).toUInt8 packet.src packet.dst (htons ethType)
      (UInt16.ofNat OfpActionOutput.size) }
  let s := { s with
    writeBuffer := createOfActionOutput s.writeBuffer OfpFlowMod.actions (htons 0)
      (htons outPort) }
  (s.send env 0, [s.outgoing])

def learnHost (env : Env) (packet : PacketIn) (ipSrc : UInt32) (s : Ani) : Option Ani :=
  match Hosts.learn env s.hosts
      { datapathId := s.switchId, portNo := packet.inPort, macAddr := packet.src,
        ipAddr := ipSrc } with
  | none => none
  | some (hosts, printed) =>
      some { s with hosts := hosts, console := s.console ++ printed.map Line.host }

def lookupPort (dst : Mac) (s : Ani) : Option (Ani × UInt16) :=
  match Hosts.lookup s.hosts dst with
  | none => none
  | some (hosts, outPort) => some ({ s with hosts := hosts }, outPort)

def packoutIp6 (env : Env) (packet : PacketIn) (s : Ani) : Sending :=
  if s.cbench then sendFlood env packet s else (s, [])

def packoutArp (env : Env) (message : Memory) (packet : PacketIn) (s : Ani) : Option Sending :=
  let arp := payload message
  let ipSrc := ntohl (arp.load32 Arp.ipSource)
  let ipDst := ntohl (arp.load32 Arp.ipDest)
  match learnHost env packet ipSrc s with
  | none => none
  | some s =>
      if packet.dst = Mac.broadcast then
        some (sendFlood env packet s)
      else
        match lookupPort packet.dst s with
        | none => none
        | some (s, outPort) =>
            if outPort ≠ 0 then
              let op : UInt8 := (ntohs (arp.load16 Arp.op)).toUInt8
              some (sendFlowMod env packet ipSrc ipDst (htons 0) (htons 0)
                (htons op.toUInt16).toUInt8 arpData outPort s)
            else
              some (s, [])

def packoutIp (env : Env) (message : Memory) (packet : PacketIn) (s : Ani) : Option Sending :=
  match lookupPort packet.dst s with
  | none => none
  | some (s, outPort) =>
      let ip := payload message
      let ipSrc := ntohl (ip.load32 Iphdr.saddr)
      let ipDst := ntohl (ip.load32 Iphdr.daddr)
      let protocol := ip Iphdr.protocol
      let transport := ip.shift Iphdr.size
      let portSrc := ntohs (transport.load16 Transport.source)
      let portDst := ntohs (transport.load16 Transport.dest)
      if protocol = ipTypeIcmp then
        if outPort ≠ 0 then
          some (sendFlowMod env packet ipSrc ipDst (htons 0) (htons 0) ipTypeIcmp ipData outPort s)
        else
          some (s, [])
      else if protocol = ipTypeTcp then
        if outPort ≠ 0 then
          some (sendFlowMod env packet ipSrc ipDst (htons portSrc) (htons portDst) ipTypeTcp
            ipData outPort s)
        else
          some (s, [])
      else if protocol = ipTypeUdp then
        if outPort ≠ 0 then
          some (sendFlowMod env packet ipSrc ipDst (htons portSrc) (htons portDst) ipTypeUdp
            ipData outPort s)
        else
          some (s, [])
      else if protocol = ipProtoUnknown then
        some (sendFlood env packet s)
      else
        some (s, [])

/-- The LLDP branch prints the octets behind the Ethernet header up to the
first that is zero; without one among them the print leaves the local array. -/
def packoutLldp (message : Memory) (s : Ani) : Option Sending :=
  let text := (payload message).slice 0 messageSize
  if 0 ∈ text then
    some ({ s with console := s.console ++ [.message (cString text)] }, [])
  else
    none

def packoutBranch (env : Env) (message : Memory) (packet : PacketIn) (s : Ani) :
    Option Sending :=
  if packet.type = ip6Data then
    some (packoutIp6 env packet s)
  else if packet.type = arpData then
    packoutArp env message packet s
  else if packet.type = ipData then
    packoutIp env message packet s
  else if packet.type = lldpData then
    packoutLldp message s
  else
    some (s, [])

def actionPackout (env : Env) (ofBuffer : Nat) (s : Ani) : Option Outcome :=
  let message := s.readBuffer.shift ofBuffer
  let packet := parsePacketIn message
  match packoutBranch env message packet { s with transactionId := packet.xid } with
  | none => none
  | some (s, sent) =>
      if s.writeBufferLen < 0 then
        some ⟨s, sent, -1⟩
      else
        some ⟨s, sent, env.fallsOff⟩

/-- The handlers but for `action_features_reply`, which is no single step. -/
def handle : Handler → Env → Nat → Ani → Option Outcome
  | .hello, env, ofBuffer, s => some (actionHello env ofBuffer s)
  | .featuresReply, _, _, _ => none
  | .packout, env, ofBuffer, s => actionPackout env ofBuffer s
  | .echo, env, ofBuffer, s => some (actionEcho env ofBuffer s)

end DAIM.Ani21
