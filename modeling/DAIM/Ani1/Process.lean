import DAIM.Library.Runs
import DAIM.Ani1.Packout
import DAIM.Ani41.Process

/-!
# The process of version 1

The loop of `send_information` with the handlers that it calls.  `action_hello`
and `action_echo` send the received message back: they copy as many octets of
it as its header says.  The port records are read and stored, and a message is
dispatched, as in version 4.
-/

namespace DAIM.Ani1

open DAIM.Library DAIM.OpenFlow DAIM.Linked DAIM.Com
open DAIM.Ani41 (Handler dispatch SwitchPort portCount addPorts readBufferSize)

/-- `sizeof (write_buffer)`. -/
def writeBufferSize : Nat := 10240

/-- The globals of `main.cpp`; `shownPorts` are the ports that `show_ports` prints. -/
structure Globals extends Ani where
  ports : ObjectList SwitchPort
  readBufferp : Nat
  readBufferLen : Int
  shownPorts : List SwitchPort

/-- The globals when the switch has connected. -/
def Globals.initial : Globals where
  hosts := .empty
  readBuffer := Memory.zero
  writeBuffer := Memory.zero
  writeBufferLen := 0
  transactionId := 0
  switchId := 0
  console := []
  ports := .empty
  readBufferp := 0
  readBufferLen := 0
  shownPorts := []

/-- What a handler did: the octets it copied into `write_buffer`, those it
passed to `send`, and the globals and the result when it returned.  It does not
return from an access outside of the two buffers. -/
structure Called where
  copied : Nat
  sent : List (List UInt8)
  returned : Option (Globals × Int)

/-- `ntohs (pheader->length)`. -/
def statedLength (message : Memory) : Nat := (ntohs (message.load16 OfpHeader.length)).toNat

/-- What `memset` and `memcpy` leave in `write_buffer`. -/
def copyMessage (message : Memory) : Memory :=
  Memory.ofList (message.slice 0 (statedLength message)) Memory.zero

/-- The result of `action_hello` and `action_echo` by that of their last `send`. -/
def sendStatus (env : Env) (sent : Int) : Int :=
  if sent = 0 then -1 else if sent > 0 then 0 else env.fallsOff

def actionHello (env : Env) (ofBuffer : Nat) (s : Globals) : Called :=
  let message := s.readBuffer.shift ofBuffer
  let length := statedLength message
  let s := { s with transactionId := ntohl (message.load32 OfpHeader.xid) }
  if length > writeBufferSize then
    ⟨length, [], none⟩
  else
    let s := { s with writeBuffer := copyMessage message }
    let hello := s.writeBuffer.slice 0 length
    let s := { s with writeBufferLen := env.sendResult 0 }
    if s.writeBufferLen = 0 then
      ⟨length, [hello], some (s, -1)⟩
    else if s.writeBufferLen > 0 then
      let s := { s with
        writeBuffer := (s.writeBuffer.store8 OfpHeader.type ofptFeaturesRequest).store32
          OfpHeader.xid (htonl (s.transactionId + 1))
        transactionId := s.transactionId + 1 }
      -- the length is read from `write_buffer` now
      let request := headerBytes s.writeBuffer
      let s := { s with writeBufferLen := env.sendResult 1 }
      ⟨length, [hello, request], some (s, sendStatus env s.writeBufferLen)⟩
    else
      ⟨length, [hello], some (s, env.fallsOff)⟩

def actionEcho (env : Env) (ofBuffer : Nat) (s : Globals) : Called :=
  let message := s.readBuffer.shift ofBuffer
  let length := statedLength message
  if length > writeBufferSize then
    ⟨length, [], none⟩
  else
    let s := { s with
      writeBuffer := (copyMessage message).store8 OfpHeader.type ofptEchoReply }
    let reply := headerBytes s.writeBuffer
    let s := { s with writeBufferLen := env.sendResult 0 }
    ⟨length, [reply], some (s, sendStatus env s.writeBufferLen)⟩

def switchConfig (transactionId : UInt32) : Memory :=
  Memory.zero
    |>.store8 OfpHeader.version 1
    |>.store8 OfpHeader.type ofptSetConfig
    |>.store32 OfpHeader.xid (htonl transactionId)
    |>.store16 OfpHeader.length (htons (UInt16.ofNat OfpSwitchConfig.size))
    |>.store16 OfpSwitchConfig.flags (htons 0)
    |>.store16 OfpSwitchConfig.missSendLen (htons 128)

/-- The end of `action_features_reply`, after `show_ports`. -/
def sendSwitchConfig (env : Env) (s : Globals) : Called :=
  let s := { s with
    transactionId := s.transactionId + 1
    writeBuffer := switchConfig (s.transactionId + 1) }
  let config := s.writeBuffer.slice 0 OfpSwitchConfig.size
  let s := { s with writeBufferLen := env.sendResult 0 }
  if s.writeBufferLen < 0 then
    ⟨0, [config], some (s, -1)⟩
  else if s.writeBufferLen > 0 then
    ⟨0, [config], some (s, 0)⟩
  else
    ⟨0, [config], some (s, env.fallsOff)⟩

/-- The port records of a features reply end inside of `read_buffer`. -/
def RecordsInside (ofBuffer : Nat) (count : Int) : Prop :=
  ofBuffer + OfpSwitchFeatures.ports + OfpPhyPort.size * count.toNat ≤ readBufferSize

instance (ofBuffer : Nat) (count : Int) : Decidable (RecordsInside ofBuffer count) :=
  inferInstanceAs (Decidable (_ ≤ _))

def actionFeaturesReply (env : Env) (ofBuffer : Nat) (s : Globals) : Called :=
  let message := s.readBuffer.shift ofBuffer
  let s := { s with transactionId := ntohl (message.load32 OfpHeader.xid) }
  let noOfPorts := portCount (ntohs (message.load16 OfpHeader.length))
  if noOfPorts = 0 then
    ⟨0, [], some (s, -1)⟩
  else if ¬ RecordsInside ofBuffer noOfPorts then
    ⟨0, [], none⟩
  else
    let s := { s with switchId := be64toh (message.load64 OfpSwitchFeatures.datapathId) }
    match addPorts env message s.switchId noOfPorts.toNat 0 s.ports with
    | none => ⟨0, [], none⟩
    | some ports =>
        match ports.showAll with
        | none => ⟨0, [], none⟩
        | some (ports, printed) =>
            sendSwitchConfig env { s with ports := ports, shownPorts := s.shownPorts ++ printed }

def handle : Handler → Env → Nat → Globals → Called
  | .hello, env, ofBuffer, s => actionHello env ofBuffer s
  | .featuresReply, env, ofBuffer, s => actionFeaturesReply env ofBuffer s
  | .packout, env, ofBuffer, s =>
      match actionPackout env ofBuffer s.toAni with
      | none => ⟨0, [], none⟩
      | some outcome =>
          ⟨0, outcome.sent, some ({ s with toAni := outcome.ani }, outcome.result)⟩
  | .echo, env, ofBuffer, s => actionEcho env ofBuffer s

def checkOpenflow (ofBuffer : Memory) : Int :=
  if ofBuffer OfpHeader.version = ofpVersion then 0 else -1

/-- Where the process is.  `scanning` is the loop of `send_information` with its
variable `counter`; behind an access outside of the buffers nothing is known. -/
inductive Place where
  | reading
  | sending
  | scanning (counter : Int)
  | overrun
  | exited
  deriving DecidableEq, Repr

structure Process where
  globals : Globals
  place : Place

namespace Process

def initial : Process := ⟨Globals.initial, .reading⟩

end Process

/-- A call of a handler; `left` is what was received from the start of its message on. -/
structure Call where
  handler : Handler
  left : Int
  copied : Nat
  sent : List (List UInt8)

inductive Event where
  | internal
  | received (chunk : List UInt8)
  | lost
  | handled (call : Call)

/-- The call of `recv`. -/
def Event.Reads : Event → Prop
  | .received _ | .lost => True
  | _ => False

def Call.of (handler : Handler) (s : Globals) (called : Called) : Call :=
  ⟨handler, s.readBufferLen - s.readBufferp, called.copied, called.sent⟩

/-- `send` returns -1, or the number of octets that it has taken. -/
def TakenOf (env : Env) (sent : List (List UInt8)) : Prop :=
  ∀ index bytes, sent[index]? = some bytes →
    -1 ≤ env.sendResult index ∧ env.sendResult index ≤ bytes.length

/-- The message that the loop looks at. -/
def Globals.message (s : Globals) : Memory := s.readBuffer.shift s.readBufferp

def Globals.advance (s : Globals) (size : Nat) : Globals :=
  { s with readBufferp := s.readBufferp + size }

/-- Where `main` goes on, unless a result makes it exit. -/
def afterCall (result : Int) (place : Place) : Place :=
  if result = -1 then .exited else place

/-- One step of the process. -/
inductive Process.Step : Process → Event → Process → Prop where
  | received {s : Globals} {chunk : List UInt8} : chunk ≠ [] → chunk.length ≤ readBufferSize →
      Step ⟨s, .reading⟩ (.received chunk)
        ⟨{ s with
            readBuffer := Memory.ofList chunk Memory.zero
            readBufferLen := chunk.length }, .sending⟩
  | closed {s : Globals} :
      Step ⟨s, .reading⟩ .lost
        ⟨{ s with readBuffer := Memory.zero, readBufferLen := 0 }, .exited⟩
  -- `read_from_switch` falls off its end when `recv` fails
  | failed {s : Globals} {fallsOff : Int} :
      Step ⟨s, .reading⟩ .lost
        ⟨{ s with readBuffer := Memory.zero, readBufferLen := -1 }, afterCall fallsOff .sending⟩
  | scan {s : Globals} :
      Step ⟨s, .sending⟩ .internal ⟨{ s with readBufferp := 0 }, .scanning s.readBufferLen⟩
  | scanned {s : Globals} {counter : Int} : ¬ counter > 0 →
      Step ⟨s, .scanning counter⟩ .internal ⟨s, .reading⟩
  | unknown {s : Globals} {counter : Int} : counter > 0 → checkOpenflow s.message = -1 →
      Step ⟨s, .scanning counter⟩ .internal ⟨s, .reading⟩
  | skipped {s : Globals} {counter : Int} : counter > 0 → checkOpenflow s.message = 0 →
      dispatch (s.message OfpHeader.type) = none →
      Step ⟨s, .scanning counter⟩ .internal
        ⟨s.advance (statedLength s.message), .scanning (counter - statedLength s.message)⟩
  | handled {s next : Globals} {counter result : Int} {handler : Handler} {env : Env}
      {called : Called} : counter > 0 → checkOpenflow s.message = 0 →
      dispatch (s.message OfpHeader.type) = some handler →
      handle handler env s.readBufferp s = called → TakenOf env called.sent →
      called.returned = some (next, result) →
      Step ⟨s, .scanning counter⟩ (.handled (.of handler s called))
        ⟨next.advance (statedLength s.message),
          afterCall result (.scanning (counter - statedLength s.message))⟩
  | overran {s : Globals} {counter : Int} {handler : Handler} {env : Env} {called : Called} :
      counter > 0 → checkOpenflow s.message = 0 →
      dispatch (s.message OfpHeader.type) = some handler →
      handle handler env s.readBufferp s = called → TakenOf env called.sent →
      called.returned = none →
      Step ⟨s, .scanning counter⟩ (.handled (.of handler s called)) ⟨s, .overrun⟩

/-- The states of the process, each with what happened before. -/
abbrev Process.Reaches (events : List Event) (p : Process) : Prop :=
  Run Process.Step Process.initial events p

end DAIM.Ani1
