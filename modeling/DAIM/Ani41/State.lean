import DAIM.Hosts

/-!
# The globals of version 4

The records of `_con.h` and the global variables of `_con.cpp` that some
function reads.  `verbose` only guards messages on the console; of the console
only the lines that print a table entry are kept.
-/

namespace DAIM.Ani41

open DAIM.Library DAIM.OpenFlow DAIM.Linked

structure SwitchPort where
  datapathId : UInt64
  portNo : UInt16
  macAddr : Mac
  deriving DecidableEq, Repr

/-- The member `rec` of the source is `received` here. -/
structure SwitchReply where
  portNo : UInt16
  received : Bool
  deriving DecidableEq, Repr

structure NetNode where
  datapathId : UInt64
  portNo : UInt16
  deriving DecidableEq, Repr

structure SwitchLink where
  nodeA : NetNode
  nodeB : NetNode
  deriving DecidableEq, Repr

/-- The thread that holds `links_mutex`. -/
inductive Owner where
  | main
  | thread (index : Nat)
  deriving DecidableEq, Repr

/-- A pointer into one of the two message buffers. -/
inductive Pointer where
  | null
  | read (offset : Nat)
  | write (offset : Nat)
  deriving DecidableEq, Repr

/-- A console line that prints a table entry. -/
inductive Line where
  | host (entry : SwitchHost)
  | port (entry : SwitchPort)
  | link (entry : SwitchLink)
  deriving DecidableEq, Repr

/-- `swSockfd` names the connection behind `sw_sockfd`; `none` is -1. -/
structure Ani where
  cbench : Bool
  swSockfd : Option Nat
  linksMutex : Option Owner
  swReplys : ObjectList SwitchReply
  animNodeCounter : Int
  hosts : ObjectList SwitchHost
  ports : ObjectList SwitchPort
  links : ObjectList SwitchLink
  readBuffer : Memory
  writeBuffer : Memory
  readBufferp : Nat
  readBufferLen : Int
  writeBufferLen : Int
  transactionId : UInt32
  switchId : UInt64
  noOfPorts : Int
  pheader : Pointer
  console : List Line

namespace Ani

/-- The globals after `main` has accepted the first connection. -/
def initial (cbench : Bool) : Ani where
  cbench := cbench
  swSockfd := some 0
  linksMutex := none
  swReplys := .empty
  animNodeCounter := 0
  hosts := .empty
  ports := .empty
  links := .empty
  readBuffer := Memory.zero
  writeBuffer := Memory.zero
  readBufferp := 0
  readBufferLen := 0
  writeBufferLen := 0
  transactionId := 0
  switchId := 0
  noOfPorts := -1
  pheader := .null
  console := []

/-- The memory that a pointer sees. -/
def view (s : Ani) : Pointer → Memory
  | .null => Memory.zero
  | .read offset => s.readBuffer.shift offset
  | .write offset => s.writeBuffer.shift offset

end Ani

/-- The result of a handler with the byte strings it passed to `send`. -/
structure Outcome where
  ani : Ani
  sent : List (List UInt8)
  result : Int
  spawned : Bool

end DAIM.Ani41
