import DAIM.Ani41.State

/-!
# The globals of version 2.1

The records of `_con.h` and the global variables of `_con.cpp` in `ANIv21`.
The records of ports and hosts are those of version 4; there are no links, no
replies and no mutex, and `sw_in` is what the discovery threads are given.
-/

namespace DAIM.Ani21

open DAIM.Library DAIM.OpenFlow DAIM.Linked
open DAIM.Ani41 (SwitchPort Pointer)

structure SwitchInfo where
  datapathId : UInt64
  noOfPorts : Int
  deriving DecidableEq, Repr

/-- A console line that prints a table entry, or the message of another
controller. -/
inductive Line where
  | host (entry : SwitchHost)
  | port (entry : SwitchPort)
  | message (text : List UInt8)
  deriving DecidableEq, Repr

structure Ani where
  cbench : Bool
  swSockfd : Option Nat
  hosts : ObjectList SwitchHost
  ports : ObjectList SwitchPort
  readBuffer : Memory
  writeBuffer : Memory
  readBufferp : Nat
  readBufferLen : Int
  writeBufferLen : Int
  transactionId : UInt32
  switchId : UInt64
  noOfPorts : Int
  swIn : SwitchInfo
  pheader : Pointer
  console : List Line

namespace Ani

/-- The globals after `main` has accepted the first connection. -/
def initial (cbench : Bool) : Ani where
  cbench := cbench
  swSockfd := some 0
  hosts := .empty
  ports := .empty
  readBuffer := Memory.zero
  writeBuffer := Memory.zero
  readBufferp := 0
  readBufferLen := 0
  writeBufferLen := 0
  transactionId := 0
  switchId := 0
  noOfPorts := -1
  swIn := ⟨0, 0⟩
  pheader := .null
  console := []

/-- The memory that a pointer sees. -/
def view (s : Ani) : Pointer → Memory
  | .null => Memory.zero
  | .read offset => s.readBuffer.shift offset
  | .write offset => s.writeBuffer.shift offset

end Ani

/-- The result of a handler with the byte strings it passed to `send`. -/
structure Outcome where
  ani : Ani
  sent : List (List UInt8)
  result : Int

end DAIM.Ani21
