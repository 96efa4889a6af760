import DAIM.Library.Decimal
import DAIM.Com
import DAIM.Ani21.State
import DAIM.Ani41.Anim

/-!
# The discovery thread of version 2.1

`node_share_func` of `_con.cpp` in `ANIv21`: after it has read the two members
of `sw_in`, a thread sends a line of text out of each port, again and again.
The two pauses are not modelled, a thread may always be delayed.
-/

namespace DAIM.Ani21

open DAIM.Library DAIM.OpenFlow DAIM.Com
open DAIM.Ani41 (discoveryPacketOut animOffset)

/-- `sprintf (message, "%s %u", ...)`; `%u` takes the low half of `datap`. -/
def greeting (datap : UInt64) : List UInt8 :=
  "Hello, I am controller from datapath  ".toList.map Char.toUInt8 ++
    decimal datap.toUInt32.toNat

/-- `sizeof (message)`. -/
def messageSize : Nat := 1024

/-- The octets of `message`, which was cleared before. -/
def greetingMessage (datap : UInt64) : List UInt8 :=
  (Memory.ofList (greeting datap) Memory.zero).slice 0 messageSize

/-- `n_buffer`. -/
def greetingPacketOut (port : UInt16) (datap : UInt64) : Memory :=
  discoveryPacketOut port
    |>.store animOffset (greetingMessage datap)
    |>.store16 OfpHeader.length (htons (UInt16.ofNat (animOffset + messageSize)))

/-- Where a thread is, with the values of its variables there. -/
inductive Thread where
  | readPorts
  | readDatapath (portsCount : Int)
  | sending (portsCount : Int) (datap : UInt64) (portno : Nat)
  deriving DecidableEq, Repr

/-- The next step of a thread, and the octets it sends. -/
def share (swIn : SwitchInfo) : Thread → Option (List UInt8) × Thread
  | .readPorts => (none, .readDatapath swIn.noOfPorts)
  | .readDatapath portsCount => (none, .sending portsCount swIn.datapathId 1)
  | .sending portsCount datap portno =>
      if portno < portsCount + 1 then
        (some (headerBytes (greetingPacketOut (UInt16.ofNat portno) datap)),
          .sending portsCount datap (portno + 1))
      else
        (none, .sending portsCount datap 1)

end DAIM.Ani21
