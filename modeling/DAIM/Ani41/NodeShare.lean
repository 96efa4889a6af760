import DAIM.Com
import DAIM.Ani41.State
import DAIM.Ani41.Anim
import DAIM.Linked.Represents

/-!
# The discovery thread

`node_share_func` of `_con.cpp`, one step for each access to the globals that
it shares with the main thread.  The two pauses are not modelled: a thread may
always be delayed.
-/

namespace DAIM.Ani41

open DAIM.Library DAIM.OpenFlow DAIM.Linked DAIM.Com

/-- Where a thread is in `node_share_func`. -/
inductive SharePlace where
  | lockRound
  | resetRound
  | probe (portno : Nat)
  | lockReplys
  | nextReply
  | shareNode (p : Addr)
  | rewindReplys
  | lockWait
  | testWait
  | unlockWait
  | lockLinks
  | nextLink
  | printLink (pl : Addr)
  | rewindLinks
  | freeReplys
  | freeLinks
  | unlockLinks
  deriving DecidableEq, Repr

/-- The places that wait for `links_mutex`, and where they go on once it is held. -/
def SharePlace.locking : SharePlace → Option SharePlace
  | .lockRound => some .resetRound
  | .lockReplys => some .nextReply
  | .lockWait => some .testWait
  | .lockLinks => some .nextLink
  | _ => none

structure Thread where
  place : SharePlace
  portsCount : Int
  deriving DecidableEq, Repr

namespace Thread

def initial : Thread := ⟨.lockRound, -1⟩

def goTo (thread : Thread) (place : SharePlace) : Thread := { thread with place := place }

end Thread

/-- One step of the thread with the given index, and the octets it sends. -/
inductive ShareStep (index : Nat) (s : Ani) (thread : Thread) :
    Option (List UInt8) → Ani → Thread → Prop where
  | lock {held : SharePlace} : thread.place.locking = some held → s.linksMutex = none →
      ShareStep index s thread none
        { s with linksMutex := some (.thread index) } (thread.goTo held)
  | resetRound : thread.place = .resetRound →
      ShareStep index s thread none
        { s with animNodeCounter := 0, linksMutex := none } ⟨.probe 1, s.noOfPorts⟩
  | probe {portno : Nat} : thread.place = .probe portno → portno < thread.portsCount + 1 →
      ShareStep index s thread
        (some (headerBytes (echoRequestPacketOut (UInt16.ofNat portno)))) s
        (thread.goTo (.probe (portno + 1)))
  | probed {portno : Nat} : thread.place = .probe portno → ¬ portno < thread.portsCount + 1 →
      ShareStep index s thread none s (thread.goTo .lockReplys)
  | nextReply {replys : ObjectList SwitchReply} {p : Addr} : thread.place = .nextReply →
      s.swReplys.getObject = some (replys, some p) →
      ShareStep index s thread none { s with swReplys := replys } (thread.goTo (.shareNode p))
  | noReply {replys : ObjectList SwitchReply} : thread.place = .nextReply →
      s.swReplys.getObject = some (replys, none) →
      ShareStep index s thread none { s with swReplys := replys } (thread.goTo .rewindReplys)
  | shareNode {p : Addr} {reply : SwitchReply} : thread.place = .shareNode p →
      s.swReplys.readObject p = some reply →
      ShareStep index s thread (some (headerBytes (nodePacketOut s.switchId reply.portNo))) s
        (thread.goTo .nextReply)
  | rewindReplys : thread.place = .rewindReplys →
      ShareStep index s thread none
        { s with swReplys := s.swReplys.listRewind, linksMutex := none } (thread.goTo .lockWait)
  | waited : thread.place = .testWait → s.animNodeCounter > 20 →
      ShareStep index s thread none s (thread.goTo .unlockWait)
  | waiting : thread.place = .testWait → ¬ s.animNodeCounter > 20 →
      ShareStep index s thread none
        { s with animNodeCounter := s.animNodeCounter + 1, linksMutex := none }
        (thread.goTo .lockWait)
  | unlockWait : thread.place = .unlockWait →
      ShareStep index s thread none { s with linksMutex := none } (thread.goTo .lockLinks)
  | nextLink {links : ObjectList SwitchLink} {pl : Addr} : thread.place = .nextLink →
      s.links.getObject = some (links, some pl) →
      ShareStep index s thread none { s with links := links } (thread.goTo (.printLink pl))
  | noLink {links : ObjectList SwitchLink} : thread.place = .nextLink →
      s.links.getObject = some (links, none) →
      ShareStep index s thread none { s with links := links } (thread.goTo .rewindLinks)
  | printLink {pl : Addr} {link : SwitchLink} : thread.place = .printLink pl →
      s.links.readObject pl = some link →
      ShareStep index s thread none { s with console := s.console ++ [.link link] }
        (thread.goTo .nextLink)
  | rewindLinks : thread.place = .rewindLinks →
      ShareStep index s thread none { s with links := s.links.listRewind } (thread.goTo .freeReplys)
  | freeReplys {replys : ObjectList SwitchReply} {count : Int} : thread.place = .freeReplys →
      s.swReplys.freeList = some (replys, count) →
      ShareStep index s thread none { s with swReplys := replys } (thread.goTo .freeLinks)
  | freeLinks {links : ObjectList SwitchLink} {count : Int} : thread.place = .freeLinks →
      s.links.freeList = some (links, count) →
      ShareStep index s thread none { s with links := links } (thread.goTo .unlockLinks)
  | unlockLinks : thread.place = .unlockLinks →
      ShareStep index s thread none { s with linksMutex := none } (thread.goTo .lockRound)

namespace ShareStep

variable {index : Nat} {s next : Ani} {thread after : Thread} {sent : Option (List UInt8)}

/-- The globals that a discovery thread may change. -/
theorem frame (step : ShareStep index s thread sent next after) :
    next = { s with
      linksMutex := next.linksMutex
      animNodeCounter := next.animNodeCounter
      swReplys := next.swReplys
      links := next.links
      console := next.console } := by
  cases step <;> rfl

/-- What the main loop reads. -/
theorem keeps_buffer (step : ShareStep index s thread sent next after) :
    next.cbench = s.cbench ∧ next.readBuffer = s.readBuffer ∧
      next.readBufferp = s.readBufferp ∧ next.readBufferLen = s.readBufferLen := by
  rw [step.frame]
  exact ⟨rfl, rfl, rfl, rfl⟩

/-- A thread sends a probe to a port, or its own address to the port of a
reply that it has received. -/
theorem sent_cases (step : ShareStep index s thread sent next after) :
    sent = none ∨ (∃ port, sent = some (headerBytes (echoRequestPacketOut port))) ∨
      ∃ p reply, s.swReplys.readObject p = some reply ∧
        sent = some (headerBytes (nodePacketOut s.switchId reply.portNo)) := by
  cases step with
  | probe _ _ => exact .inr (.inl ⟨_, rfl⟩)
  | shareNode _ found => exact .inr (.inr ⟨_, _, found, rfl⟩)
  | _ => exact .inl rfl

end ShareStep

/-! ## Running a thread -/

def lockFor (index : Nat) (s : Ani) (thread : Thread) (held : SharePlace) :
    Option (Option (List UInt8) × Ani × Thread) :=
  if s.linksMutex = none then
    some (none, { s with linksMutex := some (.thread index) }, thread.goTo held)
  else none

/-- What the next step of a thread is, if it can go on. -/
def share (index : Nat) (s : Ani) (thread : Thread) :
    Option (Option (List UInt8) × Ani × Thread) :=
  match thread.place with
  | .lockRound => lockFor index s thread .resetRound
  | .resetRound =>
      some (none, { s with animNodeCounter := 0, linksMutex := none }, ⟨.probe 1, s.noOfPorts⟩)
  | .probe portno =>
      if portno < thread.portsCount + 1 then
        some (some (headerBytes (echoRequestPacketOut (UInt16.ofNat portno))), s,
          thread.goTo (.probe (portno + 1)))
      else some (none, s, thread.goTo .lockReplys)
  | .lockReplys => lockFor index s thread .nextReply
  | .nextReply =>
      s.swReplys.getObject.map fun (replys, found) =>
        (none, { s with swReplys := replys }, thread.goTo (found.elim .rewindReplys .shareNode))
  | .shareNode p =>
      (s.swReplys.readObject p).map fun reply =>
        (some (headerBytes (nodePacketOut s.switchId reply.portNo)), s, thread.goTo .nextReply)
  | .rewindReplys =>
      some (none, { s with swReplys := s.swReplys.listRewind, linksMutex := none },
        thread.goTo .lockWait)
  | .lockWait => lockFor index s thread .testWait
  | .testWait =>
      if s.animNodeCounter > 20 then some (none, s, thread.goTo .unlockWait)
      else
        some (none, { s with animNodeCounter := s.animNodeCounter + 1, linksMutex := none },
          thread.goTo .lockWait)
  | .unlockWait => some (none, { s with linksMutex := none }, thread.goTo .lockLinks)
  | .lockLinks => lockFor index s thread .nextLink
  | .nextLink =>
      s.links.getObject.map fun (links, found) =>
        (none, { s with links := links }, thread.goTo (found.elim .rewindLinks .printLink))
  | .printLink pl =>
      (s.links.readObject pl).map fun link =>
        (none, { s with console := s.console ++ [.link link] }, thread.goTo .nextLink)
  | .rewindLinks =>
      some (none, { s with links := s.links.listRewind }, thread.goTo .freeReplys)
  | .freeReplys =>
      s.swReplys.freeList.map fun (replys, _) =>
        (none, { s with swReplys := replys }, thread.goTo .freeLinks)
  | .freeLinks =>
      s.links.freeList.map fun (links, _) =>
        (none, { s with links := links }, thread.goTo .unlockLinks)
  | .unlockLinks => some (none, { s with linksMutex := none }, thread.goTo .lockRound)

section Running

variable {index : Nat} {s next : Ani} {thread after : Thread} {sent : Option (List UInt8)}

theorem ShareStep.share_eq (step : ShareStep index s thread sent next after) :
    share index s thread = some (sent, next, after) := by
  cases step with
  | @lock held locking free =>
      unfold share lockFor
      cases place : thread.place <;> rw [place] at locking <;> cases locking <;> simp [free]
  | probe place more => simp [share, place, more]
  | probed place done => simp [share, place, done]
  | waited place elapsed => simp [share, place, elapsed]
  | waiting place more => simp [share, place, more]
  | _ => simp [share, *]

/-- The next step of a thread is the only one. -/
theorem share_eq_some_iff :
    share index s thread = some (sent, next, after) ↔
      ShareStep index s thread sent next after := by
  refine ⟨fun taken => ?_, ShareStep.share_eq⟩
  have locks {held : SharePlace} (locking : thread.place.locking = some held)
      (taken : lockFor index s thread held = some (sent, next, after)) :
      ShareStep index s thread sent next after := by
    unfold lockFor at taken
    split at taken
    · rename_i free
      cases taken
      exact .lock locking free
    · cases taken
  unfold share at taken
  split at taken
  all_goals rename_i place
  · exact locks (by rw [place]; rfl) taken
  · cases taken
    exact .resetRound place
  · split at taken
    · rename_i more
      cases taken
      exact .probe place more
    · rename_i done
      cases taken
      exact .probed place done
  · exact locks (by rw [place]; rfl) taken
  · obtain ⟨⟨replys, found⟩, got, same⟩ := Option.map_eq_some_iff.mp taken
    cases same
    cases found with
    | none => exact .noReply place got
    | some p => exact .nextReply place got
  · obtain ⟨reply, read, same⟩ := Option.map_eq_some_iff.mp taken
    cases same
    exact .shareNode place read
  · cases taken
    exact .rewindReplys place
  · exact locks (by rw [place]; rfl) taken
  · split at taken
    · rename_i elapsed
      cases taken
      exact .waited place elapsed
    · rename_i more
      cases taken
      exact .waiting place more
  · cases taken
    exact .unlockWait place
  · exact locks (by rw [place]; rfl) taken
  · obtain ⟨⟨links, found⟩, got, same⟩ := Option.map_eq_some_iff.mp taken
    cases same
    cases found with
    | none => exact .noLink place got
    | some pl => exact .nextLink place got
  · obtain ⟨link, read, same⟩ := Option.map_eq_some_iff.mp taken
    cases same
    exact .printLink place read
  · cases taken
    exact .rewindLinks place
  · obtain ⟨⟨replys, count⟩, freed, same⟩ := Option.map_eq_some_iff.mp taken
    cases same
    exact .freeReplys place freed
  · obtain ⟨⟨links, count⟩, freed, same⟩ := Option.map_eq_some_iff.mp taken
    cases same
    exact .freeLinks place freed
  · cases taken
    exact .unlockLinks place

end Running

end DAIM.Ani41
