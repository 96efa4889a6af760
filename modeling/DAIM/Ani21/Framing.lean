import DAIM.Ani21.Sharing
import DAIM.Ani41.Framing

/-!
# Messages in the byte stream

When every chunk that the main thread receives is made of whole messages, then
`action_packout` is called with one of them, in the benchmark mode as well as
outside of it.
-/

namespace DAIM.Ani21

open DAIM.Library DAIM.OpenFlow DAIM.Linked
open DAIM.Ani41 (Handler Call Takes dispatch head_read)

/-- From the offset on, the buffer holds so many octets, which are messages one
after the other. -/
def Holds (messages : List (List UInt8)) (s : Ani) (offset : Nat) (count : Int) : Prop :=
  ∃ todo : List (List UInt8), (∀ bytes ∈ todo, bytes ∈ messages) ∧
    (s.readBuffer.shift offset).Starts todo.flatten ∧ count = todo.flatten.length

/-- Nothing was received since the buffer was cleared. -/
def Blank (s : Ani) : Prop := s.readBuffer = Memory.zero ∧ s.readBufferLen < 1

/-- What remains of the chunk for the loop over it, if anything does. -/
def Remains (messages : List (List UInt8)) (s : Ani) (offset : Nat) (count : Int) : Prop :=
  count > 0 → Holds messages s offset count

/-- What remains when the handler has returned. -/
def Caller.Remains (messages : List (List UInt8)) (s : Ani) : Caller → Prop
  | .single => True
  | .loop counter size => Ani21.Remains messages s (s.readBufferp + size) (counter - size)

/-- What the main thread faces in `read_buffer`. -/
def Process.Faces (messages : List (List UInt8)) (p : Process) : Prop :=
  match p.place with
  | .reading | .exited => True
  | .closing | .freeHosts | .freePorts | .accepting => Blank p.ani
  | .sending => Blank p.ani ∨ p.ani.readBufferLen > 0 ∧ Holds messages p.ani 0 p.ani.readBufferLen
  | .scanning counter => Remains messages p.ani p.ani.readBufferp counter
  | .storePorts caller | .createThread caller | .addPorts caller _ =>
      caller.Remains messages p.ani

section Reading

variable {messages : List (List UInt8)} {s next : Ani} {offset : Nat} {count : Int}

theorem checkOpenflow_eq {ofBuffer : Nat} {checked : Int}
    (called : checkOpenflow ofBuffer s = (next, checked)) :
    next = { s with pheader := .read ofBuffer } := by
  unfold checkOpenflow at called
  simp only at called
  split at called <;> (cases called; rfl)

/-- Outside of the benchmark mode, too, the handler is that for the type. -/
theorem normalHandler_eq {handler : Handler} (chosen : normalHandler s = (next, some handler)) :
    next = { s with pheader := .read s.readBufferp } ∧
      dispatch ((s.readBuffer.shift s.readBufferp) OfpHeader.type) = some handler := by
  unfold normalHandler at chosen
  split at chosen
  rename_i looked checked called
  obtain rfl := checkOpenflow_eq called
  split at chosen
  · obtain ⟨same, found⟩ := Prod.mk.inj chosen
    split at found
    · rename_i hello
      refine ⟨same.symm, ?_⟩
      cases found
      exact congrArg dispatch hello
    · cases found
  · obtain ⟨same, found⟩ := Prod.mk.inj chosen
    exact ⟨same.symm, found⟩

theorem Holds.same (holds : Holds messages s offset count) (same : next.readBuffer = s.readBuffer) :
    Holds messages next offset count := by
  unfold Holds
  rwa [same]

theorem Remains.same (remains : Remains messages s offset count)
    (same : next.readBuffer = s.readBuffer) : Remains messages next offset count :=
  fun more => (remains more).same same

theorem Caller.Remains.same {caller : Caller} (remains : caller.Remains messages s)
    (buffer : next.readBuffer = s.readBuffer) (position : next.readBufferp = s.readBufferp) :
    caller.Remains messages next := by
  cases caller with
  | single => trivial
  | loop counter size =>
      unfold Caller.Remains
      rw [position]
      exact Ani21.Remains.same remains buffer

/-- The message at the offset, and what remains behind it. -/
theorem Holds.head (holds : Holds messages s offset count)
    (framed : ∀ bytes ∈ messages, Framed bytes) (more : count > 0) :
    ∃ bytes ∈ messages, (s.readBuffer.shift offset).Starts bytes ∧
      (s.readBuffer.shift offset) OfpHeader.type = messageType bytes ∧
      (ntohs ((s.readBuffer.shift offset).load16 OfpHeader.length)).toNat = bytes.length ∧
      Holds messages s (offset + bytes.length) (count - bytes.length) := by
  obtain ⟨todo, told, starts, total⟩ := holds
  cases todo with
  | nil =>
      simp only [List.flatten_nil, List.length_nil] at total
      omega
  | cons bytes rest =>
      have member := told bytes List.mem_cons_self
      obtain ⟨whole, -, type, size, onward⟩ := head_read starts (framed bytes member)
      refine ⟨bytes, member, whole, type, size, rest, ?_, ?_, ?_⟩
      · exact fun other inside => told other (List.mem_cons_of_mem _ inside)
      · rwa [Memory.shift_shift] at onward
      · rw [List.flatten_cons, List.length_append] at total
        omega

theorem packetSize_eq (pheader : s.pheader = .read offset) :
    packetSize s = (ntohs ((s.readBuffer.shift offset).load16 OfpHeader.length)).toNat := by
  unfold packetSize Ani.view
  rw [pheader]

end Reading

section Steps

variable {messages : List (List UInt8)} {p q : Process} {event : Event}

/-- The message that a handler is called with, and what remains behind it. -/
theorem Calls.faces {s next : Ani} {place : MainPlace} {threads : List Thread} {caller : Caller}
    {handler : Handler} (calls : Calls s place next caller handler)
    (faces : Process.Faces messages ⟨s, place, threads⟩)
    (framed : ∀ bytes ∈ messages, Framed bytes) :
    caller.Remains messages next ∧ (handler = .packout →
      ∃ bytes ∈ messages, (next.readBuffer.shift next.readBufferp).Starts bytes ∧
        dispatch (messageType bytes) = some handler) := by
  cases calls with
  | single normal chosen =>
      obtain ⟨rfl, type⟩ := normalHandler_eq chosen
      refine ⟨trivial, fun packout => ?_⟩
      rcases faces with ⟨zero, -⟩ | ⟨more, holds⟩
      · -- a cleared buffer looks like a `HELLO`
        have hello : dispatch ((s.readBuffer.shift 0) OfpHeader.type) = some .hello := by
          rw [zero]
          rfl
        rw [packout] at type
        cases hello.symm.trans type
      · obtain ⟨bytes, member, starts, named, -⟩ := holds.head framed more
        exact ⟨bytes, member, starts, named ▸ type⟩
  | @loop _ counter handler more checked type =>
      obtain rfl := checkOpenflow_eq checked
      have holds : Holds messages s s.readBufferp counter := faces more
      obtain ⟨bytes, member, starts, named, size, rest⟩ := holds.head framed more
      have whole : packetSize { s with pheader := .read s.readBufferp } = bytes.length :=
        (packetSize_eq rfl).trans size
      refine ⟨?_, fun _ => ⟨bytes, member, starts, named ▸ type⟩⟩
      unfold Caller.Remains
      rw [whole]
      exact fun _ => rest.same rfl

theorem returned_faces {caller : Caller} {threads : List Thread} {outcome : Outcome}
    (remains : caller.Remains messages outcome.ani) :
    (Process.returned caller threads outcome).Faces messages := by
  unfold Process.returned
  cases caller with
  | single =>
      show Process.Faces messages ⟨_, if outcome.result = -1 then _ else _, threads⟩
      split <;> trivial
  | loop counter size =>
      show Process.Faces messages ⟨_, if outcome.result = -1 then _ else _, threads⟩
      split
      · trivial
      · exact Ani21.Remains.same remains rfl

/-- Whatever the main thread does but to receive the next chunk. -/
theorem Process.Step.faces (step : Process.Step p event q) (faces : p.Faces messages)
    (framed : ∀ bytes ∈ messages, Framed bytes) (silent : ∀ chunk, event ≠ .received chunk) :
    q.Faces messages ∧ ∀ call, event = .handled call → call.handler = .packout →
      ∃ bytes ∈ messages, Takes call bytes := by
  have still {other : Event} {process : Process} (faces : process.Faces messages)
      (noCall : other.call? = none) :
      process.Faces messages ∧ ∀ call, other = .handled call → call.handler = .packout →
        ∃ bytes ∈ messages, Takes call bytes := by
    refine ⟨faces, ?_⟩
    rintro call rfl
    cases noCall
  cases step with
  | received _ _ => exact absurd rfl (silent _)
  | lost few => exact still ⟨rfl, few⟩ rfl
  | closed => exact still faces rfl
  | freeHosts _ => exact still faces rfl
  | freePorts _ => exact still faces rfl
  | connected => exact still (.inl faces) rfl
  | refused => exact still trivial rfl
  | @scan s threads _ =>
      refine still (fun more => ?_) rfl
      rcases faces with ⟨-, few⟩ | ⟨-, holds⟩
      · have few : s.readBufferLen < 1 := few
        omega
      · exact holds.same rfl
  | ignored _ _ => exact still trivial rfl
  | scanned _ => exact still trivial rfl
  | unknown _ _ => exact still trivial rfl
  | @skipped s next threads counter more checked _ =>
      obtain rfl := checkOpenflow_eq checked
      have holds : Holds messages s s.readBufferp counter := faces more
      obtain ⟨bytes, member, -, -, size, rest⟩ := holds.head framed more
      have whole : packetSize { s with pheader := .read s.readBufferp } = bytes.length :=
        (packetSize_eq rfl).trans size
      refine still (fun _ => ?_) rfl
      show Holds messages _ (s.readBufferp + packetSize _) (counter - packetSize _)
      rw [whole]
      exact rest.same rfl
  | @answered s next place threads caller handler env outcome calls run =>
      obtain ⟨remains, takes⟩ := calls.faces faces framed
      have fixed := (handle_answers run).fixed
      refine ⟨returned_faces (remains.same (congrArg Fixed.readBuffer fixed)
        (congrArg Fixed.readBufferp fixed)), fun call isCall packout => ?_⟩
      cases isCall
      obtain ⟨bytes, member, starts, type⟩ := takes packout
      exact ⟨bytes, member, starts, type⟩
  | noPorts calls _ =>
      obtain ⟨remains, -⟩ := calls.faces faces framed
      refine ⟨returned_faces (remains.same rfl rfl), fun call isCall packout => ?_⟩
      cases isCall
      cases packout
  | @described s next place threads caller calls _ =>
      obtain ⟨remains, -⟩ := calls.faces faces framed
      have buffer : (storeDatapath next.readBufferp (countPorts next.readBufferp next)).readBuffer =
          next.readBuffer := by simp only [storeDatapath, countPorts]
      have position :
          (storeDatapath next.readBufferp (countPorts next.readBufferp next)).readBufferp =
            next.readBufferp := by simp only [storeDatapath, countPorts]
      exact still (remains.same buffer position) rfl
  | storedPorts => exact still (Caller.Remains.same faces rfl rfl) rfl
  | created => exact still faces rfl
  | notCreated => exact still faces rfl
  | configured _ run =>
      have fixed := (configureSwitch_answers Memory.zero run).fixed
      refine ⟨returned_faces (Caller.Remains.same faces (congrArg Fixed.readBuffer fixed)
        (congrArg Fixed.readBufferp fixed)), fun call isCall packout => ?_⟩
      cases isCall
      cases packout
  | thread _ _ => exact still faces rfl
  | shared _ _ => exact still faces rfl

/-- A chunk of whole messages is received. -/
theorem Process.Step.received_faces {chunk : List UInt8} {group : List (List UInt8)}
    (step : Process.Step p (.received chunk) q) (told : ∀ bytes ∈ group, bytes ∈ messages)
    (whole : chunk = group.flatten) : q.Faces messages := by
  cases step with
  | received filled _ =>
      subst whole
      have some : (group.flatten.length : Int) > 0 := by
        have := List.length_pos_iff.mpr filled
        omega
      refine .inr ⟨some, group, told, ?_, rfl⟩
      rw [Memory.shift_zero]
      exact Memory.starts_ofList _ _

/-- More messages change nothing. -/
theorem Process.Faces.more {others : List (List UInt8)} (faces : p.Faces messages)
    (more : ∀ bytes ∈ messages, bytes ∈ others) : p.Faces others := by
  have holds {offset : Nat} {count : Int} (here : Holds messages p.ani offset count) :
      Holds others p.ani offset count := by
    obtain ⟨todo, told, rest⟩ := here
    exact ⟨todo, fun bytes member => more bytes (told bytes member), rest⟩
  have returns {caller : Caller} (here : caller.Remains messages p.ani) :
      caller.Remains others p.ani := by
    cases caller with
    | single => trivial
    | loop counter size => exact fun positive => holds (here positive)
  obtain ⟨s, place, threads⟩ := p
  cases place with
  | sending => exact faces.imp id fun ⟨positive, here⟩ => ⟨positive, holds here⟩
  | scanning counter => exact fun positive => holds (faces positive)
  | storePorts caller => exact returns faces
  | createThread caller => exact returns faces
  | addPorts caller created => exact returns faces
  | _ => exact faces

end Steps

end DAIM.Ani21
