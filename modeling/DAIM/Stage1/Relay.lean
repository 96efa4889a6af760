import DAIM.Library.Memory
import DAIM.Library.Runs

/-!
# The relay of stage 1

`main` of `stage0.cpp` after `fork`: the child relays what it reads from the
controller to the switch, the parent what it reads from the switch to the
controller.  The two loops have the same body up to the handling of an error.
-/

namespace DAIM.Stage1

open DAIM.Library

/-- `sizeof (buffer)`. -/
def bufferSize : Nat := 10240

inductive Direction where
  | toSwitch
  | toController
  deriving DecidableEq

/-- The outcome of a `read`; no octets stand for the end of the file. -/
inductive ReadResult where
  | failed
  | octets (chunk : List UInt8)

/-- The outcomes of the system calls of one round of a loop. -/
structure Round where
  result : ReadResult
  written : Int

/-- A `write` fails, or accepts one octet at least and at most those offered. -/
def Round.Possible (round : Round) : Prop :=
  ∀ chunk, round.result = .octets chunk → chunk.length ≤ bufferSize ∧
    (chunk ≠ [] → round.written = -1 ∨ 1 ≤ round.written ∧ round.written ≤ chunk.length)

/-- The `write` of the round, if there is one, accepts all that it is offered. -/
def Round.Complete (round : Round) : Prop :=
  ∀ chunk, round.result = .octets chunk → chunk ≠ [] → round.written = chunk.length

/-- The variables of one loop, with the octets read from the one socket and
those accepted by the other one so far. -/
structure Relay where
  buffer : Memory
  bufferLen : Int
  writeLen : Int
  exited : Bool
  read : List UInt8
  accepted : List UInt8

def Relay.initial : Relay where
  buffer := Memory.zero
  bufferLen := 0
  writeLen := 0
  exited := false
  read := []
  accepted := []

/-- `write (fd, buffer, buffer_len)`. -/
def Relay.write (s : Relay) (written : Int) : Relay :=
  { s with
    writeLen := written
    accepted := s.accepted ++ (s.buffer.slice 0 s.bufferLen.toNat).take written.toNat }

/-- One round of a loop. -/
def Relay.relay (s : Relay) (round : Round) : Relay :=
  let s := { s with buffer := Memory.zero, bufferLen := 0 }
  match round.result with
  | .failed => { s with bufferLen := -1, exited := true }
  | .octets chunk =>
      let s := { s with
        buffer := Memory.ofList chunk s.buffer
        bufferLen := chunk.length
        read := s.read ++ chunk }
      if s.bufferLen > 0 then
        let s := s.write round.written
        if s.writeLen < 0 then { s with exited := true } else s
      else
        s

/-- The child and its parent. -/
structure Loops where
  child : Relay
  parent : Relay

namespace Loops

def initial : Loops := ⟨Relay.initial, Relay.initial⟩

def relay (s : Loops) : Direction → Relay
  | .toSwitch => s.child
  | .toController => s.parent

end Loops

/-- One round of the child or of the parent.  After an error the parent
terminates the child. -/
inductive Step : Loops → Direction × Round → Loops → Prop where
  | child {s : Loops} {round : Round} : s.child.exited = false → round.Possible →
      Step s (.toSwitch, round) { s with child := s.child.relay round }
  | parent {s : Loops} {round : Round} : s.parent.exited = false → round.Possible →
      (s.parent.relay round).exited = false →
      Step s (.toController, round) { s with parent := s.parent.relay round }
  | failed {s : Loops} {round : Round} : s.parent.exited = false → round.Possible →
      (s.parent.relay round).exited = true →
      Step s (.toController, round)
        { parent := s.parent.relay round, child := { s.child with exited := true } }

/-! ## What a round relays -/

/-- As long as every round was complete, what was read has been accepted; once
one was not, less of it has been. -/
structure Relay.Tells (s : Relay) (complete : Prop) : Prop where
  relayed : complete → s.accepted = s.read
  behind : s.accepted.length ≤ s.read.length
  lost : ¬ complete → s.accepted.length < s.read.length

theorem Relay.relay_octets (s : Relay) {round : Round} {chunk : List UInt8}
    (result : round.result = .octets chunk) :
    (s.relay round).read = s.read ++ chunk ∧
      (s.relay round).accepted = s.accepted ++ chunk.take round.written.toNat := by
  have whole : (Memory.ofList chunk Memory.zero).slice 0 (chunk.length : Int).toNat = chunk :=
    Memory.slice_ofList _ _
  unfold Relay.relay Relay.write
  simp only [result, whole]
  split
  · split <;> exact ⟨rfl, rfl⟩
  · rename_i none
    have empty : chunk = [] := List.eq_nil_of_length_eq_zero (by omega)
    subst empty
    simp

theorem Relay.relay_failed (s : Relay) {round : Round} (result : round.result = .failed) :
    (s.relay round).read = s.read ∧ (s.relay round).accepted = s.accepted := by
  simp [Relay.relay, result]

/-- One more round, complete or not. -/
theorem Relay.Tells.round {s : Relay} {complete : Prop} (tells : s.Tells complete)
    {round : Round} (possible : round.Possible) :
    (s.relay round).Tells (complete ∧ round.Complete) := by
  cases result : round.result with
  | failed =>
      obtain ⟨read, accepted⟩ := s.relay_failed result
      have done : round.Complete := by simp [Round.Complete, result]
      constructor
      · rintro ⟨before, -⟩
        rw [read, accepted, tells.relayed before]
      · rw [read, accepted]
        exact tells.behind
      · intro short
        rw [read, accepted]
        exact tells.lost fun before => short ⟨before, done⟩
  | octets chunk =>
      obtain ⟨read, accepted⟩ := s.relay_octets result
      obtain ⟨-, bounds⟩ := possible chunk result
      have part : (chunk.take round.written.toNat).length ≤ chunk.length := List.length_take_le' _ _
      have behind := tells.behind
      constructor
      · rintro ⟨before, done⟩
        rw [read, accepted, tells.relayed before]
        by_cases empty : chunk = []
        · simp [empty]
        · rw [done chunk result empty]
          simp
      · rw [read, accepted, List.length_append, List.length_append]
        omega
      · intro short
        rw [read, accepted, List.length_append, List.length_append]
        by_cases before : complete
        · have cut : ¬ round.Complete := fun done => short ⟨before, done⟩
          obtain ⟨other, named, some, fewer⟩ : ∃ other, round.result = .octets other ∧ other ≠ [] ∧
              round.written ≠ other.length := by
            simpa [Round.Complete] using cut
          cases named.symm.trans result
          have offered := List.length_pos_iff.mpr some
          rw [List.length_take]
          rcases bounds some with error | accepts <;> omega
        · have fewer := tells.lost before
          omega

/-- Only the loop of the direction goes a round. -/
theorem Step.relay {s next : Loops} {label : Direction × Round} (step : Step s label next)
    (direction : Direction) :
    (label.1 = direction → label.2.Possible ∧
      (next.relay direction).read = ((s.relay direction).relay label.2).read ∧
      (next.relay direction).accepted = ((s.relay direction).relay label.2).accepted) ∧
    (label.1 ≠ direction →
      (next.relay direction).read = (s.relay direction).read ∧
      (next.relay direction).accepted = (s.relay direction).accepted) := by
  cases step with
  | child _ possible =>
      cases direction with
      | toSwitch => exact ⟨fun _ => ⟨possible, rfl, rfl⟩, fun other => absurd rfl other⟩
      | toController => exact ⟨fun same => (nomatch same), fun _ => ⟨rfl, rfl⟩⟩
  | parent _ possible _ =>
      cases direction with
      | toSwitch => exact ⟨fun same => (nomatch same), fun _ => ⟨rfl, rfl⟩⟩
      | toController => exact ⟨fun _ => ⟨possible, rfl, rfl⟩, fun other => absurd rfl other⟩
  | failed _ possible _ =>
      cases direction with
      | toSwitch => exact ⟨fun same => (nomatch same), fun _ => ⟨rfl, rfl⟩⟩
      | toController => exact ⟨fun _ => ⟨possible, rfl, rfl⟩, fun other => absurd rfl other⟩

/-- Every `write` of the direction has accepted all that it was offered. -/
def Whole (direction : Direction) (labels : List (Direction × Round)) : Prop :=
  ∀ round, (direction, round) ∈ labels → round.Complete

theorem tells_run {labels : List (Direction × Round)} {s : Loops}
    (run : Run Step Loops.initial labels s) (direction : Direction) :
    (s.relay direction).Tells (Whole direction labels) := by
  induction run with
  | refl =>
      cases direction <;>
        exact ⟨fun _ => rfl, Nat.le_refl _, fun short => absurd (by simp [Whole]) short⟩
  | @snoc earlier middle finish label _ step inductionHypothesis =>
      obtain ⟨same, other⟩ := step.relay direction
      obtain ⟨way, round⟩ := label
      by_cases here : way = direction
      · subst here
        obtain ⟨possible, read, accepted⟩ := same rfl
        have both : Whole way (earlier ++ [(way, round)]) ↔ Whole way earlier ∧ round.Complete := by
          simp [Whole, or_imp, forall_and]
        have tells := inductionHypothesis.round possible
        refine ⟨?_, ?_, ?_⟩
        all_goals rw [read, accepted]
        · exact fun whole => tells.relayed (both.mp whole)
        · exact tells.behind
        · exact fun short => tells.lost fun whole => short (both.mpr whole)
      · obtain ⟨read, accepted⟩ := other here
        have unchanged : Whole direction (earlier ++ [(way, round)]) ↔ Whole direction earlier := by
          simp [Whole, Ne.symm here]
        refine ⟨?_, ?_, ?_⟩
        all_goals rw [read, accepted]
        · exact fun whole => inductionHypothesis.relayed (unchanged.mp whole)
        · exact inductionHypothesis.behind
        · exact fun short => inductionHypothesis.lost fun whole => short (unchanged.mpr whole)

/-- In either direction, what has been accepted is what has been read exactly as
long as no `write` was short. -/
theorem relayed_iff {labels : List (Direction × Round)} {s : Loops}
    (run : Run Step Loops.initial labels s) (direction : Direction) :
    (s.relay direction).accepted = (s.relay direction).read ↔ Whole direction labels := by
  have tells := tells_run run direction
  refine ⟨fun relayed => ?_, tells.relayed⟩
  by_contra short
  have fewer := tells.lost short
  rw [relayed] at fewer
  exact Nat.lt_irrefl _ fewer

/-- A round in which two octets are read and the number of them that is given is
accepted. -/
def twoOctets (written : Int) : Round := ⟨.octets [1, 2], written⟩

theorem twoOctets_step {written : Int} (least : 1 ≤ written) (most : written ≤ 2) :
    Step Loops.initial (.toSwitch, twoOctets written)
      { Loops.initial with child := Relay.initial.relay (twoOctets written) } := by
  refine .child rfl ?_
  intro chunk result
  cases result
  exact ⟨by decide, fun _ => .inr ⟨least, most⟩⟩

/-- The second octet is never written. -/
theorem short_write_loses :
    ¬ ∀ labels s, Run Step Loops.initial labels s →
      (∀ direction round, (direction, round) ∈ labels → ∀ chunk, round.result = .octets chunk →
        chunk ≠ [] → 1 ≤ round.written) →
      ∀ direction, (s.relay direction).accepted = (s.relay direction).read := by
  intro always
  have run := Run.single (twoOctets_step (show 1 ≤ (1 : Int) by decide) (by decide))
  have accepts : ∀ direction round, (direction, round) ∈ [(Direction.toSwitch, twoOctets 1)] →
      ∀ chunk, round.result = .octets chunk → chunk ≠ [] → 1 ≤ round.written := by
    intro direction round member chunk _ _
    cases List.mem_singleton.mp member
    decide
  exact absurd (always _ _ run accepts .toSwitch) (by decide)

theorem relayed_iff_whole :
    ∃ s, Run Step Loops.initial [(.toSwitch, twoOctets 2)] s ∧
      ((s.relay .toSwitch).accepted = (s.relay .toSwitch).read ↔
        Whole .toSwitch [(.toSwitch, twoOctets 2)]) := by
  have run := Run.single (twoOctets_step (show 1 ≤ (2 : Int) by decide) (by decide))
  exact ⟨_, run, relayed_iff run .toSwitch⟩

end DAIM.Stage1
