import DAIM.Ani41.FeaturesReply
import DAIM.Ani41.Scan

/-!
# Whether the loop of the benchmark mode ends

Each round goes on by the length that the message in front of it states.  A
message that states the length 0 is therefore handled again and again, unless
it ends the loop in another way.
-/

namespace DAIM.Ani41

open DAIM.Library DAIM.OpenFlow DAIM.Linked DAIM.Com

/-! ## Calls that succeed -/

/-- A state in which no handler waits and no write has failed. -/
structure Ani.Ready (s : Ani) : Prop where
  whole : s.Whole
  written : 0 ≤ s.writeBufferLen

theorem Ani.Ready.congr {s next : Ani} (ready : s.Ready)
    (free : next.linksMutex = s.linksMutex) (hosts : next.hosts = s.hosts)
    (ports : next.ports = s.ports) (links : next.links = s.links)
    (swReplys : next.swReplys = s.swReplys) (written : next.writeBufferLen = s.writeBufferLen) :
    next.Ready :=
  ⟨ready.whole.congr free hosts ports links swReplys, written ▸ ready.written⟩

section Written

variable {env : Env} {message : Memory} {packet : PacketIn} {s next : Ani} {sending : Sending}

/-- The last write was that of `before`, or one of the call. -/
def Ani.Written (env : Env) (before after : Ani) : Prop :=
  after.writeBufferLen = before.writeBufferLen ∨
    ∃ index, after.writeBufferLen = env.sendResult index

theorem stable_written (env : Env) (before : Ani) : Stable env (Ani.Written env before) where
  learnt := fun _ _ _ kept => kept
  looked := fun _ _ kept => kept
  sent := fun _ _ _ => .inr ⟨0, rfl⟩

theorem packoutBranch_written (run : packoutBranch env message packet s = some sending) :
    Ani.Written env s sending.1 :=
  (stable_written env s).packoutBranch (.inl rfl)
    (fun _ discovery => .inl (packoutLldp_length discovery)) run

end Written

/-- A call that returned and did not fail. -/
structure Fine (run : Option Outcome) (outcome : Outcome) : Prop where
  run : run = some outcome
  result : outcome.result ≠ -1
  ready : outcome.ani.Ready

theorem actionPackout_calm {s : Ani} (ready : s.Ready) (ofBuffer : Nat) :
    ∃ outcome, Fine (actionPackout .calm ofBuffer s) outcome := by
  obtain ⟨outcome, run, whole⟩ := actionPackout_whole ready.whole calm_allocating ofBuffer
  have call := run
  unfold actionPackout at call
  simp only at call
  split at call
  · cases call
  · rename_i ended sent branch
    have written : 0 ≤ ended.writeBufferLen := by
      rcases packoutBranch_written branch with same | ⟨index, sent⟩
      · exact same ▸ ready.written
      · rw [sent]
        show (0 : Int) ≤ 1
        decide
    rw [if_neg (by omega)] at call
    cases call
    exact ⟨_, run, by show (0 : Int) ≠ -1; decide, whole, written⟩

theorem actionFeaturesReply_calm {s : Ani} (ready : s.Ready) {ofBuffer : Nat}
    (ports : featuresCount (s.readBuffer.shift ofBuffer) ≠ 0) :
    ∃ outcome, Fine (actionFeaturesReply .calm ofBuffer s) outcome := by
  obtain ⟨outcome, run, whole⟩ := actionFeaturesReply_whole ready.whole calm_allocating ofBuffer
  have some : portCount (ntohs ((s.readBuffer.shift ofBuffer).load16 OfpHeader.length)) ≠ 0 :=
    ports
  have call := run
  unfold actionFeaturesReply at call
  simp only at call
  rw [if_neg (not_not.mpr ready.whole.free), if_neg some] at call
  split at call
  · cases call
  · split at call
    · cases call
    · cases call
      exact ⟨_, run, by show (0 : Int) ≠ -1; decide, whole some, by show (0 : Int) ≤ 1; decide⟩

theorem actionFeaturesReply_fails {env : Env} {s : Ani} {ofBuffer : Nat} {outcome : Outcome}
    (none : featuresCount (s.readBuffer.shift ofBuffer) = 0)
    (run : actionFeaturesReply env ofBuffer s = some outcome) : outcome.result = -1 := by
  have noPorts : portCount (ntohs ((s.readBuffer.shift ofBuffer).load16 OfpHeader.length)) = 0 :=
    none
  unfold actionFeaturesReply at run
  simp only [noPorts, if_true] at run
  split at run
  · cases run
  · cases run
    rfl

/-- Every handler succeeds when its system calls do, unless it is given a
features reply without ports. -/
theorem handle_calm {s : Ani} (ready : s.Ready) {handler : Handler} {ofBuffer : Nat}
    (ports : handler = .featuresReply → featuresCount (s.readBuffer.shift ofBuffer) ≠ 0) :
    ∃ outcome, Fine (handle handler .calm ofBuffer s) outcome := by
  cases handler with
  | hello =>
      exact ⟨_, rfl, by show (0 : Int) ≠ -1; decide, ready.whole.congr rfl rfl rfl rfl rfl,
        by show (0 : Int) ≤ 1; decide⟩
  | echo =>
      exact ⟨_, rfl, by show (0 : Int) ≠ -1; decide, ready.whole.congr rfl rfl rfl rfl rfl,
        by show (0 : Int) ≤ 1; decide⟩
  | packout => exact actionPackout_calm ready ofBuffer
  | featuresReply => exact actionFeaturesReply_calm ready (ports rfl)

/-! ## Rounds -/

def statedLength (memory : Memory) : Nat := (ntohs (memory.load16 OfpHeader.length)).toNat

/-- A round of the loop after which the loop goes on. -/
inductive Process.Round : Process → Process → Prop where
  | skipped {s next : Ani} {threads : List Thread} {counter : Int} : counter > 0 →
      checkOpenflow s.readBufferp s = (next, 0) →
      dispatch (next.view next.pheader OfpHeader.type) = none →
      Round ⟨s, .scanning counter, threads⟩
        ⟨{ next with readBufferp := next.readBufferp + statedLength (next.view next.pheader) },
          .scanning (counter - statedLength (next.view next.pheader)), threads⟩
  | answered {s next : Ani} {threads : List Thread} {counter : Int} {handler : Handler}
      {env : Env} {outcome : Outcome} : counter > 0 →
      checkOpenflow s.readBufferp s = (next, 0) →
      dispatch (next.view next.pheader OfpHeader.type) = some handler →
      handle handler env next.readBufferp next = some outcome → outcome.result ≠ -1 →
      Round ⟨s, .scanning counter, threads⟩
        ⟨{ outcome.ani with
            readBufferp := outcome.ani.readBufferp + statedLength (next.view next.pheader) },
          .scanning (counter - statedLength (next.view next.pheader)),
          spawn threads outcome.spawned⟩

/-- A step of a discovery thread. -/
inductive Process.Shares : Process → Process → Prop where
  | share {s next : Ani} {place : MainPlace} {threads : List Thread} {index : Nat}
      {thread after : Thread} {sent : Option (List UInt8)} : threads[index]? = some thread →
      ShareStep index s thread sent next after →
      Shares ⟨s, place, threads⟩ ⟨next, place, threads.set index after⟩

theorem Process.Round.step {p q : Process} (round : p.Round q) :
    ∃ event, Process.Step p event q ∧ event.chunk? = none ∧ event ≠ .lost := by
  cases round with
  | skipped more check type =>
      exact ⟨_, .skipped more check type, rfl, fun impossible => nomatch impossible⟩
  | @answered _ next threads counter _ _ outcome more check type run fine =>
      have goesOn : afterCall outcome.result
          (.scanning (counter - statedLength (next.view next.pheader))) =
            .scanning (counter - statedLength (next.view next.pheader)) := if_neg fine
      rw [← goesOn]
      exact ⟨_, .scanAnswered more check type run, rfl, fun impossible => nomatch impossible⟩

/-- While the loop runs, every step is a round or a step of a discovery thread. -/
theorem Process.Step.round_or_shares {p q : Process} {event : Event} {counter left : Int}
    (step : Process.Step p event q) (before : p.place = .scanning counter)
    (after : q.place = .scanning left) : p.Round q ∨ p.Shares q := by
  cases step with
  | skipped more check type => exact .inl (.skipped more check type)
  | scanAnswered more check type run =>
      simp only [afterCall] at after ⊢
      split at after
      · cases after
      · rename_i fine
        rw [if_neg fine]
        exact .inl (.answered more check type run fine)
  | thread found share => exact .inr (.share found share)
  | shared found share => exact .inr (.share found share)
  | scan _ => cases before
  | answered _ _ _ => cases before
  | _ => cases after

/-- The loop goes past the message when no system call fails. -/
def Passable (memory : Memory) : Prop :=
  memory OfpHeader.version = ofpVersion ∧
    ¬ (memory OfpHeader.type = ofptFeaturesReply ∧ NoPorts memory)

/-- A round only starts at a message that the loop can pass, and goes on by its
length. -/
structure Process.Advances (p q : Process) (counter : Int) (message : Memory) : Prop where
  more : counter > 0
  passable : Passable message
  place : q.place = .scanning (counter - statedLength message)
  buffer : q.ani.readBuffer = p.ani.readBuffer
  position : q.ani.readBufferp = p.ani.readBufferp + statedLength message

theorem Process.Round.advances {p q : Process} {counter : Int} (round : p.Round q)
    (place : p.place = .scanning counter) :
    p.Advances q counter (p.ani.readBuffer.shift p.ani.readBufferp) := by
  cases round with
  | skipped more check type =>
      cases place
      obtain ⟨rfl, known⟩ := checkOpenflow_eq check
      refine ⟨more, ⟨known.mp rfl, ?_⟩, rfl, rfl, rfl⟩
      rintro ⟨features, -⟩
      have handled : dispatch _ = some Handler.featuresReply :=
        dispatch_eq_some_iff.mpr features
      exact absurd (type.symm.trans handled) (by decide)
  | @answered s next threads _ handler env outcome more check type run fine =>
      cases place
      obtain ⟨rfl, known⟩ := checkOpenflow_eq check
      have kept := handle_reads run
      have buffer : outcome.ani.readBuffer = s.readBuffer := congrArg Reads.readBuffer kept
      have position : outcome.ani.readBufferp = s.readBufferp :=
        congrArg Reads.readBufferp kept
      refine ⟨more, ⟨known.mp rfl, ?_⟩, rfl, buffer, ?_⟩
      · rintro ⟨features, noPorts⟩
        have handled : dispatch _ = some Handler.featuresReply :=
          dispatch_eq_some_iff.mpr features
        cases type.symm.trans handled
        refine fine (actionFeaturesReply_fails ?_ run)
        exact featuresCount_eq_zero_iff.mpr noPorts
      · show _ + _ = _ + _
        rw [position]
        rfl

/-! ## Endless loops -/

theorem Process.Shares.keeps {p q : Process} (shares : p.Shares q) :
    q.place = p.place ∧ q.ani.readBuffer = p.ani.readBuffer ∧
      q.ani.readBufferp = p.ani.readBufferp := by
  cases shares with
  | share _ share =>
      rw [share.frame]
      exact ⟨rfl, rfl, rfl⟩

/-- One round with what the discovery threads do before it. -/
inductive Process.Turn : Process → Process → Prop where
  | round {p q : Process} : p.Round q → Turn p q
  | shares {p middle q : Process} : p.Shares middle → Turn middle q → Turn p q

theorem Process.Turn.advances {p q : Process} {counter : Int} (turn : p.Turn q)
    (place : p.place = .scanning counter) :
    p.Advances q counter (p.ani.readBuffer.shift p.ani.readBufferp) := by
  induction turn with
  | round round => exact round.advances place
  | shares shares _ inductionHypothesis =>
      obtain ⟨kept, buffer, position⟩ := shares.keeps
      have rest := inductionHypothesis (kept.trans place)
      rw [buffer, position] at rest
      exact ⟨rest.more, rest.passable, rest.place, rest.buffer.trans buffer,
        rest.position.trans (by rw [position])⟩

/-- The loop ends after finitely many rounds, whatever the rounds do. -/
def Process.LoopEnds (p : Process) : Prop := Acc (fun next before => Process.Turn before next) p

/-- Going on by the stated lengths, the loop meets a message that states the
length 0 while it has octets left. -/
inductive Stalls (memory : Memory) : Nat → Int → Prop where
  | here {start : Nat} {counter : Int} : counter > 0 → Passable (memory.shift start) →
      statedLength (memory.shift start) = 0 → Stalls memory start counter
  | later {start : Nat} {counter : Int} : counter > 0 → Passable (memory.shift start) →
      Stalls memory (start + statedLength (memory.shift start))
        (counter - statedLength (memory.shift start)) →
      Stalls memory start counter

theorem loopEnds_of_not_stalls {p : Process} {counter : Int} (place : p.place = .scanning counter)
    (sound : ¬ Stalls p.ani.readBuffer p.ani.readBufferp counter) : p.LoopEnds := by
  induction size : counter.toNat using Nat.strong_induction_on generalizing p counter with
  | _ size inductionHypothesis =>
      constructor
      intro q turn
      have moved := turn.advances place
      have more := moved.more
      have forward : statedLength (p.ani.readBuffer.shift p.ani.readBufferp) ≠ 0 := fun zero =>
        sound (.here more moved.passable zero)
      refine inductionHypothesis _ (by omega) moved.place ?_ rfl
      rw [moved.buffer, moved.position]
      exact fun later => sound (.later more moved.passable later)

/-- With system calls that succeed, the loop goes past a message that it can pass. -/
theorem round_of_passable {p : Process} {counter : Int} (ready : p.ani.Ready)
    (place : p.place = .scanning counter) (more : counter > 0)
    (passable : Passable (p.ani.readBuffer.shift p.ani.readBufferp)) :
    ∃ q, p.Round q ∧ q.ani.Ready := by
  obtain ⟨s, place', threads⟩ := p
  cases place
  have check := checkOpenflow_known passable.1
  cases type : dispatch ((s.readBuffer.shift s.readBufferp) OfpHeader.type) with
  | none => exact ⟨_, .skipped more check type, ready.congr rfl rfl rfl rfl rfl rfl⟩
  | some handler =>
      have started : Ani.Ready { s with pheader := .read s.readBufferp } :=
        ready.congr rfl rfl rfl rfl rfl rfl
      have ports : handler = .featuresReply →
          featuresCount (s.readBuffer.shift s.readBufferp) ≠ 0 := by
        rintro rfl none
        exact passable.2 ⟨dispatch_eq_some_iff.mp type, featuresCount_eq_zero_iff.mp none⟩
      obtain ⟨outcome, run, fine, kept⟩ := handle_calm started ports
      exact ⟨_, .answered more check type run fine, kept.congr rfl rfl rfl rfl rfl rfl⟩

theorem not_loopEnds_of_here {memory : Memory} {start : Nat} {counter : Int} (more : counter > 0)
    (passable : Passable (memory.shift start)) (zero : statedLength (memory.shift start) = 0)
    {p : Process} (ends : p.LoopEnds) : p.ani.Ready → p.place = .scanning counter →
      p.ani.readBuffer = memory → p.ani.readBufferp ≠ start := by
  induction ends with
  | intro p _ inductionHypothesis =>
      rintro ready place rfl rfl
      obtain ⟨q, round, still⟩ := round_of_passable ready place more passable
      have moved := round.advances place
      have back := moved.place
      have position := moved.position
      rw [zero] at back position
      exact inductionHypothesis q (.round round) still (by simpa using back) moved.buffer
        (by simpa using position)

theorem not_loopEnds_of_stalls {memory : Memory} {start : Nat} {counter : Int}
    (stalls : Stalls memory start counter) {p : Process} (ready : p.ani.Ready)
    (place : p.place = .scanning counter) (buffer : p.ani.readBuffer = memory)
    (position : p.ani.readBufferp = start) : ¬ p.LoopEnds := by
  induction stalls generalizing p with
  | here more passable zero =>
      exact fun ends => not_loopEnds_of_here more passable zero ends ready place buffer position
  | later more passable _ inductionHypothesis =>
      subst buffer position
      intro ends
      obtain ⟨q, round, still⟩ := round_of_passable ready place more passable
      have moved := round.advances place
      exact inductionHypothesis still moved.place moved.buffer moved.position
        (ends.inv (.round round))

/-- The loop ends on every buffer of this content and length. -/
def EndsOn (memory : Memory) (length : Int) : Prop :=
  ∀ p : Process, p.ani.cbench = true → p.place = .scanning length →
    p.ani.readBuffer = memory → p.ani.readBufferp = 0 → p.LoopEnds

/-- The loop ends if and only if the lengths that it goes on by never lead it
to a message that states the length 0. -/
theorem loop_ends_iff (memory : Memory) (length : Int) :
    EndsOn memory length ↔ ¬ Stalls memory 0 length := by
  constructor
  · intro ends stalls
    let p : Process := ⟨{ Ani.initial true with readBuffer := memory }, .scanning length, []⟩
    have ready : p.ani.Ready := by
      refine ⟨(Ani.initial_whole true).congr rfl rfl rfl rfl rfl, ?_⟩
      show (0 : Int) ≤ 0
      omega
    exact not_loopEnds_of_stalls stalls ready rfl rfl rfl (ends p rfl rfl rfl rfl)
  · rintro sound p - place rfl position
    apply loopEnds_of_not_stalls place
    rwa [position]

/-- An echo request that states the length 0 is answered for ever. -/
theorem zero_length_loops :
    ¬ ∀ events p counter, Process.Reaches true events p → p.place = .scanning counter →
      p.LoopEnds := by
  intro always
  let request : List UInt8 := [ofpVersion, ofptEchoRequest, 0, 0, 0, 0, 0, 1]
  have reached : Process.Reaches true [.received request, .internal] _ :=
    .cons (.received (by decide) (by decide)) (.single (.scan rfl))
  have stalls : Stalls (Memory.ofList request Memory.zero) 0 8 :=
    .here (by decide) ⟨rfl, fun features => absurd features.1 (by decide)⟩ (by decide)
  refine not_loopEnds_of_stalls stalls ⟨?_, ?_⟩ rfl rfl rfl (always _ _ _ reached rfl)
  · exact (Ani.initial_whole true).congr rfl rfl rfl rfl rfl
  · show (0 : Int) ≤ 0
    omega

end DAIM.Ani41
