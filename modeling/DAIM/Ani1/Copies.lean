import DAIM.Ani1.Calls

/-!
# The messages that are sent back

`action_hello` and `action_echo` copy as many octets as the message states into
`write_buffer`, whatever its size and however much was received.  The offsets
that the loop comes to, and with them the messages that are copied, depend on
the received octets only.
-/

namespace DAIM.Ani1

open DAIM.Library DAIM.OpenFlow DAIM.Linked
open DAIM.Ani41 (Handler dispatch readBufferSize)

/-- The message at an offset of a chunk. -/
def messageAt (chunk : List UInt8) (offset : Nat) : Memory :=
  (Memory.ofList chunk Memory.zero).shift offset

/-- The loop dispatches the message at an offset, if it comes there. -/
structure Looks (chunk : List UInt8) (offset : Nat) : Prop where
  inside : offset < chunk.length
  version : messageAt chunk offset OfpHeader.version = ofpVersion

/-- The offsets that the loop can come to, each with whether the last `send`
has failed for certain then. -/
inductive Comes (chunk : List UInt8) : Bool → Nat → Prop where
  | start : Comes chunk false 0
  | next {failed still : Bool} {offset : Nat} : Comes chunk failed offset → Looks chunk offset →
      behind offset (messageAt chunk offset) failed = some still →
      Comes chunk still (offset + statedLength (messageAt chunk offset))

/-- A `HELLO` or an `ECHO_REQUEST` that the loop can come to ends in the chunk
and is not longer than `write_buffer`. -/
def CopiesFit (chunk : List UInt8) : Prop :=
  ∀ failed offset handler, Comes chunk failed offset → Looks chunk offset →
    dispatch (messageAt chunk offset OfpHeader.type) = some handler → Copying handler →
    statedLength (messageAt chunk offset) ≤ writeBufferSize ∧
      offset + statedLength (messageAt chunk offset) ≤ chunk.length

/-- What a call copies and sends fits in `write_buffer`, and was received. -/
structure Call.Within (call : Call) : Prop where
  copied : call.copied ≤ writeBufferSize ∧ call.copied ≤ call.left
  sent : ∀ bytes ∈ call.sent, bytes.length ≤ writeBufferSize ∧ bytes.length ≤ call.left

/-- The octets received last. -/
structure Globals.Holds (s : Globals) (chunk : List UInt8) : Prop where
  readBuffer : s.readBuffer = Memory.ofList chunk Memory.zero
  readBufferLen : s.readBufferLen = chunk.length

theorem Globals.Keeps.holds {s next : Globals} {chunk : List UInt8} (keeps : s.Keeps next)
    (holds : s.Holds chunk) : next.Holds chunk :=
  ⟨keeps.readBuffer.trans holds.readBuffer, keeps.readBufferLen.trans holds.readBufferLen⟩

theorem Globals.Holds.message {s : Globals} {chunk : List UInt8} (holds : s.Holds chunk) :
    s.readBuffer.shift s.readBufferp = messageAt chunk s.readBufferp := by
  rw [messageAt, holds.readBuffer]

theorem checkOpenflow_eq_zero {message : Memory} (check : checkOpenflow message = 0) :
    message OfpHeader.version = ofpVersion := by
  unfold checkOpenflow at check
  split at check
  · assumption
  · cases check

theorem Globals.Holds.looks {s : Globals} {chunk : List UInt8} {counter : Int}
    (holds : s.Holds chunk) (counts : counter = chunk.length - s.readBufferp)
    (more : counter > 0) (check : checkOpenflow s.message = 0) : Looks chunk s.readBufferp where
  inside := by omega
  version := holds.message ▸ checkOpenflow_eq_zero check

/-- Where the loop is in the chunk, until the next `recv`. -/
def Process.Follows (p : Process) (chunk : List UInt8) : Prop :=
  match p.place with
  | .sending => p.globals.Holds chunk
  | .scanning counter =>
      p.globals.Holds chunk ∧ counter = chunk.length - p.globals.readBufferp ∧
        ∃ failed, Comes chunk failed p.globals.readBufferp ∧
          (failed = true → p.globals.writeBufferLen < 0)
  | _ => True

theorem Globals.advance_follows {s next : Globals} {chunk : List UInt8} {failed still : Bool}
    {counter : Int} (holds : s.Holds chunk) (counts : counter = chunk.length - s.readBufferp)
    (comes : Comes chunk failed s.readBufferp) (looks : Looks chunk s.readBufferp)
    (keeps : s.Keeps next)
    (goes : behind s.readBufferp (messageAt chunk s.readBufferp) failed = some still)
    (negative : still = true → next.writeBufferLen < 0) :
    Process.Follows ⟨next.advance (statedLength s.message),
      .scanning (counter - statedLength s.message)⟩ chunk := by
  have message : s.message = messageAt chunk s.readBufferp := holds.message
  have moved : (next.advance (statedLength s.message)).readBufferp =
      s.readBufferp + statedLength s.message := by
    rw [← keeps.readBufferp]
    rfl
  refine ⟨?_, ?_, still, ?_, negative⟩
  · exact ⟨(keeps.holds holds).readBuffer, (keeps.holds holds).readBufferLen⟩
  · show counter - statedLength s.message =
      chunk.length - ((next.advance (statedLength s.message)).readBufferp : Int)
    rw [moved, counts]
    omega
  · show Comes chunk still (next.advance (statedLength s.message)).readBufferp
    rw [moved, message]
    exact .next comes looks goes

theorem Process.Step.follows {p q : Process} {event : Event} {chunk : List UInt8}
    (step : Process.Step p event q) (follows : p.Follows chunk) (quiet : ¬ event.Reads) :
    q.Follows chunk := by
  cases step with
  | received => exact absurd trivial quiet
  | closed => exact absurd trivial quiet
  | failed => exact absurd trivial quiet
  | scan =>
      refine ⟨⟨follows.readBuffer, follows.readBufferLen⟩, ?_, false, .start,
        fun never => by cases never⟩
      show _ = (chunk.length : Int) - (0 : Nat)
      rw [follows.readBufferLen]
      omega
  | scanned => trivial
  | unknown => trivial
  | @skipped s counter more check unhandled =>
      obtain ⟨holds, counts, failed, comes, negative⟩ := follows
      refine Globals.advance_follows holds counts comes (holds.looks counts more check)
        ⟨rfl, rfl, rfl⟩ ?_ negative
      have same : dispatch (s.readBuffer.shift s.readBufferp OfpHeader.type) = none := unhandled
      rw [← holds.message]
      unfold behind
      rw [same]
  | @handled s next counter result handler env called more check chosen run taken returned =>
      obtain ⟨holds, counts, failed, comes, negative⟩ := follows
      subst run
      obtain ⟨keeps, goes⟩ := handle_behind chosen taken returned negative
      unfold afterCall
      split
      · trivial
      · rename_i goesOn
        obtain ⟨still, behind, sent⟩ := goes goesOn
        rw [holds.message] at behind
        exact Globals.advance_follows holds counts comes (holds.looks counts more check) keeps
          behind sent
  | overran => trivial

/-- What a step of the loop hands to the two copying handlers. -/
theorem Process.Step.copies {p q : Process} {call : Call} {chunk : List UInt8}
    (step : Process.Step p (.handled call) q) (follows : p.Follows chunk)
    (copying : Copying call.handler) :
    ∃ failed offset, Comes chunk failed offset ∧ Looks chunk offset ∧
      dispatch (messageAt chunk offset OfpHeader.type) = some call.handler ∧
      call.copied = statedLength (messageAt chunk offset) ∧
      (∀ bytes ∈ call.sent, bytes.length ≤ call.copied) ∧
      call.left = chunk.length - offset := by
  have called {s : Globals} {counter : Int} {handler : Handler} {env : Env} {called : Called}
      (follows : Process.Follows ⟨s, .scanning counter⟩ chunk) (more : counter > 0)
      (check : checkOpenflow s.message = 0)
      (chosen : dispatch (s.message OfpHeader.type) = some handler)
      (run : handle handler env s.readBufferp s = called) (taken : TakenOf env called.sent)
      (copying : Copying handler) :
      ∃ failed offset, Comes chunk failed offset ∧ Looks chunk offset ∧
        dispatch (messageAt chunk offset OfpHeader.type) = some handler ∧
        called.copied = statedLength (messageAt chunk offset) ∧
        (∀ bytes ∈ called.sent, bytes.length ≤ called.copied) ∧
        s.readBufferLen - s.readBufferp = (chunk.length : Int) - offset := by
    obtain ⟨holds, counts, failed, comes, -⟩ := follows
    subst run
    have copies := handle_copies copying taken
    refine ⟨failed, s.readBufferp, comes, holds.looks counts more check, holds.message ▸ chosen,
      holds.message ▸ copies.copied, ?_, by rw [holds.readBufferLen]⟩
    rw [copies.copied]
    exact copies.sent
  cases step with
  | handled more check chosen run taken _ =>
      exact called follows more check chosen run taken copying
  | overran more check chosen run taken _ =>
      exact called follows more check chosen run taken copying

/-- Every message of a chunk that `send_information` dispatches to `action_hello`
or `action_echo`, whatever happened before it was received. -/
def CopiesWithin (chunk : List UInt8) : Prop :=
  ∀ before p, Process.Reaches before p → p.place = .reading → ∀ after q,
    Run Process.Step p (.received chunk :: after) q → (∀ event ∈ after, ¬ event.Reads) →
    ∀ call, .handled call ∈ after → Copying call.handler → call.Within

theorem copiesWithin_of_fit {chunk : List UInt8} (fit : CopiesFit chunk) : CopiesWithin chunk := by
  intro before p _ reading after q run quiet call member copying
  obtain ⟨s, place⟩ := p
  subst reading
  obtain ⟨start, received, rest⟩ := run.cons_inv
  have started : start.Follows chunk := by
    cases received with
    | received => exact ⟨rfl, rfl⟩
  have kept := rest.invariant
    (fun labels p => (∀ event ∈ labels, ¬ event.Reads) →
      p.Follows chunk ∧ ∀ call, .handled call ∈ labels → Copying call.handler → call.Within)
    (fun _ => ⟨started, fun _ none => absurd none List.not_mem_nil⟩) ?_
  · exact (kept quiet).2 call member copying
  · intro labels state label next _ inductionHypothesis step quiet
    obtain ⟨follows, within⟩ := inductionHypothesis fun event earlier =>
      quiet event (List.mem_append_left _ earlier)
    refine ⟨step.follows follows (quiet label (by simp)), fun call member copying => ?_⟩
    rcases List.mem_append.mp member with earlier | last
    · exact within call earlier copying
    · cases List.mem_singleton.mp last
      obtain ⟨failed, offset, comes, looks, chosen, copied, sent, left⟩ :=
        step.copies follows copying
      obtain ⟨small, inside⟩ := fit failed offset call.handler comes looks chosen copying
      rw [← copied] at small inside
      have received : (call.copied : Int) ≤ call.left := by omega
      refine ⟨⟨small, received⟩, fun bytes member => ?_⟩
      have shorter := sent bytes member
      constructor <;> omega

/-- The loop at an offset of the chunk, with the last `send` not failed unless it must have. -/
structure Globals.Ready (s : Globals) (chunk : List UInt8) (failed : Bool) (offset : Nat) :
    Prop where
  holds : s.Holds chunk
  place : s.readBufferp = offset
  fit : s.Fit
  clear : failed = false → 0 ≤ s.writeBufferLen

theorem checkOpenflow_zero {message : Memory} (version : message OfpHeader.version = ofpVersion) :
    checkOpenflow message = 0 := by
  rw [checkOpenflow, if_pos version]

section Ready

variable {s : Globals} {chunk : List UInt8} {failed : Bool} {offset : Nat}

theorem Globals.Ready.message (ready : s.Ready chunk failed offset) :
    s.message = messageAt chunk offset := by
  rw [← ready.place]
  exact ready.holds.message

theorem Globals.Ready.check (ready : s.Ready chunk failed offset) (looks : Looks chunk offset) :
    checkOpenflow s.message = 0 :=
  checkOpenflow_zero (ready.message ▸ looks.version)

/-- The call of a copying handler, which may be the last step. -/
theorem Globals.Ready.copy (ready : s.Ready chunk failed offset) (looks : Looks chunk offset)
    {handler : Handler} (chosen : dispatch (messageAt chunk offset OfpHeader.type) = some handler)
    (copying : Copying handler) :
    ∃ call q, Process.Step ⟨s, .scanning (chunk.length - offset)⟩ (.handled call) q ∧
      call.handler = handler ∧ call.copied = statedLength (messageAt chunk offset) ∧
      call.left = chunk.length - offset := by
  have inside := looks.inside
  have more : (chunk.length : Int) - offset > 0 := by omega
  have selected : dispatch (s.message OfpHeader.type) = some handler := ready.message ▸ chosen
  have taken := refusing_taken (handle handler refusing s.readBufferp s).sent
  have copied : (handle handler refusing s.readBufferp s).copied =
      statedLength (messageAt chunk offset) := by
    rw [(handle_copies copying taken).copied, ← ready.message]
    rfl
  have left : s.readBufferLen - s.readBufferp = (chunk.length : Int) - offset := by
    rw [ready.holds.readBufferLen, ready.place]
  cases returned : (handle handler refusing s.readBufferp s).returned with
  | none =>
      exact ⟨_, _, .overran more (ready.check looks) selected rfl taken returned, rfl, copied, left⟩
  | some ended =>
      obtain ⟨next, result⟩ := ended
      exact ⟨_, _, .handled more (ready.check looks) selected rfl taken returned, rfl, copied, left⟩

theorem Globals.Ready.pass (ready : s.Ready chunk failed offset) (looks : Looks chunk offset)
    {still : Bool} (goes : behind offset (messageAt chunk offset) failed = some still)
    (fits : ∀ handler, dispatch (messageAt chunk offset OfpHeader.type) = some handler →
      Copying handler → statedLength (messageAt chunk offset) ≤ writeBufferSize) :
    ∃ event next, Process.Step ⟨s, .scanning (chunk.length - offset)⟩ event
        ⟨next, .scanning (chunk.length - (offset + statedLength (messageAt chunk offset) : Nat))⟩ ∧
      ¬ event.Reads ∧
      next.Ready chunk still (offset + statedLength (messageAt chunk offset)) := by
  have inside := looks.inside
  have more : (chunk.length : Int) - offset > 0 := by omega
  have advanced {next : Globals} (keeps : s.Keeps next) (fit : next.Fit)
      (clear : still = false → 0 ≤ next.writeBufferLen) :
      (next.advance (statedLength s.message)).Ready chunk still
        (offset + statedLength (messageAt chunk offset)) := by
    have kept := keeps.holds ready.holds
    refine ⟨⟨kept.readBuffer, kept.readBufferLen⟩, ?_, ⟨fit.hosts, fit.ports, fit.rewound⟩, clear⟩
    show next.readBufferp + statedLength s.message = _
    rw [keeps.readBufferp, ready.place, ready.message]
  have counted : (chunk.length : Int) - offset - statedLength s.message =
      chunk.length - (offset + statedLength (messageAt chunk offset) : Nat) := by
    rw [ready.message]
    omega
  rw [← counted]
  cases chosen : dispatch (messageAt chunk offset OfpHeader.type) with
  | none =>
      have same : some failed = some still := by
        rw [← goes, behind, chosen]
      cases same
      exact ⟨_, _, .skipped more (ready.check looks) (ready.message ▸ chosen), not_false,
        advanced ⟨rfl, rfl, rfl⟩ ready.fit ready.clear⟩
  | some handler =>
      have seen : s.readBuffer.shift s.readBufferp = messageAt chunk offset := ready.message
      have goesOn :
          behind s.readBufferp (s.readBuffer.shift s.readBufferp) failed = some still := by
        rw [seen, ready.place]
        exact goes
      obtain ⟨env, next, taken, returned, fit, clear⟩ := handle_passes ready.fit
        (seen ▸ chosen) (fun copying => seen ▸ fits handler chosen copying) ready.clear goesOn
      obtain ⟨keeps, -⟩ := handle_behind (seen ▸ chosen) taken returned
        (fun never : false = true => by cases never)
      exact ⟨_, _, .handled more (ready.check looks) (ready.message ▸ chosen) rfl taken returned,
        not_false, advanced keeps fit clear⟩

end Ready

theorem quiet_snoc {events : List Event} {event : Event}
    (quiet : ∀ event ∈ events, ¬ event.Reads) (silent : ¬ event.Reads) :
    ∀ other ∈ events ++ [event], ¬ other.Reads := by
  intro other member
  rcases List.mem_append.mp member with earlier | last
  · exact quiet other earlier
  · exact List.mem_singleton.mp last ▸ silent

theorem CopiesWithin.last {chunk : List UInt8} (within : CopiesWithin chunk) {after : List Event}
    {p q : Process} {call : Call} (run : Run Process.Step .initial (.received chunk :: after) p)
    (quiet : ∀ event ∈ after, ¬ event.Reads) (step : Process.Step p (.handled call) q)
    (copying : Copying call.handler) : call.Within := by
  have longer : Run Process.Step .initial (.received chunk :: (after ++ [.handled call])) q := by
    rw [← List.cons_append]
    exact .snoc run step
  exact within [] .initial .refl rfl _ q longer (quiet_snoc quiet not_false) call (by simp) copying

/-- As long as the copies fit, the loop comes to every offset that it can come to. -/
theorem Comes.run {chunk : List UInt8} {failed : Bool} {offset : Nat}
    (comes : Comes chunk failed offset) (within : CopiesWithin chunk) (some : chunk ≠ [])
    (fits : chunk.length ≤ readBufferSize) :
    ∃ after s, Run Process.Step Process.initial (.received chunk :: after)
        ⟨s, .scanning (chunk.length - offset)⟩ ∧
      (∀ event ∈ after, ¬ event.Reads) ∧ s.Ready chunk failed offset := by
  induction comes with
  | start =>
      refine ⟨[.internal], _, .cons (.received some fits) (.single .scan), ?_, ⟨rfl, rfl⟩, rfl,
        ⟨⟨[], ObjectList.holds_empty⟩, ⟨[], ObjectList.holds_empty⟩, rfl⟩, fun _ => Int.le_refl 0⟩
      intro event member
      cases List.mem_singleton.mp member
      exact not_false
  | @next failed still offset _ looks goes inductionHypothesis =>
      obtain ⟨after, s, run, quiet, ready⟩ := inductionHypothesis
      have small : ∀ handler,
          dispatch (messageAt chunk offset OfpHeader.type) = Option.some handler →
          Copying handler → statedLength (messageAt chunk offset) ≤ writeBufferSize := by
        intro handler chosen copying
        obtain ⟨call, q, step, rfl, copied, -⟩ := ready.copy looks chosen copying
        exact copied ▸ (within.last run quiet step copying).copied.1
      obtain ⟨event, next, step, silent, there⟩ := ready.pass looks goes small
      exact ⟨after ++ [event], next, .snoc run step, quiet_snoc quiet silent, there⟩

theorem fit_of_copiesWithin {chunk : List UInt8} (within : CopiesWithin chunk)
    (fits : chunk.length ≤ readBufferSize) : CopiesFit chunk := by
  intro failed offset handler comes looks chosen copying
  have some : chunk ≠ [] := List.length_pos_iff.mp (Nat.zero_lt_of_lt looks.inside)
  obtain ⟨after, s, run, quiet, ready⟩ := comes.run within some fits
  obtain ⟨call, q, step, rfl, copied, left⟩ := ready.copy looks chosen copying
  obtain ⟨small, received⟩ := (within.last run quiet step copying).copied
  rw [copied] at small received
  rw [left] at received
  exact ⟨small, by omega⟩

/-- What is copied and sent of the messages of a chunk fits in the buffer and
was received if and only if the lengths that they state do. -/
theorem copies_within_iff {chunk : List UInt8} (fits : chunk.length ≤ readBufferSize) :
    CopiesWithin chunk ↔ CopiesFit chunk :=
  ⟨fun within => fit_of_copiesWithin within fits, copiesWithin_of_fit⟩

/-- A `HELLO` of eight octets that states 10241. -/
def oversized : List UInt8 := [1, 0, 0x28, 1, 0, 0, 0, 1]

theorem oversized_not_within : ¬ CopiesWithin oversized := by
  intro within
  have length : statedLength (messageAt oversized 0) = 10241 := by
    rw [statedLength_eq]
    rfl
  have fit := fit_of_copiesWithin within (by decide) false 0 .hello .start ⟨by decide, rfl⟩ rfl
    (.inl rfl)
  rw [length] at fit
  exact absurd fit.1 (by decide)

def hello : List UInt8 := [1, 0, 0, 8, 0, 0, 0, 1]

theorem copies_within_hello : CopiesWithin hello := by
  have length : statedLength (messageAt hello 0) = 8 := by
    rw [statedLength_eq]
    rfl
  have comes {failed : Bool} {offset : Nat} (comes : Comes hello failed offset) :
      offset = 0 ∨ 8 ≤ offset := by
    induction comes with
    | start => exact .inl rfl
    | next _ _ _ inductionHypothesis =>
        rcases inductionHypothesis with rfl | behind
        · rw [length]
          exact .inr (Nat.le_refl _)
        · exact .inr (Nat.le_trans behind (Nat.le_add_right _ _))
  have fits : hello.length ≤ readBufferSize := by decide
  refine (copies_within_iff fits).mpr fun failed offset handler reached looks _ _ => ?_
  have inside : offset < 8 := looks.inside
  obtain rfl : offset = 0 := by
    have start := comes reached
    omega
  rw [length]
  decide

end DAIM.Ani1
