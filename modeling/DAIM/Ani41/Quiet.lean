import DAIM.Library.Traces
import DAIM.Ani41.Probes
import DAIM.Ani41.Replys
import DAIM.Ani41.Threads

/-!
# The quiet period

While there is one discovery thread, `anim_node_counter` is the number of times
that the thread has incremented it since a link was recorded and since the
thread began its round.
-/

namespace DAIM.Ani41

open DAIM.Library

/-! ## What a step does to the counter -/

/-- The step records an `ANIM_NODE`, or would if it could allocate the link. -/
def Records (step : Taken Process Event) : Prop :=
  ∃ call, step.label = .handled call ∧ call.IsNode

/-- The thread begins a round. -/
def Begins (index : Nat) (step : Taken Process Event) : Prop :=
  step.before.At index .resetRound ∧ step.after.At index (.probe 1)

/-- The thread increments the counter and goes on waiting. -/
def Increments (index : Nat) (step : Taken Process Event) : Prop :=
  step.before.At index .testWait ∧ step.after.At index .lockWait ∧
    step.after.ani.animNodeCounter = step.before.ani.animNodeCounter + 1

/-- The thread leaves its waiting loop. -/
def Leaves (index : Nat) (step : Taken Process Event) : Prop :=
  step.before.At index .testWait ∧ step.after.At index .unlockWait

instance (index : Nat) : DecidablePred (Increments index) := fun _ =>
  inferInstanceAs (Decidable (_ ∧ _ ∧ _))

theorem Process.At.of_found {index : Nat} {thread : Thread} {p : Process}
    (found : p.threads[index]? = some thread) : p.At index thread.place := by
  rw [Process.At, found, Option.map_some]

theorem Process.At.place_eq {index : Nat} {place : SharePlace} {thread : Thread} {p : Process}
    (here : p.At index place) (found : p.threads[index]? = some thread) : thread.place = place := by
  rw [Process.At, found, Option.map_some] at here
  exact Option.some.inj here

/-- A thread sets the counter to zero, increments it, or leaves it alone. -/
theorem ShareStep.counter {index : Nat} {s next : Ani} {thread after : Thread}
    {sent : Option (List UInt8)} (step : ShareStep index s thread sent next after) :
    thread.place = .resetRound ∧ after.place = .probe 1 ∧ next.animNodeCounter = 0 ∨
      thread.place = .testWait ∧ after.place = .lockWait ∧
        next.animNodeCounter = s.animNodeCounter + 1 ∨
      thread.place ≠ .resetRound ∧ next.animNodeCounter = s.animNodeCounter := by
  cases step with
  | lock locking _ =>
      refine .inr (.inr ⟨?_, rfl⟩)
      intro here
      rw [here] at locking
      cases locking
  | resetRound here => exact .inl ⟨here, rfl, rfl⟩
  | waiting here _ => exact .inr (.inl ⟨here, rfl, rfl⟩)
  | rewindReplys here => exact .inr (.inr ⟨by simp [here], rfl⟩)
  | unlockWait here => exact .inr (.inr ⟨by simp [here], rfl⟩)
  | rewindLinks here => exact .inr (.inr ⟨by simp [here], rfl⟩)
  | unlockLinks here => exact .inr (.inr ⟨by simp [here], rfl⟩)
  | _ here _ => exact .inr (.inr ⟨by simp [here], rfl⟩)

/-- A thread begins its round with the mutex. -/
theorem ShareStep.enters {index : Nat} {s next : Ani} {thread after : Thread}
    {sent : Option (List UInt8)} (step : ShareStep index s thread sent next after)
    (start : thread.place = .lockRound) : after.place = .resetRound := by
  have run := step.share_eq
  unfold share lockFor at run
  simp only [start] at run
  split at run
  · cases run
    rfl
  · cases run

/-- A thread leaves its waiting loop when the counter has passed twenty. -/
theorem ShareStep.left {index : Nat} {s next : Ani} {thread after : Thread}
    {sent : Option (List UInt8)} (step : ShareStep index s thread sent next after)
    (tests : thread.place = .testWait) (leaves : after.place = .unlockWait) :
    s.animNodeCounter > 20 := by
  have run := step.share_eq
  unfold share at run
  simp only [tests] at run
  split at run
  · assumption
  · cases run
    cases leaves

/-- A call sets the counter to zero exactly if it records a link. -/
theorem Call.Touches.counter {call : Call} {switchId : UInt64} {s next : Shared} {spawned : Bool}
    (touches : call.Touches switchId s next spawned) :
    call.IsNode ∧ next.animNodeCounter = 0 ∨
      ¬ call.IsNode ∧ next.animNodeCounter = s.animNodeCounter := by
  have notFeatures (handler : call.handler = .featuresReply) : ¬ call.IsNode :=
    fun node => absurd (handler.symm.trans node.1) (by decide)
  cases touches with
  | nothing notNode _ _ => exact .inr ⟨notNode, rfl⟩
  | reply reply _ _ => exact .inr ⟨fun node => node.not_isReply reply, rfl⟩
  | node node _ _ => exact .inl ⟨node, rfl⟩
  | started handler _ _ => exact .inr ⟨notFeatures handler, rfl⟩
  | jammed handler _ _ _ => exact .inr ⟨notFeatures handler, rfl⟩

section Steps

variable {p q : Process} {event : Event} {index : Nat}

/-- A thread that begins a round has set the counter to zero. -/
theorem Process.Step.begins (step : Process.Step p event q) (begins : Begins index ⟨p, event, q⟩) :
    q.ani.animNodeCounter = 0 := by
  obtain ⟨thread, found, place⟩ := begins.1.thread
  rcases step.touches.thread_cases found with ⟨sent, after, share, now, -⟩ | ⟨now, -⟩
  · rcases share.counter with ⟨-, -, zero⟩ | ⟨waits, -⟩ | ⟨other, -⟩
    · exact zero
    · cases place.symm.trans waits
    · exact absurd place other
  · cases place.symm.trans (begins.2.place_eq now)

/-- While there is one thread, nothing else changes the counter than its resets,
its increments and the links that are recorded. -/
theorem Process.Step.counter (step : Process.Step p event q) (single : p.threads.length ≤ 1) :
    (Records ⟨p, event, q⟩ ∨ Begins 0 ⟨p, event, q⟩) ∧ q.ani.animNodeCounter = 0 ∨
      ¬ (Records ⟨p, event, q⟩ ∨ Begins 0 ⟨p, event, q⟩) ∧
        q.ani.animNodeCounter =
          p.ani.animNodeCounter + if Increments 0 ⟨p, event, q⟩ then 1 else 0 := by
  by_cases resets : Records ⟨p, event, q⟩ ∨ Begins 0 ⟨p, event, q⟩
  · refine .inl ⟨resets, ?_⟩
    rcases resets with ⟨call, rfl, node⟩ | begins
    · obtain ⟨started, ofBuffer, outcome, called⟩ := step.called
      rcases called.touches.counter with ⟨-, zero⟩ | ⟨notNode, -⟩
      · exact zero
      · exact absurd node notNode
    · exact step.begins begins
  · refine .inr ⟨resets, ?_⟩
    have same (kept : q.ani.animNodeCounter = p.ani.animNodeCounter) :
        q.ani.animNodeCounter =
          p.ani.animNodeCounter + if Increments 0 ⟨p, event, q⟩ then 1 else 0 := by
      have none : ¬ Increments 0 ⟨p, event, q⟩ := by
        rintro ⟨-, -, more⟩
        have grown : q.ani.animNodeCounter = p.ani.animNodeCounter + 1 := more
        omega
      rw [if_neg none, kept, Int.add_zero]
    cases step.touches with
    | kept _ _ _ _ shared _ => exact same (congrArg Shared.animNodeCounter shared)
    | freeLinks _ _ _ shared _ => exact same (congrArg Shared.animNodeCounter shared)
    | freeReplys _ _ _ shared _ => exact same (congrArg Shared.animNodeCounter shared)
    | called touch _ =>
        rcases touch.counter with ⟨node, -⟩ | ⟨-, kept⟩
        · exact absurd (.inl ⟨_, rfl, node⟩) resets
        · exact same kept
    | @thread index thread after sent _ found share threads _ =>
        have running : index < p.threads.length := (List.getElem?_eq_some_iff.mp found).1
        have first : index = 0 := by omega
        subst first
        have now : q.threads[0]? = some after := by rw [threads, List.getElem?_set_self running]
        have before := Process.At.of_found found
        have here := Process.At.of_found now
        rcases share.counter with ⟨reset, probing, -⟩ | ⟨tests, waits, more⟩ | ⟨-, kept⟩
        · exact absurd (.inr ⟨reset ▸ before, probing ▸ here⟩) resets
        · have increments : Increments 0 ⟨p, sent.elim .internal (.shared 0), q⟩ :=
            ⟨tests ▸ before, waits ▸ here, more⟩
          rw [if_pos increments]
          exact more
        · exact same kept

/-- A thread that was not there before waits for the mutex. -/
theorem Process.Touches.fresh {thread : Thread} (touches : p.Touches event q)
    (absent : p.threads[index]? = none) (found : q.threads[index]? = some thread) :
    thread = .initial := by
  cases touches with
  | kept _ _ _ _ _ threads => cases absent.symm.trans (threads ▸ found)
  | freeLinks _ _ _ _ threads => cases absent.symm.trans (threads ▸ found)
  | freeReplys _ _ _ _ threads => cases absent.symm.trans (threads ▸ found)
  | called _ threads =>
      rw [threads] at found
      unfold spawn at found
      split at found
      · rw [List.getElem?_append_right (List.getElem?_eq_none_iff.mp absent)] at found
        exact List.mem_singleton.mp (List.mem_of_getElem? found)
      · cases absent.symm.trans found
  | thread _ _ threads _ =>
      rw [threads, List.getElem?_eq_none_iff.mpr] at found
      · cases found
      · rw [List.length_set]
        exact List.getElem?_eq_none_iff.mp absent

end Steps

/-! ## Runs -/

/-- A thread past the start of its round has begun a round. -/
def Begun (steps : List (Taken Process Event)) (p : Process) : Prop :=
  ∀ index thread, p.threads[index]? = some thread → thread.place ≠ .lockRound →
    thread.place ≠ .resetRound → ∃ step ∈ steps, Begins index step

theorem Begun.step {steps : List (Taken Process Event)} {p q : Process} {event : Event}
    (begun : Begun steps p) (step : Process.Step p event q) :
    Begun (steps ++ [⟨p, event, q⟩]) q := by
  intro index after found notLock notReset
  have later (before : ∃ step ∈ steps, Begins index step) :
      ∃ step ∈ steps ++ [⟨p, event, q⟩], Begins index step := by
    obtain ⟨taken, member, begins⟩ := before
    exact ⟨taken, List.mem_append_left _ member, begins⟩
  cases running : p.threads[index]? with
  | none =>
      have new := step.touches.fresh running found
      exact absurd (congrArg Thread.place new) notLock
  | some thread =>
      rcases step.touches.thread_cases running with ⟨sent, next, share, now, -⟩ | ⟨now, -⟩
      · cases found.symm.trans now
        by_cases reset : thread.place = .resetRound
        · have probing : after.place = .probe 1 := by
            rcases share.counter with ⟨-, probing, -⟩ | ⟨tests, -⟩ | ⟨other, -⟩
            · exact probing
            · cases reset.symm.trans tests
            · exact absurd reset other
          refine ⟨_, List.mem_append_right _ List.mem_cons_self, ?_, ?_⟩
          · exact reset ▸ Process.At.of_found running
          · exact probing ▸ Process.At.of_found now
        · by_cases start : thread.place = .lockRound
          · exact absurd (share.enters start) notReset
          · exact later (begun index thread running start reset)
      · cases found.symm.trans now
        exact later (begun index _ running notLock notReset)

theorem starts_le_replies (events : List Event) :
    (starts events).length ≤ (replies events).length := by
  apply List.Sublist.length_le
  apply List.monotone_filter_right
  intro call starting
  exact decide_eq_true (of_decide_eq_true starting).1

/-- What the counter counts while there is one thread. -/
structure Counted (steps : List (Taken Process Event)) (p : Process) : Prop where
  counter : ∃ count : Nat, p.ani.animNodeCounter = count ∧
    AtLeastSince (fun step => Records step ∨ Begins 0 step) (Increments 0) count steps
  begun : Begun steps p

theorem Counted.step {steps : List (Taken Process Event)} {p q : Process} {event : Event}
    (counted : Counted steps p) (step : Process.Step p event q) (single : p.threads.length ≤ 1) :
    Counted (steps ++ [⟨p, event, q⟩]) q := by
  refine ⟨?_, counted.begun.step step⟩
  obtain ⟨count, same, since⟩ := counted.counter
  rcases step.counter single with ⟨resets, zero⟩ | ⟨other, grown⟩
  · exact ⟨0, zero, since.snoc (fun _ => rfl) (Nat.zero_le _)⟩
  · refine ⟨count + if Increments 0 ⟨p, event, q⟩ then 1 else 0, ?_, ?_⟩
    · rw [grown, same]
      split <;> rfl
    · exact since.snoc (fun resets => absurd resets other) (Nat.le_refl _)

/-- In a run with at most one features reply the counter counts. -/
theorem Counted.trace {cbench : Bool} {steps : List (Taken Process Event)} {p : Process}
    (trace : Trace Process.Step (Process.initial cbench) steps p)
    (one : (replies (steps.map Taken.label)).length ≤ 1) : Counted steps p := by
  induction trace with
  | refl =>
      refine ⟨⟨0, rfl, .nil 0⟩, ?_⟩
      intro index thread found
      cases found
  | @snoc steps middle finish event earlier step inductionHypothesis =>
      rw [List.map_append, replies_append, List.length_append] at one
      have before : (replies (steps.map Taken.label)).length ≤ 1 := by omega
      refine (inductionHypothesis before).step step ?_
      rw [Process.Reaches.threads_length earlier.run]
      exact Nat.le_trans (starts_le_replies _) before

/-- In a run with at most one features reply, a discovery thread that leaves its
waiting loop has begun its round, and it has incremented the counter at least
21 times since the last link was recorded and since the round began. -/
theorem quiet_period {cbench : Bool} {steps earlier later : List (Taken Process Event)}
    {leaving : Taken Process Event} {p : Process} {index : Nat}
    (trace : Trace Process.Step (Process.initial cbench) steps p)
    (one : (replies (steps.map Taken.label)).length ≤ 1)
    (cut : steps = earlier ++ leaving :: later) (leaves : Leaves index leaving) :
    (∃ step ∈ earlier, Begins index step) ∧
      AtLeastSince Records (Increments index) 21 earlier ∧
      AtLeastSince (Begins index) (Increments index) 21 earlier := by
  subst cut
  obtain ⟨before, step⟩ := trace.cut
  rw [List.map_append, replies_append, List.length_append] at one
  have counted := Counted.trace before (by omega)
  have single : leaving.before.threads.length ≤ 1 := by
    rw [Process.Reaches.threads_length before.run]
    exact Nat.le_trans (starts_le_replies _) (by omega)
  obtain ⟨thread, found, place⟩ := leaves.1.thread
  have first : index = 0 := by
    have running : index < leaving.before.threads.length := (List.getElem?_eq_some_iff.mp found).1
    omega
  subst first
  obtain ⟨count, same, since⟩ := counted.counter
  have elapsed : leaving.before.ani.animNodeCounter > 20 := by
    rcases step.touches.thread_cases found with ⟨sent, after, share, now, -⟩ | ⟨now, -⟩
    · exact share.left place (leaves.2.place_eq now)
    · cases place.symm.trans (leaves.2.place_eq now)
  have enough : 21 ≤ count := by omega
  have since : AtLeastSince (fun step => Records step ∨ Begins 0 step) (Increments 0) 21 earlier :=
    fun before reset after cut resets => Nat.le_trans enough (since before reset after cut resets)
  refine ⟨counted.begun 0 thread found ?_ ?_, since.mono fun _ => .inl, since.mono fun _ => .inr⟩
  · rw [place]
    exact nofun
  · rw [place]
    exact nofun

/-- A switch with one port, and no links: the thread waits for the whole period. -/
theorem quiet_period_once :
    ∃ (steps : List (Taken Process Event)) (leaving : Taken Process Event),
      Leaves 0 leaving ∧ (∃ step ∈ steps, Begins 0 step) ∧
        AtLeastSince Records (Increments 0) 21 steps ∧
        AtLeastSince (Begins 0) (Increments 0) 21 steps := by
  let moves : List Move := .deliver (featuresMessage 11 [1]) :: List.replicate 50 (.share 0)
  have computed : ((Process.initial false).play moves).bind
      (fun run => (run.2.share 0).map fun next => ((replies run.1).length, next.1,
        decide (run.2.At 0 .testWait), decide (next.2.At 0 .unlockWait))) =
      some (1, none, true, true) := by decide +kernel
  obtain ⟨⟨events, p⟩, played, computed⟩ := Option.bind_eq_some_iff.mp computed
  obtain ⟨⟨sent, q⟩, shared, same⟩ := Option.map_eq_some_iff.mp computed
  simp only [Prod.mk.injEq, decide_eq_true_eq] at same
  obtain ⟨one, rfl, waits, leaves⟩ := same
  obtain ⟨steps, trace, labels⟩ := (Process.play_run played).trace
  have whole := trace.snoc (Process.share_step shared)
  have leaving : Leaves 0 ⟨p, .internal, q⟩ := ⟨waits, leaves⟩
  refine ⟨steps, _, leaving, quiet_period whole ?_ rfl leaving⟩
  rw [List.map_append, labels, replies_append, List.length_append, one]
  exact Nat.le_refl 1

end DAIM.Ani41
