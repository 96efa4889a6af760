import Mathlib.Data.List.Perm.Subperm
import DAIM.Ani41.Scan
import DAIM.Network.Storm

/-!
# No step of a controller is left out

What a controller is called with are messages of the chunk that it has read
last, each of them at most once, or the zeros that a lost connection leaves.
The conditions that the steps at a switch put on calls therefore keep no
controller from any step.
-/

namespace DAIM.Network

open DAIM.Library DAIM.OpenFlow DAIM.Linked DAIM.Com DAIM.Hosts DAIM.Ani41

/-! ## After a lost connection -/

/-- Nothing was read since the connection was lost. -/
structure Blank (p : Process) : Prop where
  buffer : p.ani.readBuffer = Memory.zero
  length : p.ani.readBufferLen < 1
  counter : ∀ counter, p.place = .scanning counter → ¬ counter > 0

theorem Blank.lost {p q : Process} (step : Process.Step p .lost q) : Blank q := by
  cases step with
  | lost short => exact ⟨rfl, short, fun counter => nofun⟩

theorem Blank.step {p q : Process} {event : Event} (blank : Blank p)
    (step : Process.Step p event q) (silent : event.chunk? = none) :
    Blank q ∧ ∀ call, event = .handled call → call.message = Memory.zero := by
  obtain ⟨buffer, short, counter⟩ := blank
  have shared {s next : Ani} {place : MainPlace} {others : List Thread} {index : Nat}
      {thread after : Thread} {sent : Option (List UInt8)}
      (share : ShareStep index s thread sent next after) (empty : s.readBuffer = Memory.zero)
      (less : s.readBufferLen < 1) (still : ∀ counter, place = .scanning counter → ¬ counter > 0) :
      Blank ⟨next, place, others⟩ := by
    rw [share.frame]
    exact ⟨empty, less, still⟩
  cases step with
  | received _ _ => cases silent
  | lost less => exact ⟨⟨rfl, less, fun counter => nofun⟩, fun call => nofun⟩
  | scan _ =>
      refine ⟨⟨buffer, short, ?_⟩, fun call => nofun⟩
      rintro counter ⟨⟩
      exact Int.not_lt.mpr (Int.lt_add_one_iff.mp short)
  | ignored _ chosen =>
      obtain ⟨rfl, -⟩ := normalHandler_eq chosen
      exact ⟨⟨buffer, short, fun counter => nofun⟩, fun call => nofun⟩
  | @answered s next threads handler env outcome _ chosen run =>
      obtain ⟨rfl, -⟩ := normalHandler_eq chosen
      have kept := handle_reads run
      have read : outcome.ani.readBuffer = s.readBuffer := congrArg Reads.readBuffer kept
      have length : outcome.ani.readBufferLen = s.readBufferLen :=
        congrArg Reads.readBufferLen kept
      refine ⟨⟨read.trans buffer, length ▸ short, fun counter => ?_⟩, ?_⟩
      · show afterCall outcome.result .reading = .scanning counter → _
        unfold afterCall
        split <;> exact nofun
      · rintro call ⟨⟩
        show Memory.shift s.readBuffer _ = _
        rw [buffer]
        rfl
  | @unknown s next threads left more _ => exact absurd more (counter left rfl)
  | @skipped s next threads left more _ _ => exact absurd more (counter left rfl)
  | @scanAnswered s next threads left _ _ _ more _ _ _ => exact absurd more (counter left rfl)
  | thread _ share => exact ⟨shared share buffer short counter, fun call => nofun⟩
  | shared _ share => exact ⟨shared share buffer short counter, fun call => nofun⟩
  | _ => exact ⟨⟨buffer, short, fun counter => nofun⟩, fun call => nofun⟩

/-! ## The rest of a chunk -/

/-- The controller works on the messages of its chunk, or it has lost its connection. -/
def Site.Follows (site : Site) : Prop :=
  (∃ todo, Fed site.chunk site.controller todo ∧
    todo.Subperm (site.chunk.map Message.bytes)) ∨ Blank site.controller

theorem Site.follows_initial (cbench : Bool) : (Site.initial cbench).Follows :=
  .inl ⟨[], .idle (.inl rfl), List.nil_subperm⟩

/-- One memory starts with at most one framed message. -/
theorem takes_unique {call : Call} {first second : List UInt8} (one : Takes call first)
    (other : Takes call second) (framed : Framed first) (isFramed : Framed second) :
    first = second := by
  have length {bytes : List UInt8} (takes : Takes call bytes) (whole : Framed bytes) :
      (ntohs (call.message.load16 OfpHeader.length)).toNat = bytes.length := by
    rw [takes.whole.ntohs_load16 (show OfpHeader.length + 2 ≤ bytes.length from
      Nat.le_trans (by decide) whole.header)]
    exact whole.length
  have same : first.length = second.length :=
    (length one framed).symm.trans (length other isFramed)
  calc first
    _ = call.message.slice 0 first.length := one.whole.symm
    _ = call.message.slice 0 second.length := by rw [same]
    _ = second := other.whole

/-- Messages that are left are still in a chunk without the message that was taken. -/
theorem Fed.remove {before after : List Message} {message : Message} {p : Process}
    {rest : List (List UInt8)} (fed : Fed (before ++ message :: after) p rest)
    (inside : (message.bytes :: rest).Subperm
      ((before ++ message :: after).map Message.bytes)) :
    Fed (before ++ after) p rest ∧ rest.Subperm ((before ++ after).map Message.bytes) := by
  have moved : ((before ++ message :: after).map Message.bytes).Perm
      (message.bytes :: (before ++ after).map Message.bytes) :=
    (List.perm_middle.map Message.bytes)
  have left : rest.Subperm ((before ++ after).map Message.bytes) :=
    (List.subperm_cons message.bytes).mp (inside.trans moved.subperm)
  refine ⟨⟨fun bytes member => ?_, fed.faces, fed.normal⟩, left⟩
  obtain ⟨other, told, same⟩ := List.mem_map.mp (left.subset member)
  exact ⟨other, told, same⟩

theorem Site.Step.follows {enters : UInt16 → Prop} {ports : List UInt16} {site next : Site}
    {incoming : Option (UInt16 × Frame)} {out : List (UInt16 × Frame)} {event : Option Event}
    (step : Site.Step ports site incoming out event next) (sound : site.Sound enters)
    (follows : site.Follows) : next.Follows := by
  have valid : ∀ message ∈ site.chunk, message.Valid := fun message member =>
    (sound.messages message (List.mem_append_right _ member)).valid
  -- steps of the controller that keep its chunk
  have kept {event : Event} {process : Process} {outbox : List Sent}
      (taken : Process.Step site.controller event process) (silent : event.chunk? = none) :
      Site.Follows { site with controller := process, outbox := outbox } := by
    by_cases lost : event = .lost
    · subst lost
      exact .inr (.lost taken)
    · rcases follows with ⟨todo, fed, inside⟩ | blank
      · obtain ⟨rest, still, left, -⟩ := fed.step valid taken silent lost
        exact .inl ⟨rest, still, left.subperm.trans inside⟩
      · exact .inr (blank.step taken silent).1
  cases step with
  | reported _ => exact follows
  | forwarded _ _ => exact follows
  | spoke _ => exact follows
  | executed _ => exact follows
  | received taken _ whole =>
      exact .inl ⟨_, Fed.received taken (fun _ member => member) whole, List.Subperm.refl _⟩
  | @handled call before after message process taken split takes =>
      rcases follows with ⟨todo, fed, inside⟩ | blank
      · rw [split] at fed inside valid
        obtain ⟨rest, still, -, answered⟩ := fed.step valid taken rfl nofun
        obtain ⟨bytes, left, taking⟩ := answered call rfl
        obtain ⟨other, told, rfl⟩ := fed.told bytes (left.subset List.mem_cons_self)
        have framed := (valid message (List.mem_append_right _ List.mem_cons_self)).framed
        rw [takes_unique taking takes (valid other told).framed framed] at left
        exact .inl ⟨rest, still.remove (left.subperm.trans inside)⟩
      · exact .inr (blank.step taken rfl).1
  | cleared taken _ => exact kept taken rfl
  | shared taken => exact kept taken rfl
  | @quiet event process taken quiet =>
      have silent : event.chunk? = none := by
        cases event with
        | received _ => cases quiet
        | _ => rfl
      exact kept taken silent

/-! ## Every step of a controller -/

/-- Whatever a controller can do is done in the network, but a chunk consists
of messages of its switch. -/
theorem Site.Follows.admits {enters : UInt16 → Prop} {site : Site} (follows : site.Follows)
    (sound : site.Sound enters) (ports : List UInt16) {event : Event} {process : Process}
    (taken : Process.Step site.controller event process) (silent : event.chunk? = none) :
    ∃ next, Site.Step ports site none [] (some event) next ∧ next.controller = process := by
  have valid : ∀ message ∈ site.chunk, message.Valid := fun message member =>
    (sound.messages message (List.mem_append_right _ member)).valid
  cases event with
  | received chunk => cases silent
  | shared index bytes => exact ⟨_, .shared taken, rfl⟩
  | handled call =>
      rcases follows with ⟨todo, fed, inside⟩ | blank
      · obtain ⟨rest, -, -, answered⟩ := fed.step valid taken rfl nofun
        obtain ⟨bytes, left, takes⟩ := answered call rfl
        obtain ⟨message, told, rfl⟩ := fed.told bytes (left.subset List.mem_cons_self)
        obtain ⟨before, after, split⟩ := List.append_of_mem told
        exact ⟨_, .handled taken split takes, rfl⟩
      · exact ⟨_, .cleared taken ((blank.step taken rfl).2 call rfl), rfl⟩
  | _ => exact ⟨_, .quiet taken trivial, rfl⟩

section Network

variable {Switch : Type*} [DecidableEq Switch] {cabling : Cabling Switch} {home : Port Switch}
variable {frame : Frame} {traffic : Traffic Switch} {acts : List (Act Switch)}
variable {cbench : Switch → Bool}

theorem Traffic.Reaches.follows (asked : cabling.Asked home frame)
    (run : Traffic.Reaches cabling cbench home frame acts traffic) :
    ∀ s, (traffic.sites s).Follows := by
  induction run with
  | refl => exact fun s => Site.follows_initial (cbench s)
  | @snoc acts middle finish act earlier step inductionHypothesis =>
      have updated {s : Switch} {site : Site} (isFollowing : site.Follows) (t : Switch) :
          (Function.update middle.sites s site t).Follows := by
        by_cases same : t = s
        · subst same
          simpa using isFollowing
        · simpa [Function.update_of_ne same] using inductionHypothesis t
      have sound := (Traffic.Reaches.flooded asked earlier).sites
      cases step with
      | answered _ _ _ => exact inductionHypothesis
      | @arrived before after s inPort reported out event site split step =>
          exact updated (step.follows (sound s) (inductionHypothesis s))
      | @worked s out event site step =>
          exact updated (step.follows (sound s) (inductionHypothesis s))

/-- In every reachable network the steps of every controller are steps of the
network, but those that read a chunk. -/
theorem Traffic.Reaches.admits (asked : cabling.Asked home frame)
    (run : Traffic.Reaches cabling cbench home frame acts traffic) {s : Switch} {event : Event}
    {process : Process} (taken : Process.Step (traffic.sites s).controller event process)
    (silent : event.chunk? = none) :
    ∃ next, Traffic.Step cabling traffic (some (s, event)) next ∧
      (next.sites s).controller = process := by
  obtain ⟨site, step, rfl⟩ :=
    (run.follows asked s).admits ((run.flooded asked).sites s) (cabling.ports s) taken silent
  exact ⟨_, .worked step, by simp⟩

end Network

end DAIM.Network
