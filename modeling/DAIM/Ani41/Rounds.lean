import Mathlib.Data.Multiset.AddSub
import DAIM.Ani41.Told

/-!
# The rounds of the discovery

What becomes of the links and the replies that the main thread records while
discovery threads go through the two lists, print, and clear them: for each
list, the phase of the thread that holds the mutex tells which of the records
are still to be used.
-/

namespace DAIM.Ani41

open DAIM.Library DAIM.OpenFlow DAIM.Linked

/-! ## Phases -/

/-- How far a thread at the place is in printing the links. -/
def SharePlace.linksPhase : SharePlace → ObjectList.Phase
  | .nextLink => .next
  | .printLink pl => .inUse pl
  | .rewindLinks | .freeReplys | .freeLinks => .past
  | _ => .idle

/-- How far a thread at the place is in sending nodes for the replies. -/
def SharePlace.replysPhase : SharePlace → ObjectList.Phase
  | .nextReply => .next
  | .shareNode p => .inUse p
  | .rewindReplys => .past
  | _ => .idle

/-- The phase of the thread that holds the mutex. -/
def Process.phase (purpose : SharePlace → ObjectList.Phase) (p : Process) : ObjectList.Phase :=
  attention Owner.number (fun thread => purpose thread.place) .idle p.ani.linksMutex p.threads

/-- A thread without the mutex goes through no list. -/
def Guards (purpose : SharePlace → ObjectList.Phase) : Prop :=
  ∀ place, ¬ SharePlace.Critical place → purpose place = .idle

theorem linksPhase_guards : Guards SharePlace.linksPhase := by
  intro place outside
  cases place with
  | nextLink => exact absurd trivial outside
  | printLink _ => exact absurd trivial outside
  | rewindLinks => exact absurd trivial outside
  | freeReplys => exact absurd trivial outside
  | freeLinks => exact absurd trivial outside
  | _ => rfl

theorem replysPhase_guards : Guards SharePlace.replysPhase := by
  intro place outside
  cases place with
  | nextReply => exact absurd trivial outside
  | shareNode _ => exact absurd trivial outside
  | rewindReplys => exact absurd trivial outside
  | _ => rfl

section Phases

variable {purpose : SharePlace → ObjectList.Phase} {p q : Process}

theorem Process.phase_free (free : p.ani.linksMutex = none) : p.phase purpose = .idle :=
  attention_foreign (by simp [free])

theorem Process.phase_congr (mutex : q.ani.linksMutex = p.ani.linksMutex)
    (threads : q.threads = p.threads) : q.phase purpose = p.phase purpose := by
  unfold Process.phase
  rw [mutex, threads]

/-- A thread at a critical place holds the mutex. -/
theorem Process.Exclusive.phase (exclusive : p.Exclusive) {index : Nat} {thread : Thread}
    (found : p.threads[index]? = some thread) (critical : thread.place.Critical) :
    p.phase purpose = purpose thread.place := by
  have mutex := (exclusive index).mpr ⟨thread, found, critical⟩
  exact attention_holder (by rw [mutex]; rfl) found

/-- Without the mutex a thread changes nothing. -/
theorem ShareStep.outside {index : Nat} {s next : Ani} {thread after : Thread}
    {sent : Option (List UInt8)} (step : ShareStep index s thread sent next after)
    (before : ¬ thread.place.Critical) (later : ¬ after.place.Critical) : next = s := by
  obtain ⟨place, portsCount⟩ := thread
  cases step with
  | lock locking _ => cases place <;> cases locking <;> exact absurd trivial later
  | probe here _ => rfl
  | probed here _ => rfl
  | resetRound here =>
      cases here
      exact absurd trivial before
  | rewindReplys here =>
      cases here
      exact absurd trivial before
  | rewindLinks here =>
      cases here
      exact absurd trivial before
  | unlockWait here =>
      cases here
      exact absurd trivial before
  | unlockLinks here =>
      cases here
      exact absurd trivial before
  | _ here _ =>
      cases here
      exact absurd trivial before

/-- A thread that steps goes from its phase to its next one, unless it has no
part in the shared globals. -/
theorem ShareStep.phase {index : Nat} {thread after : Thread} {sent : Option (List UInt8)}
    (step : ShareStep index p.ani thread sent q.ani after) (guards : Guards purpose)
    (exclusive : p.Exclusive) (found : p.threads[index]? = some thread)
    (threads : q.threads = p.threads.set index after) :
    p.phase purpose = purpose thread.place ∧ q.phase purpose = purpose after.place ∨
      q.ani = p.ani ∧ q.phase purpose = p.phase purpose := by
  have excludes : Excludes Owner.thread (fun thread : Thread => thread.place.Critical)
      p.ani.linksMutex p.threads := exclusive
  have off : ∀ thread : Thread, ¬ thread.place.Critical → purpose thread.place = .idle :=
    fun thread => guards thread.place
  unfold Process.phase
  rw [threads]
  rcases excludes.attention_set Owner.number_thread (fun _ _ => Owner.eq_thread) off found
      step.mutex with phases | ⟨outside, still, -, same⟩
  · exact .inl phases
  · exact .inr ⟨step.outside outside still, same⟩

/-- A call changes no phase. -/
theorem Call.Touches.phase {call : Call} {switchId : UInt64} {spawned : Bool}
    (touches : call.Touches switchId p.ani.shared q.ani.shared spawned)
    (exclusive : p.Exclusive) (threads : q.threads = spawn p.threads spawned) :
    q.phase purpose = p.phase purpose := by
  have excludes : Excludes Owner.thread (fun thread : Thread => thread.place.Critical)
      p.ani.linksMutex p.threads := exclusive
  unfold Process.phase
  rw [threads]
  rcases touches.mutex with kept | ⟨free, jammed, -⟩
  · rw [show q.ani.linksMutex = p.ani.linksMutex from kept]
    unfold spawn
    split
    · exact excludes.attention_concat fun _ _ => Owner.eq_thread
    · rfl
  · have before : p.ani.linksMutex = none := free
    have later : q.ani.linksMutex = some .main := jammed
    rw [attention_foreign (by simp [later]), attention_foreign (by simp [before])]

end Phases

/-! ## Links -/

/-- The links that the `NODE` messages have named, in their order. -/
def recorded (events : List Event) : List SwitchLink :=
  ((Process.initial false).remembers.takeAll (calls events)).tables.links

/-- The links that were printed. -/
def Process.printed (p : Process) : List SwitchLink := p.ani.console.filterMap Line.link?

theorem Told.take_links (told : Told) (call : Call) :
    (told.take call).tables.links =
      told.tables.links ++
        if call.IsNode ∧ call.env.allocated 0 = true then
          [linkEntry told.switchId call.message]
        else [] := by
  unfold Told.take
  cases handler : call.handler with
  | packout =>
      simp only
      unfold Tables.packout
      cases allocated : call.env.allocated 0 with
      | false => simp
      | true =>
          by_cases node : IsDiscovery call.message animNode
          · have isNode : call.IsNode := ⟨handler, node⟩
            simp [node, isNode]
          · have notNode : ¬ call.IsNode := fun is => node is.2
            simp [node, notNode]
  | featuresReply =>
      have notNode : ¬ call.IsNode := fun is => absurd (handler.symm.trans is.1) (by decide)
      simp only
      split <;> simp [notNode]
  | _ =>
      have notNode : ¬ call.IsNode := fun is => absurd (handler.symm.trans is.1) (by decide)
      simp [notNode]

/-- A step of a traversal that prints keeps what is printed and what is still to
be printed together. -/
theorem ShareStep.links {index : Nat} {s next : Ani} {thread after : Thread}
    {sent : Option (List UInt8)} (step : ShareStep index s thread sent next after)
    (links : s.links.AtPhase thread.place.linksPhase) :
    next.links.AtPhase after.place.linksPhase ∧
      next.shared.printed ++ next.links.remaining after.place.linksPhase =
        s.shared.printed ++ s.links.remaining thread.place.linksPhase := by
  obtain ⟨place, portsCount⟩ := thread
  cases step with
  | lock locking free =>
      cases place <;> cases locking
      · exact ⟨links, rfl⟩
      · exact ⟨links, rfl⟩
      · exact ⟨links, rfl⟩
      · exact ⟨links.start, congrArg _ links.start_remaining⟩
  | nextLink here got =>
      cases here
      obtain ⟨moved, remaining, -⟩ := links.get got
      exact ⟨moved, congrArg _ remaining⟩
  | noLink here got =>
      cases here
      obtain ⟨moved, remaining, -⟩ := links.get got
      exact ⟨moved, congrArg _ remaining⟩
  | @printLink pl link here read =>
      cases here
      obtain ⟨moved, remaining⟩ := links.used read
      refine ⟨moved, ?_⟩
      show (s.console ++ [Line.link link]).filterMap Line.link? ++ s.links.remaining .next =
        s.console.filterMap Line.link? ++ s.links.remaining (.inUse pl)
      rw [remaining]
      simp [Line.link?]
  | rewindLinks here =>
      cases here
      obtain ⟨rewound, -⟩ := links.rewind
      exact ⟨⟨rewound.intact, fun _ => rewound.resting (.inl rfl)⟩, rfl⟩
  | freeLinks here freed =>
      cases here
      obtain ⟨moved, empty⟩ := links.rest.free freed
      refine ⟨moved, ?_⟩
      show _ ++ ObjectList.contents _ = _ ++ []
      rw [empty]
      rfl
  | resetRound here =>
      cases here
      exact ⟨links, rfl⟩
  | rewindReplys here =>
      cases here
      exact ⟨links, rfl⟩
  | unlockWait here =>
      cases here
      exact ⟨links, rfl⟩
  | unlockLinks here =>
      cases here
      exact ⟨links, rfl⟩
  | _ here _ =>
      cases here
      exact ⟨links, rfl⟩

/-- A call records a link while nobody holds the mutex, or leaves the links alone. -/
theorem Call.Touches.links {call : Call} {switchId : UInt64} {s next : Shared} {spawned : Bool}
    (touches : call.Touches switchId s next spawned) :
    next.printed = s.printed ∧
      (call.IsNode ∧ s.linksMutex = none ∧
          s.links.addFilled (call.env.objectAllocated 0) (call.env.blockAllocated 0)
            (linkEntry switchId call.message) = some next.links ∨
        ¬ call.IsNode ∧ next.links = s.links) := by
  have notFeatures (handler : call.handler = .featuresReply) : ¬ call.IsNode :=
    fun node => absurd (handler.symm.trans node.1) (by decide)
  cases touches with
  | nothing notNode _ _ => exact ⟨rfl, .inr ⟨notNode, rfl⟩⟩
  | reply reply _ _ => exact ⟨rfl, .inr ⟨fun node => node.not_isReply reply, rfl⟩⟩
  | node node free added => exact ⟨rfl, .inl ⟨node, free, added⟩⟩
  | started handler _ _ => exact ⟨rfl, .inr ⟨notFeatures handler, rfl⟩⟩
  | jammed handler _ _ _ => exact ⟨rfl, .inr ⟨notFeatures handler, rfl⟩⟩

/-- Two successful allocations. -/
theorem allocated_both {env : Env} (allocated : env.allocated 0 = true) :
    env.objectAllocated 0 = true ∧ env.blockAllocated 0 = true := by
  simpa [Env.allocated] using allocated

/-- What was recorded is what was printed and what is still to be printed. -/
structure Process.Conserves (p : Process) (links : List SwitchLink) : Prop where
  intact : p.ani.links.AtPhase (p.phase SharePlace.linksPhase)
  conserved : links = p.printed ++ p.ani.links.remaining (p.phase SharePlace.linksPhase)

theorem Process.Step.conserves {p q : Process} {event : Event} {told : Told}
    (step : Process.Step p event q) (exclusive : p.Exclusive) (online : p.place.Online)
    (knows : p.ani.switchId = told.switchId)
    (allocates : ∀ call, event = .handled call → call.env.allocated 0 = true)
    (conserves : p.Conserves told.tables.links) :
    q.Conserves (told.takeAll (calls [event])).tables.links := by
  obtain ⟨intact, conserved⟩ := conserves
  have touches := step.touches
  cases touches with
  | kept uncalled _ _ _ shared threads =>
      have silent : calls [event] = [] := by
        cases event with
        | handled call => exact absurd rfl (uncalled call)
        | _ => rfl
      have links : q.ani.links = p.ani.links := congrArg Shared.links shared
      have printed : q.printed = p.printed := congrArg Shared.printed shared
      have phase : q.phase SharePlace.linksPhase = p.phase SharePlace.linksPhase :=
        Process.phase_congr (congrArg Shared.linksMutex shared) threads
      constructor
      · rw [links, phase]
        exact intact
      · rw [silent, links, phase, printed]
        exact conserved
  | freeLinks place _ _ _ _ =>
      rw [place] at online
      cases online
  | freeReplys place _ _ _ _ =>
      rw [place] at online
      cases online
  | @called call spawned _ touch threads =>
      have phase : q.phase SharePlace.linksPhase = p.phase SharePlace.linksPhase :=
        touch.phase exclusive threads
      have one : (told.takeAll (calls [.handled call])).tables.links =
          (told.take call).tables.links := rfl
      have allocated := allocates call rfl
      obtain ⟨printed, ⟨node, free, added⟩ | ⟨notNode, links⟩⟩ := touch.links
      · have idle : p.phase SharePlace.linksPhase = .idle := Process.phase_free free
        obtain ⟨object, block⟩ := allocated_both allocated
        rw [idle] at phase intact conserved
        rw [object, block] at added
        obtain ⟨moved, contents⟩ := intact.add added
        refine ⟨phase ▸ moved, ?_⟩
        rw [one, told.take_links call, if_pos ⟨node, allocated⟩, conserved, phase, ← knows,
          show q.printed = p.printed from printed]
        have now : q.ani.links.contents =
            p.ani.links.contents ++ [linkEntry p.ani.switchId call.message] := contents
        show _ ++ p.ani.links.contents ++ _ = _ ++ q.ani.links.contents
        rw [now, List.append_assoc]
      · have same : q.ani.links = p.ani.links := links
        refine ⟨?_, ?_⟩
        · rw [same, phase]
          exact intact
        · rw [one, told.take_links call, if_neg fun is => notNode is.1, List.append_nil, same,
            phase, show q.printed = p.printed from printed]
          exact conserved
  | @thread index thread after sent _ found share threads place =>
      have silent : calls [sent.elim Event.internal (Event.shared index)] = [] := by
        cases sent <;> rfl
      rw [silent]
      rcases share.phase linksPhase_guards exclusive found threads with
        ⟨before, now⟩ | ⟨same, phase⟩
      · rw [before] at intact conserved
        obtain ⟨moved, kept⟩ := share.links intact
        exact ⟨now ▸ moved, conserved.trans (now ▸ kept.symm)⟩
      · refine ⟨?_, ?_⟩
        · rw [same, phase]
          exact intact
        · rw [show q.printed = p.printed from congrArg (fun s : Ani => s.shared.printed) same,
            same, phase]
          exact conserved

/-- On the first connection of a run nothing of the links is lost. -/
theorem Process.Reaches.conserves {cbench : Bool} {events : List Event} {p : Process}
    (run : Process.Reaches cbench events p) (lasts : Event.lost ∉ events)
    (allocates : Allocates events) : p.Conserves (recorded events) := by
  induction run with
  | refl => exact ⟨ObjectList.AtPhase.empty, rfl⟩
  | @snoc events middle finish event earlier step inductionHypothesis =>
      have before : Event.lost ∉ events := fun lost => lasts (List.mem_append_left _ lost)
      have conserves := inductionHypothesis before fun call happened =>
        allocates call (List.mem_append_left _ happened)
      obtain ⟨online, knows⟩ := session_knows .refl (.inl rfl) earlier before
      unfold recorded
      rw [calls_append, Told.takeAll_append]
      apply step.conserves (Process.Reaches.exclusive earlier) online knows.switchId _ conserves
      rintro call rfl
      exact allocates call (List.mem_append_right _ List.mem_cons_self)

/-- Whenever the mutex is free the links that were recorded are those that were
printed and those in the table.  A thread that is about to free the table has
printed each of them once. -/
theorem links_conserved {cbench : Bool} {events : List Event} {p : Process}
    (run : Process.Reaches cbench events p) (lasts : Event.lost ∉ events)
    (allocates : Allocates events) :
    (p.ani.linksMutex = none →
        (recorded events : Multiset SwitchLink) =
          (p.printed : Multiset SwitchLink) + (p.ani.links.contents : Multiset SwitchLink)) ∧
      ∀ (index : Nat) (thread : Thread), p.threads[index]? = some thread →
        thread.place = .freeLinks → (recorded events : Multiset SwitchLink) = p.printed := by
  obtain ⟨-, conserved⟩ := run.conserves lasts allocates
  constructor
  · intro free
    rw [Process.phase_free free] at conserved
    rw [conserved]
    exact (Multiset.coe_add _ _).symm
  · intro index thread found place
    have critical : thread.place.Critical := by
      rw [place]
      trivial
    rw [run.exclusive.phase found critical, place] at conserved
    rw [conserved]
    exact congrArg _ (List.append_nil _)

theorem links_conserved_node :
    ∃ events p, Process.Reaches false events p ∧ Event.lost ∉ events ∧
      recorded events = [⟨⟨11, 1⟩, ⟨5, 2⟩⟩] ∧ p.ani.linksMutex = none ∧
      (recorded events : Multiset SwitchLink) =
        (p.printed : Multiset SwitchLink) + (p.ani.links.contents : Multiset SwitchLink) := by
  have computed : ((Process.initial false).play
      [.deliver (featuresMessage 11 [1]), .deliver (discoveryPacketIn 1 (.node 5 2))]).map
      (fun run => (recorded run.1, run.2.ani.linksMutex)) =
      some ([⟨⟨11, 1⟩, ⟨5, 2⟩⟩], none) := by decide
  obtain ⟨⟨events, p⟩, played, same⟩ := Option.map_eq_some_iff.mp computed
  simp only [Prod.mk.injEq] at same
  obtain ⟨links, free⟩ := same
  have run : Process.Reaches false events p := Process.play_run played
  obtain ⟨calm, stays⟩ := Process.play_events played
  have lasts : Event.lost ∉ events := stays (by simp [Move.Stays])
  have allocates : Allocates events := by
    intro call happened
    rw [calm call happened]
    rfl
  exact ⟨events, p, run, lasts, links, free, (links_conserved run lasts allocates).1 free⟩

end DAIM.Ani41
