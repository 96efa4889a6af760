import DAIM.Stage1.Lifecycle

/-!
# Signals in stage 1

Which processes `kill` reaches depends on where `SIGINT` interrupts the sender:
`exit_handler` is installed before `cproc` has the number of the child, and the
child inherits it.
-/

namespace DAIM.Stage1

open DAIM.Library

/-! ## The number of the child -/

/-- How far a process is: before its assignment to `cproc`, behind it, in
`exit_handler`, or past all calls of `kill`. -/
inductive Phase where
  | early
  | late
  | handling
  | past
  deriving DecidableEq

def ParentPlace.phase : ParentPlace → Phase
  | .creating _ | .installing | .forking | .assigning _ => .early
  | .relaying | .killing | .waiting => .late
  | .handling => .handling
  | .closing _ | .exiting _ | .ended _ => .past

def ChildPlace.phase : ChildPlace → Phase
  | .assigning => .early
  | .ignoring | .setting | .relaying => .late
  | .handling => .handling
  | .closing _ | .exiting _ | .ended _ => .past

/-- The child still has the handler of its parent, or is in it. -/
def ChildPlace.inherits : ChildPlace → Bool
  | .assigning | .ignoring | .handling => true
  | _ => false

/-- The process assigns the result of a `fork` that has succeeded to `cproc`. -/
def Event.numbers (who : Who) : Event → Bool
  | .assigned other value => decide (other = who ∧ value ≠ -1)
  | _ => false

/-- It has done so: before, and after a `fork` that fails, `cproc` is -1. -/
def Numbered (events : List Event) (who : Who) : Prop :=
  ∃ event ∈ events, event.numbers who = true

theorem numbered_nil (who : Who) : ¬ Numbered [] who := by
  rintro ⟨event, none, -⟩
  cases none

theorem numbered_snoc {events : List Event} {event : Event} {who : Who} :
    Numbered (events ++ [event]) who ↔ Numbered events who ∨ event.numbers who = true := by
  simp [Numbered, or_and_right, exists_or]

theorem numbered_other {events : List Event} {event : Event} {who : Who}
    (other : event.numbers who = false) :
    Numbered (events ++ [event]) who ↔ Numbered events who := by
  simp [numbered_snoc, other]

/-- What the history says about `cproc` of the parent. -/
structure Parent.Sound (events : List Event) (p : Parent) : Prop where
  unassigned : ¬ Numbered events .parent → p.cproc = -1
  assigned : Numbered events .parent →
    ∃ pid : Nat, 0 < pid ∧ .forked pid ∈ events ∧ .assigned .parent pid ∈ events ∧ p.cproc = pid
  early : p.place.phase = .early → ¬ Numbered events .parent
  late : p.place.phase = .late → Numbered events .parent
  assigning : ∀ pid, p.place = .assigning pid → 0 < pid ∧ .forked pid ∈ events
  handling : p.place.phase = .handling → .interrupted .parent ∈ events

/-- What the history says about the copy that the child has. -/
structure Child.Sound (events : List Event) (c : Child) : Prop where
  unassigned : ¬ Numbered events .child → c.cproc = -1
  assigned : Numbered events .child → .assigned .child 0 ∈ events ∧ c.cproc = 0
  early : c.place.phase = .early → ¬ Numbered events .child
  inherits : c.place.inherits = true → .ignored ∉ events
  handling : c.place.phase = .handling → .interrupted .child ∈ events

section Parents

variable {events : List Event} {event : Event} {p q : Parent}

/-- A step that neither assigns `cproc` nor interrupts. -/
theorem Parent.Sound.next (sound : p.Sound events) (other : event.numbers .parent = false)
    (cproc : q.cproc = p.cproc)
    (phase : q.place.phase = p.place.phase ∨ q.place.phase = .past)
    (assigning : ∀ pid, q.place = .assigning pid →
      p.place = .assigning pid ∨ 0 < pid ∧ event = .forked pid) :
    q.Sound (events ++ [event]) := by
  have same : Numbered (events ++ [event]) .parent ↔ Numbered events .parent :=
    numbered_other other
  have before {now : Phase} (here : q.place.phase = now) (notPast : now ≠ .past) :
      p.place.phase = now := by
    rcases phase with kept | past
    · exact kept.symm.trans here
    · exact absurd (here.symm.trans past) notPast
  constructor
  · rw [same, cproc]
    exact sound.unassigned
  · rw [same, cproc]
    intro assigned
    obtain ⟨pid, positive, forked, told, number⟩ := sound.assigned assigned
    exact ⟨pid, positive, List.mem_append_left _ forked, List.mem_append_left _ told, number⟩
  · rw [same]
    exact fun here => sound.early (before here (by decide))
  · rw [same]
    exact fun here => sound.late (before here (by decide))
  · intro pid here
    rcases assigning pid here with before | ⟨positive, rfl⟩
    · obtain ⟨positive, forked⟩ := sound.assigning pid before
      exact ⟨positive, List.mem_append_left _ forked⟩
    · exact ⟨positive, List.mem_append_right _ List.mem_cons_self⟩
  · exact fun here => List.mem_append_left _ (sound.handling (before here (by decide)))

/-- A step behind all calls of `kill`. -/
theorem Parent.Sound.past (sound : p.Sound events) (other : event.numbers .parent = false)
    (cproc : q.cproc = p.cproc) (past : q.place.phase = .past) : q.Sound (events ++ [event]) := by
  apply sound.next other cproc (.inr past)
  intro pid here
  rw [here] at past
  cases past

theorem Parent.Move.sound (move : p.Move event q) (sound : p.Sound events) :
    q.Sound (events ++ [event]) := by
  have kept {place next : ParentPlace} {phase : Phase} (here : p.place = place)
      (before : place.phase = phase) (after : next.phase = phase) :
      next.phase = p.place.phase ∨ next.phase = .past := by
    rw [here, before, after]
    exact .inl rfl
  cases move with
  | @created call result place _ =>
      cases call with
      | _ => exact sound.next rfl rfl (kept place rfl rfl) (by simp [Startup.next])
  | notCreated _ => exact sound.past rfl rfl rfl
  | installed place => exact sound.next rfl rfl (kept place rfl rfl) (by simp)
  | notForked place =>
      have unassigned := sound.unassigned (sound.early (by rw [place]; rfl))
      exact sound.past rfl unassigned.symm rfl
  | @assigned pid place =>
      obtain ⟨positive, forked⟩ := sound.assigning pid place
      have told : Event.assigned .parent pid ∈ events ++ [.assigned .parent pid] :=
        List.mem_append_right _ List.mem_cons_self
      have child : (pid : Int) ≠ -1 := by omega
      have here : Numbered (events ++ [.assigned .parent pid]) .parent :=
        ⟨_, told, by simp [Event.numbers, child]⟩
      refine ⟨fun none => absurd here none, fun _ => ?_, by simp [ParentPlace.phase],
        fun _ => here, by simp, by simp [ParentPlace.phase]⟩
      exact ⟨pid, positive, List.mem_append_left _ forked, told, rfl⟩
  | @relayed round place _ =>
      cases (p.relay.relay round).exited with
      | true => exact sound.next rfl rfl (kept place rfl rfl) (by simp)
      | false => exact sound.next rfl rfl (kept place rfl rfl) (by simp)
  | broken _ => exact sound.past rfl rfl rfl
  | closed _ => exact sound.past rfl rfl rfl
  | exited _ => exact sound.past rfl rfl rfl
  | interrupted _ _ =>
      have same : Numbered (events ++ [.interrupted .parent]) .parent ↔ Numbered events .parent :=
        numbered_other rfl
      refine ⟨?_, ?_, by simp [ParentPlace.phase], by simp [ParentPlace.phase], by simp,
        fun _ => List.mem_append_right _ List.mem_cons_self⟩
      · rw [same]
        exact sound.unassigned
      · rw [same]
        intro assigned
        obtain ⟨pid, positive, forked, told, number⟩ := sound.assigned assigned
        exact ⟨pid, positive, List.mem_append_left _ forked, List.mem_append_left _ told, number⟩
  | killedByInt _ _ => exact sound.past rfl rfl rfl
  | killedByTerm _ _ => exact sound.past rfl rfl rfl

end Parents

section Children

variable {events : List Event} {event : Event} {c d : Child}

/-- A step that neither assigns `cproc`, nor interrupts, nor ignores `SIGINT`. -/
theorem Child.Sound.next (sound : c.Sound events) (other : event.numbers .child = false)
    (cproc : d.cproc = c.cproc)
    (phase : d.place.phase = c.place.phase ∨ d.place.phase = .past)
    (inherits : d.place.inherits = true → c.place.inherits = true ∧ event ≠ .ignored) :
    d.Sound (events ++ [event]) := by
  have same : Numbered (events ++ [event]) .child ↔ Numbered events .child :=
    numbered_other other
  have before {now : Phase} (here : d.place.phase = now) (notPast : now ≠ .past) :
      c.place.phase = now := by
    rcases phase with kept | past
    · exact kept.symm.trans here
    · exact absurd (here.symm.trans past) notPast
  constructor
  · rw [same, cproc]
    exact sound.unassigned
  · rw [same, cproc]
    intro assigned
    obtain ⟨told, number⟩ := sound.assigned assigned
    exact ⟨List.mem_append_left _ told, number⟩
  · rw [same]
    exact fun here => sound.early (before here (by decide))
  · intro here
    obtain ⟨still, notIgnored⟩ := inherits here
    have free := sound.inherits still
    simp [free, notIgnored.symm]
  · exact fun here => List.mem_append_left _ (sound.handling (before here (by decide)))

theorem Child.Sound.past (sound : c.Sound events) (other : event.numbers .child = false)
    (cproc : d.cproc = c.cproc) (past : d.place.phase = .past) : d.Sound (events ++ [event]) := by
  apply sound.next other cproc (.inr past)
  intro inherits
  cases place : d.place <;> rw [place] at past inherits <;> cases past <;> cases inherits

theorem Child.Move.sound (move : c.Move event d) (sound : c.Sound events) :
    d.Sound (events ++ [event]) := by
  have kept {place next : ChildPlace} {phase : Phase} (here : c.place = place)
      (before : place.phase = phase) (after : next.phase = phase) :
      next.phase = c.place.phase ∨ next.phase = .past := by
    rw [here, before, after]
    exact .inl rfl
  cases move with
  | assigned place =>
      have told : Event.assigned .child 0 ∈ events ++ [.assigned .child 0] :=
        List.mem_append_right _ List.mem_cons_self
      have here : Numbered (events ++ [.assigned .child 0]) .child := ⟨_, told, rfl⟩
      have free := sound.inherits (by rw [place]; rfl)
      exact ⟨fun none => absurd here none, fun _ => ⟨told, rfl⟩, by simp [ChildPlace.phase],
        fun _ => by simp [free], by simp [ChildPlace.phase]⟩
  | ignored place => exact sound.next rfl rfl (kept place rfl rfl) (by simp [ChildPlace.inherits])
  | set place => exact sound.next rfl rfl (kept place rfl rfl) (by simp [ChildPlace.inherits])
  | @relayed round place _ =>
      cases (c.relay.relay round).exited with
      | true => exact sound.past rfl rfl rfl
      | false =>
          exact sound.next rfl rfl (kept place rfl rfl) (by simp [ChildPlace.inherits])
  | broken _ => exact sound.past rfl rfl rfl
  | closed _ => exact sound.past rfl rfl rfl
  | exited _ => exact sound.past rfl rfl rfl
  | interrupted _ handler =>
      have same : Numbered (events ++ [.interrupted .child]) .child ↔ Numbered events .child :=
        numbered_other rfl
      have inherits : c.place.inherits = true := by
        unfold Child.onInt at handler
        split at handler
        · rename_i place
          rw [place]
          rfl
        · rename_i place
          rw [place]
          rfl
        all_goals cases handler
      refine ⟨?_, ?_, by simp [ChildPlace.phase], fun _ => ?_,
        fun _ => List.mem_append_right _ List.mem_cons_self⟩
      · rw [same]
        exact sound.unassigned
      · rw [same]
        intro assigned
        obtain ⟨told, number⟩ := sound.assigned assigned
        exact ⟨List.mem_append_left _ told, number⟩
      · simp [sound.inherits inherits]
  | discarded _ _ => exact sound.next rfl rfl (.inl rfl) fun here => ⟨here, by simp⟩
  | killedByTerm _ _ => exact sound.past rfl rfl rfl
  | terminated _ _ => exact sound.past rfl rfl rfl

end Children

/-! ## Both processes -/

structure Life.Sound (events : List Event) (life : Life) : Prop where
  parent : life.parent.Sound events
  child : ∀ c, life.child = some c → c.Sound events
  unborn : life.child = none → ¬ Numbered events .child ∧ .ignored ∉ events

/-- The process is as it was, but for its pending signals. -/
structure Parent.Same (p q : Parent) : Prop where
  place : q.place = p.place
  cproc : q.cproc = p.cproc
  relay : q.relay = p.relay

structure Child.Same (c d : Child) : Prop where
  pid : d.pid = c.pid
  place : d.place = c.place
  cproc : d.cproc = c.cproc
  relay : d.relay = c.relay
  changed : d.changed = c.changed
  term : c.pending.term = true → d.pending.term = true

theorem Parent.Same.refl (p : Parent) : p.Same p := ⟨rfl, rfl, rfl⟩
theorem Child.Same.refl (c : Child) : c.Same c := ⟨rfl, rfl, rfl, rfl, rfl, id⟩

theorem Child.Same.terminate (c : Child) : c.Same c.terminate :=
  ⟨rfl, rfl, rfl, rfl, rfl, fun _ => rfl⟩

theorem Child.Same.interrupt (c : Child) : c.Same c.interrupt := ⟨rfl, rfl, rfl, rfl, rfl, id⟩

/-- A signal changes no more than what is pending. -/
theorem Life.kill_same (life : Life) (sender : Who) (target : Int) :
    life.parent.Same (life.kill sender target).parent ∧
      ∀ d, (life.kill sender target).child = some d → ∃ c, life.child = some c ∧ c.Same d := by
  have mapped {f : Child → Child} (same : ∀ c : Child, c.Same (f c)) :
      ∀ d, life.child.map f = some d → ∃ c, life.child = some c ∧ c.Same d := by
    intro d there
    obtain ⟨c, found, rfl⟩ := Option.map_eq_some_iff.mp there
    exact ⟨c, found, same c⟩
  unfold Life.kill
  split
  · cases sender with
    | parent => exact ⟨.refl _, mapped Child.Same.terminate⟩
    | child => exact ⟨⟨rfl, rfl, rfl⟩, fun d there => ⟨d, there, .refl d⟩⟩
  · split
    · exact ⟨⟨rfl, rfl, rfl⟩, mapped Child.Same.terminate⟩
    · refine ⟨.refl _, mapped fun c => ?_⟩
      split
      · exact .terminate c
      · exact .refl c

section Both

variable {events : List Event} {event : Event} {life next : Life}

theorem Parent.Sound.same {p q : Parent} (sound : p.Sound events) (same : p.Same q) :
    q.Sound events := by
  obtain ⟨place, cproc, -⟩ := same
  constructor
  all_goals
    simp only [place, cproc]
  · exact sound.unassigned
  · exact sound.assigned
  · exact sound.early
  · exact sound.late
  · exact sound.assigning
  · exact sound.handling

theorem Child.Sound.same {c d : Child} (sound : c.Sound events) (place : d.place = c.place)
    (cproc : d.cproc = c.cproc) : d.Sound events := by
  constructor
  all_goals
    simp only [place, cproc]
  · exact sound.unassigned
  · exact sound.assigned
  · exact sound.early
  · exact sound.inherits
  · exact sound.handling

theorem Parent.Sound.later {p : Parent} (sound : p.Sound events)
    (other : event.numbers .parent = false) : p.Sound (events ++ [event]) :=
  sound.next other rfl (.inl rfl) fun _ here => .inl here

theorem Child.Sound.later {c : Child} (sound : c.Sound events)
    (other : event.numbers .child = false) (notIgnored : event ≠ .ignored) :
    c.Sound (events ++ [event]) :=
  sound.next other rfl (.inl rfl) fun here => ⟨here, notIgnored⟩

theorem Parent.Move.apart {p q : Parent} (move : p.Move event q) :
    event.numbers .child = false ∧ event ≠ .ignored := by
  cases move <;> exact ⟨rfl, by simp⟩

theorem Child.Move.apart {c d : Child} (move : c.Move event d) :
    event.numbers .parent = false := by
  cases move <;> rfl

/-- A step after which the child is where it was. -/
theorem Life.Sound.step (sound : life.Sound events) (parent : next.parent.Sound (events ++ [event]))
    (other : event.numbers .child = false ∧ event ≠ .ignored)
    (child : ∀ d, next.child = some d →
      ∃ c, life.child = some c ∧ d.place = c.place ∧ d.cproc = c.cproc)
    (still : next.child = none → life.child = none) : next.Sound (events ++ [event]) where
  parent := parent
  child d there := by
    obtain ⟨c, found, place, cproc⟩ := child d there
    exact ((sound.child c found).later other.1 other.2).same place cproc
  unborn none := by
    obtain ⟨unassigned, notIgnoring⟩ := sound.unborn (still none)
    simp [numbered_snoc, unassigned, notIgnoring, other.1, other.2.symm]

theorem Life.kill_none {sender : Who} {target : Int}
    (unborn : (life.kill sender target).child = none) : life.child = none := by
  unfold Life.kill at unborn
  split at unborn
  · cases sender
    · exact Option.map_eq_none_iff.mp unborn
    · exact unborn
  · split at unborn <;> exact Option.map_eq_none_iff.mp unborn

theorem Life.Step.sound (step : Life.Step life event next) (sound : life.Sound events) :
    next.Sound (events ++ [event]) := by
  cases step with
  | parent move =>
      exact sound.step (move.sound sound.parent) move.apart (fun d there => ⟨d, there, rfl, rfl⟩) id
  | @child p c d _ move =>
      refine ⟨sound.parent.later move.apart, fun e there => ?_, nofun⟩
      cases there
      exact move.sound (sound.child c rfl)
  | @forked p pid place positive =>
      obtain ⟨unassigned, notIgnored⟩ := sound.unborn rfl
      have early : p.place.phase = .early := by
        rw [place]
        rfl
      have number := sound.parent.unassigned (sound.parent.early early)
      have parent : Parent.Sound (events ++ [.forked pid]) { p with place := .assigning pid } := by
        have kept : (ParentPlace.assigning pid).phase = p.place.phase := early.symm
        refine sound.parent.next rfl rfl (.inl kept) fun other here => ?_
        cases here
        exact .inr ⟨positive, rfl⟩
      refine ⟨parent, fun e there => ?_, nofun⟩
      · cases there
        have same : Numbered (events ++ [.forked pid]) .child ↔ Numbered events .child :=
          numbered_other rfl
        exact ⟨fun _ => number, by simp [same, unassigned], by simp [same, unassigned],
          by simp [notIgnored], nofun⟩
  | @killed p child place =>
      obtain ⟨same, children⟩ :=
        Life.kill_same ⟨{ p with place := .waiting }, child⟩ .parent p.cproc
      have late : ParentPlace.waiting.phase = p.place.phase := by
        rw [place]
        rfl
      have waits :
          Parent.Sound (events ++ [.killed .parent p.cproc]) { p with place := .waiting } :=
        sound.parent.next rfl rfl (.inl late) (by simp)
      refine sound.step (waits.same same) ⟨rfl, by simp⟩ (fun d there => ?_) Life.kill_none
      obtain ⟨c, found, kept⟩ := children d there
      exact ⟨c, found, kept.place, kept.cproc⟩
  | @waited p c place waited =>
      refine sound.step (sound.parent.past rfl rfl rfl) ⟨rfl, by simp⟩ (fun d there => ?_) nofun
      cases there
      exact ⟨c, rfl, rfl, rfl⟩
  | @handled p child place =>
      obtain ⟨same, children⟩ :=
        Life.kill_same ⟨{ p with place := .closing .interrupted }, child⟩ .parent p.cproc
      have past : Parent.Sound (events ++ [.killed .parent p.cproc])
          { p with place := .closing .interrupted } :=
        sound.parent.past rfl rfl rfl
      refine sound.step (past.same same) ⟨rfl, by simp⟩ (fun d there => ?_) Life.kill_none
      obtain ⟨c, found, kept⟩ := children d there
      exact ⟨c, found, kept.place, kept.cproc⟩
  | @childHandled p c place =>
      obtain ⟨same, children⟩ :=
        Life.kill_same ⟨p, some { c with place := .closing .interrupted }⟩ .child c.cproc
      have past : Child.Sound (events ++ [.killed .child c.cproc])
          { c with place := .closing .interrupted } :=
        (sound.child c rfl).past rfl rfl rfl
      refine ⟨(sound.parent.later rfl).same same, fun e there => ?_, fun unborn => ?_⟩
      · obtain ⟨d, found, kept⟩ := children e there
        cases found
        exact past.same kept.place kept.cproc
      · cases Life.kill_none unborn
  | @typed p child =>
      refine sound.step ((sound.parent.later rfl).same ⟨rfl, rfl, rfl⟩) ⟨rfl, by simp⟩
        (fun d there => ?_) fun unborn => Option.map_eq_none_iff.mp unborn
      obtain ⟨c, found, rfl⟩ := Option.map_eq_some_iff.mp there
      exact ⟨c, found, rfl, rfl⟩
  | parentInterrupted =>
      exact sound.step ((sound.parent.later rfl).same ⟨rfl, rfl, rfl⟩) ⟨rfl, by simp⟩
        (fun d there => ⟨d, there, rfl, rfl⟩) id
  | parentTerminated =>
      exact sound.step ((sound.parent.later rfl).same ⟨rfl, rfl, rfl⟩) ⟨rfl, by simp⟩
        (fun d there => ⟨d, there, rfl, rfl⟩) id
  | @childInterrupted p c =>
      refine sound.step (sound.parent.later rfl) ⟨rfl, by simp⟩ (fun d there => ?_) nofun
      cases there
      exact ⟨c, rfl, rfl, rfl⟩
  | @childTerminated p c =>
      refine sound.step (sound.parent.later rfl) ⟨rfl, by simp⟩ (fun d there => ?_) nofun
      cases there
      exact ⟨c, rfl, rfl, rfl⟩
  | @childStopped p c =>
      refine sound.step (sound.parent.later rfl) ⟨rfl, by simp⟩ (fun d there => ?_) nofun
      cases there
      exact ⟨c, rfl, rfl, rfl⟩

theorem Life.Sound.initial : Life.Sound [] Life.initial where
  parent :=
    ⟨fun _ => rfl, fun some => absurd some (numbered_nil _), fun _ => numbered_nil _,
      by simp [Life.initial, Parent.initial, ParentPlace.phase],
      by simp [Life.initial, Parent.initial],
      by simp [Life.initial, Parent.initial, ParentPlace.phase]⟩
  child := by simp [Life.initial]
  unborn _ := ⟨numbered_nil _, List.not_mem_nil⟩

theorem Life.Reaches.sound (run : Life.Reaches events life) : life.Sound events := by
  induction run with
  | refl => exact .initial
  | snoc _ step inductionHypothesis => exact step.sound inductionHypothesis

end Both

/-! ## Whom `kill` reaches -/

/-- Whom a process may send `SIGTERM` to after these events: all processes of the
user, if it was interrupted and has not assigned the result of a successful
`fork` to `cproc`; the parent else its child, and the child its whole group, if
it was interrupted before it ignored `SIGINT`. -/
inductive Targets (events : List Event) : Who → Int → Prop where
  | everyone {who : Who} : .interrupted who ∈ events → ¬ Numbered events who →
      Targets events who (-1)
  | child {pid : Nat} : 0 < pid → .forked pid ∈ events → .assigned .parent pid ∈ events →
      Targets events .parent pid
  | group : .interrupted .child ∈ events → .assigned .child 0 ∈ events → .ignored ∉ events →
      Targets events .child 0

/-- Every `kill` of every run, whenever and however often signals reach the two
processes, has its target by the rules of `Targets`. -/
theorem kill_targets {events : List Event} {who : Who} {target : Int} {life : Life}
    (run : Life.Reaches (events ++ [.killed who target]) life) : Targets events who target := by
  obtain ⟨before, past, last⟩ := run.snoc_inv
  have sound := Life.Reaches.sound past
  generalize same : Event.killed who target = event at last
  cases last with
  | @killed p child place =>
      cases same
      have assigned := sound.parent.late (by rw [place]; rfl)
      obtain ⟨pid, positive, forked, told, number⟩ := sound.parent.assigned assigned
      have number : p.cproc = pid := number
      rw [number]
      exact .child positive forked told
  | @handled p child place =>
      cases same
      by_cases assigned : Numbered events .parent
      · obtain ⟨pid, positive, forked, told, number⟩ := sound.parent.assigned assigned
        have number : p.cproc = pid := number
        rw [number]
        exact .child positive forked told
      · have number : p.cproc = -1 := sound.parent.unassigned assigned
        rw [number]
        exact .everyone (sound.parent.handling (by rw [place]; rfl)) assigned
  | @childHandled p c place =>
      cases same
      have child := sound.child c rfl
      have interrupted := child.handling (by rw [place]; rfl)
      by_cases assigned : Numbered events .child
      · obtain ⟨told, number⟩ := child.assigned assigned
        rw [number]
        exact .group interrupted told (child.inherits (by rw [place]; rfl))
      · rw [child.unassigned assigned]
        exact .everyone interrupted assigned
  | parent move => cases move <;> cases same
  | child move => cases move <;> cases same
  | _ => cases same

/-- The parent before `fork`. -/
def Parent.ready : Parent where
  place := .forking
  sockets := ⟨3, 4, 5⟩
  cproc := -1
  installed := true
  pending := .none
  relay := .initial

theorem started :
    Life.Reaches (List.replicate 7 .internal ++ [.installed]) ⟨Parent.ready, none⟩ :=
  have created {call : Startup} {result : Int} {sockets : Sockets} {cproc : Int}
      (valid : 0 ≤ result) :
      Life.Step ⟨⟨.creating call, sockets, cproc, false, .none, .initial⟩, none⟩ .internal
        ⟨⟨call.next.elim .installing .creating, call.store result sockets, cproc, false, .none,
          .initial⟩, none⟩ := .parent (.created rfl valid)
  .cons (created (show 0 ≤ (3 : Int) by decide)) (.cons (created (show 0 ≤ (0 : Int) by decide))
    (.cons (created (show 0 ≤ (0 : Int) by decide)) (.cons (created (show 0 ≤ (4 : Int) by decide))
    (.cons (created (show 0 ≤ (5 : Int) by decide)) (.cons (created (show 0 ≤ (0 : Int) by decide))
    (.cons (created (show 0 ≤ (0 : Int) by decide)) (.single (.parent (.installed rfl)))))))))

/-- The user types Ctrl + C when the child has just been made, or when `fork` has
just failed. -/
theorem kill_targets_everyone :
    (∃ events life, Life.Reaches (events ++ [.killed .parent (-1)]) life ∧ .forked 7 ∈ events ∧
      Targets events .parent (-1)) ∧
    ∃ events life, Life.Reaches (events ++ [.killed .parent (-1)]) life ∧
      .assigned .parent (-1) ∈ events ∧ Targets events .parent (-1) := by
  constructor
  · obtain ⟨life, run⟩ : ∃ life, Run Life.Step ⟨Parent.ready, none⟩
        ([.forked 7, .internal, .interrupted .parent] ++ [.killed .parent (-1)]) life :=
      ⟨_, .cons (.forked rfl (by decide)) (.cons .typed (.cons (.parent (.interrupted rfl rfl))
        (.single (.handled rfl))))⟩
    have whole := started.trans run
    rw [← List.append_assoc] at whole
    exact ⟨_, life, whole, by simp, kill_targets whole⟩
  · obtain ⟨life, run⟩ : ∃ life, Run Life.Step ⟨Parent.ready, none⟩
        ([.assigned .parent (-1), .internal, .interrupted .parent] ++ [.killed .parent (-1)])
          life :=
      ⟨_, .cons (.parent (.notForked rfl)) (.cons .typed (.cons (.parent (.interrupted rfl rfl))
        (.single (.handled rfl))))⟩
    have whole := started.trans run
    rw [← List.append_assoc] at whole
    exact ⟨_, life, whole, by simp, kill_targets whole⟩

end DAIM.Stage1
