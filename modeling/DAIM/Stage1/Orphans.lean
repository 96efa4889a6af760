import DAIM.Stage1.Signals

/-!
# The end of the two processes

A parent that calls `exit` leaves no child behind: it has sent `SIGTERM` to the
child before, and after an error it has waited for it as well.
-/

namespace DAIM.Stage1

open DAIM.Library

/-- The child can still go on as if nothing had happened. -/
def ChildPlace.going : ChildPlace → Bool
  | .assigning | .ignoring | .setting | .relaying => true
  | _ => false

/-- `SIGTERM` waits for the child, or the child is on its way to its end. -/
def Child.Ends (c : Child) : Prop := c.pending.term = true ∨ c.place.going = false

def Child.Gone (c : Child) : Prop := ∃ ending, c.place = .ended ending

/-- There is no child yet. -/
def ParentPlace.unborn : ParentPlace → Bool
  | .creating _ | .installing | .forking => true
  | _ => false

/-- The parent has sent `SIGTERM`, if there is a child. -/
def ParentPlace.told : ParentPlace → Bool
  | .waiting | .closing _ | .exiting _ | .ended (.exited _) => true
  | _ => false

/-- The parent is past an error, too. -/
def ParentPlace.failed : ParentPlace → Bool
  | .closing .error | .exiting .error => true
  | .ended (.exited status) => status == exitFailure
  | _ => false

/-- What is known of the child. -/
structure Child.Accounted (events : List Event) (p : Parent) (c : Child) : Prop where
  positive : 0 < c.pid
  born : p.place.unborn = false
  linked : p.cproc = -1 ∨ p.cproc = c.pid
  assigning : ∀ pid, p.place = .assigning pid → c.pid = pid
  ends : p.place.told = true → c.Ends
  gone : p.place.failed = true → c.Gone ∨ .stopped ∈ events
  changed : c.changed = true → .stopped ∈ events

section Steps

variable {events : List Event} {event : Event} {p q : Parent} {c d : Child}

theorem Child.Move.ends (move : c.Move event d) (ends : c.Ends) : d.Ends := by
  have going {place : ChildPlace} (here : c.place = place) (still : place.going = true) :
      c.pending.term = true := by
    rcases ends with told | stopped
    · exact told
    · rw [here] at stopped
      exact absurd (stopped.symm.trans still) (by decide)
  cases move with
  | assigned place => exact .inl (going place rfl)
  | ignored place => exact .inl (going place rfl)
  | set place => exact .inl (going place rfl)
  | relayed place _ => exact .inl (going place rfl)
  | discarded _ _ => exact ends
  | _ => exact .inr rfl

theorem Child.Move.not_gone (move : c.Move event d) : ¬ c.Gone := by
  rintro ⟨ending, ended⟩
  cases move with
  | interrupted _ handler =>
      unfold Child.onInt at handler
      rw [ended] at handler
      cases handler
  | discarded _ ignored =>
      unfold Child.onInt at ignored
      rw [ended] at ignored
      cases ignored
  | killedByTerm _ default =>
      unfold Child.onTerm at default
      rw [ended] at default
      cases default
  | terminated _ handler =>
      unfold Child.onTerm at handler
      rw [ended] at handler
      cases handler
  | assigned place => cases ended.symm.trans place
  | ignored place => cases ended.symm.trans place
  | set place => cases ended.symm.trans place
  | relayed place _ => cases ended.symm.trans place
  | broken place => cases ended.symm.trans place
  | closed place => cases ended.symm.trans place
  | exited place => cases ended.symm.trans place

theorem Child.Move.kept (move : c.Move event d) : d.pid = c.pid ∧ d.changed = c.changed := by
  cases move <;> exact ⟨rfl, rfl⟩

/-- The child moves. -/
theorem Child.Accounted.move (accounted : c.Accounted events p) (move : c.Move event d) :
    d.Accounted (events ++ [event]) p := by
  obtain ⟨pid, changed⟩ := move.kept
  constructor
  · rw [pid]
    exact accounted.positive
  · exact accounted.born
  · rw [pid]
    exact accounted.linked
  · rw [pid]
    exact accounted.assigning
  · exact fun told => move.ends (accounted.ends told)
  · intro failed
    rcases accounted.gone failed with gone | stopped
    · exact absurd gone move.not_gone
    · exact .inr (List.mem_append_left _ stopped)
  · rw [changed]
    exact fun here => List.mem_append_left _ (accounted.changed here)

/-- The parent goes to another place, where it knows no more of the child than before. -/
theorem Child.Accounted.goes (accounted : c.Accounted events p) (cproc : q.cproc = p.cproc)
    (born : q.place.unborn = false) (assigning : ∀ pid, q.place ≠ .assigning pid)
    (told : q.place.told = true → p.place.told = true)
    (failed : q.place.failed = true → p.place.failed = true) :
    c.Accounted (events ++ [event]) q where
  positive := accounted.positive
  born := born
  linked := cproc ▸ accounted.linked
  assigning pid here := absurd here (assigning pid)
  ends now := accounted.ends (told now)
  gone now := (accounted.gone (failed now)).imp id (List.mem_append_left _)
  changed here := List.mem_append_left _ (accounted.changed here)

theorem Child.Accounted.parent (accounted : c.Accounted events p) (move : p.Move event q) :
    c.Accounted (events ++ [event]) q := by
  have born {place : ParentPlace} (here : p.place = place) : place.unborn = false :=
    here ▸ accounted.born
  cases move with
  | created place _ => cases born place
  | notCreated place => cases born place
  | installed place => cases born place
  | notForked place => cases born place
  | @assigned pid place =>
      have number := accounted.assigning pid place
      exact ⟨accounted.positive, rfl, .inr (by rw [number]), by simp, by simp [ParentPlace.told],
        by simp [ParentPlace.failed], fun here => List.mem_append_left _ (accounted.changed here)⟩
  | @relayed round place _ =>
      cases (p.relay.relay round).exited with
      | true =>
          exact accounted.goes rfl rfl (by simp) (by simp [ParentPlace.told])
            (by simp [ParentPlace.failed])
      | false =>
          exact accounted.goes rfl rfl (by simp) (by simp [ParentPlace.told])
            (by simp [ParentPlace.failed])
  | @closed way place =>
      refine accounted.goes rfl rfl (by simp) (fun _ => by rw [place]; rfl) fun failed => ?_
      cases way with
      | error =>
          rw [place]
          rfl
      | _ => cases failed
  | @exited way place =>
      refine accounted.goes rfl rfl (by simp) (fun _ => by rw [place]; rfl) fun failed => ?_
      cases way with
      | error =>
          rw [place]
          rfl
      | _ => cases failed
  | _ =>
      exact accounted.goes rfl rfl (by simp) (by simp [ParentPlace.told])
        (by simp [ParentPlace.failed])

/-- Signals for one of the two, or for both. -/
theorem Child.Accounted.same (accounted : c.Accounted events p) (parent : p.Same q)
    (same : c.Same d) : d.Accounted events q where
  positive := same.pid ▸ accounted.positive
  born := parent.place ▸ accounted.born
  linked := by
    rw [same.pid, parent.cproc]
    exact accounted.linked
  assigning := by
    rw [same.pid, parent.place]
    exact accounted.assigning
  ends told := by
    rw [parent.place] at told
    exact (accounted.ends told).imp same.term fun stopped => by rw [same.place, stopped]
  gone failed := by
    rw [parent.place] at failed
    exact (accounted.gone failed).imp (fun ⟨ending, here⟩ => ⟨ending, same.place.trans here⟩) id
  changed here := accounted.changed (same.changed ▸ here)

theorem Child.Accounted.later (accounted : c.Accounted events p) :
    c.Accounted (events ++ [event]) p where
  positive := accounted.positive
  born := accounted.born
  linked := accounted.linked
  assigning := accounted.assigning
  ends := accounted.ends
  gone failed := (accounted.gone failed).imp id (List.mem_append_left _)
  changed here := List.mem_append_left _ (accounted.changed here)

/-- The parent has called `kill`. -/
theorem Child.Accounted.killed (accounted : c.Accounted events p) (same : c.Same d)
    (term : d.pending.term = true) (cproc : q.cproc = p.cproc) (born : q.place.unborn = false)
    (assigning : ∀ pid, q.place ≠ .assigning pid) (failed : q.place.failed = false) :
    d.Accounted (events ++ [event]) q where
  positive := same.pid ▸ accounted.positive
  born := born
  linked := by
    rw [same.pid, cproc]
    exact accounted.linked
  assigning pid here := absurd here (assigning pid)
  ends _ := .inl term
  gone now := absurd (failed.symm.trans now) (by decide)
  changed here := List.mem_append_left _ (accounted.changed (same.changed ▸ here))

end Steps

/-! ## Both processes -/

section Both

variable {events : List Event} {event : Event} {life next : Life}

/-- The parent's `kill` reaches the child, also as one of all processes. -/
theorem Life.kill_child {target : Int}
    (linked : ∀ c, life.child = some c → 0 < c.pid ∧ (target = -1 ∨ target = c.pid)) {d : Child}
    (there : (life.kill .parent target).child = some d) :
    ∃ c, life.child = some c ∧ c.Same d ∧ d.pending.term = true := by
  obtain ⟨c, found, same⟩ := (life.kill_same .parent target).2 d there
  refine ⟨c, found, same, ?_⟩
  obtain ⟨positive, number⟩ := linked c found
  unfold Life.kill at there
  rcases number with everyone | own
  · rw [if_pos everyone] at there
    obtain ⟨_, _, rfl⟩ := Option.map_eq_some_iff.mp there
    rfl
  · rw [if_neg (by omega), if_neg (by omega)] at there
    obtain ⟨other, here, rfl⟩ := Option.map_eq_some_iff.mp there
    cases found.symm.trans here
    simp only [own, if_true]
    rfl

def Life.Accounted (events : List Event) (life : Life) : Prop :=
  ∀ c, life.child = some c → c.Accounted events life.parent

/-- The parent calls `kill` and goes on. -/
theorem Life.Accounted.kill {p : Parent} {child : Option Child} {place : ParentPlace}
    (accounted : Life.Accounted events ⟨p, child⟩) (born : place.unborn = false)
    (assigning : ∀ pid, place ≠ .assigning pid) (failed : place.failed = false) :
    Life.Accounted (events ++ [event])
      (Life.kill ⟨{ p with place := place }, child⟩ .parent p.cproc) := by
  intro d there
  have linked (c : Child) (here : child = some c) :
      0 < c.pid ∧ (p.cproc = -1 ∨ p.cproc = c.pid) :=
    ⟨(accounted c here).positive, (accounted c here).linked⟩
  obtain ⟨c, found, same, term⟩ := Life.kill_child linked there
  obtain ⟨kept, -⟩ := Life.kill_same ⟨{ p with place := place }, child⟩ .parent p.cproc
  have next : d.Accounted (events ++ [event]) { p with place := place } :=
    (accounted c found).killed same term rfl born assigning failed
  exact next.same kept (.refl d)

theorem Life.Step.accounted (step : Life.Step life event next) (sound : life.Sound events)
    (accounted : life.Accounted events) : next.Accounted (events ++ [event]) := by
  cases step with
  | parent move => exact fun d there => (accounted d there).parent move
  | @child p c e _ move =>
      intro d there
      cases there
      exact (accounted c rfl).move move
  | @forked p pid place positive =>
      intro d there
      cases there
      have number := sound.parent.unassigned (sound.parent.early (by rw [place]; rfl))
      refine ⟨positive, rfl, .inl number, fun other here => ?_, nofun, nofun, nofun⟩
      cases here
      rfl
  | killed _ => exact accounted.kill rfl (by simp) rfl
  | handled _ => exact accounted.kill rfl (by simp) rfl
  | @waited p c place waited =>
      intro d there
      cases there
      have before := accounted c rfl
      have told := before.ends (by rw [place]; rfl)
      refine ⟨before.positive, rfl, before.linked, by simp, fun _ => told, fun _ => ?_, nofun⟩
      rcases waited with gone | changed
      · exact .inl gone
      · exact .inr (List.mem_append_left _ (before.changed changed))
  | @childHandled p c place =>
      intro d there
      obtain ⟨kept, children⟩ :=
        Life.kill_same ⟨p, some { c with place := .closing .interrupted }⟩ .child c.cproc
      obtain ⟨e, found, same⟩ := children d there
      cases found
      have before := accounted c rfl
      have moved : Child.Accounted (events ++ [.killed .child c.cproc]) p
          { c with place := .closing .interrupted } := by
        refine ⟨before.positive, before.born, before.linked, before.assigning, fun _ => .inr rfl,
          fun failed => ?_, fun changed => List.mem_append_left _ (before.changed changed)⟩
        rcases before.gone failed with ⟨ending, gone⟩ | stopped
        · cases place.symm.trans gone
        · exact .inr (List.mem_append_left _ stopped)
      exact moved.same kept same
  | @typed p child =>
      intro d there
      obtain ⟨c, found, rfl⟩ := Option.map_eq_some_iff.mp there
      exact (accounted c found).later.same ⟨rfl, rfl, rfl⟩ (.interrupt c)
  | parentInterrupted =>
      exact fun d there => (accounted d there).later.same ⟨rfl, rfl, rfl⟩ (.refl d)
  | parentTerminated =>
      exact fun d there => (accounted d there).later.same ⟨rfl, rfl, rfl⟩ (.refl d)
  | @childInterrupted p c =>
      intro d there
      cases there
      exact (accounted c rfl).later.same (.refl p) (.interrupt c)
  | @childTerminated p c =>
      intro d there
      cases there
      exact (accounted c rfl).later.same (.refl p) (.terminate c)
  | @childStopped p c =>
      intro d there
      cases there
      have before : c.Accounted (events ++ [.stopped]) p := (accounted c rfl).later
      exact ⟨before.positive, before.born, before.linked, before.assigning, before.ends,
        before.gone, fun _ => List.mem_append_right _ List.mem_cons_self⟩

theorem Life.Reaches.accounted (run : Life.Reaches events life) : life.Accounted events := by
  induction run with
  | refl => simp [Life.Accounted, Life.initial]
  | snoc earlier step inductionHypothesis =>
      exact step.accounted (Life.Reaches.sound earlier) inductionHypothesis

/-- When the parent has called `exit`, its child has ended, is about to, or will
be terminated by the signal that waits for it.  After a failure it has ended
already, unless it was stopped or continued in between. -/
theorem exit_leaves_no_child (run : Life.Reaches events life) {status : Int}
    (exited : life.parent.place = .ended (.exited status)) {c : Child}
    (there : life.child = some c) :
    c.Ends ∧ (status = exitFailure → c.Gone ∨ .stopped ∈ events) := by
  have accounted := Life.Reaches.accounted run c there
  refine ⟨accounted.ends ?_, fun failure => accounted.gone ?_⟩
  · rw [exited]
    rfl
  · rw [exited, failure]
    rfl

/-- The parent cannot read, and the child is terminated before it has a handler. -/
theorem exit_leaves_no_child_failed : ∃ events life c, Life.Reaches events life ∧
    life.parent.place = .ended (.exited exitFailure) ∧ life.child = some c ∧
    .stopped ∉ events ∧ c.Ends ∧ (exitFailure = exitFailure → c.Gone ∨ .stopped ∈ events) := by
  have possible : Round.Possible ⟨.failed, 0⟩ := nofun
  let child := Child.forked 7 Parent.ready
  let failed : Parent :=
    { Parent.ready with place := .killing, cproc := 7, relay := Relay.initial.relay ⟨.failed, 0⟩ }
  have fails : Run Life.Step ⟨Parent.ready, none⟩
      [.forked 7, .assigned .parent 7, .relayed .parent ⟨.failed, 0⟩] ⟨failed, some child⟩ :=
    .cons (.forked rfl (by decide)) (.cons (.parent (.assigned rfl))
      (.single (.parent (.relayed rfl possible))))
  have kills : Life.Step ⟨failed, some child⟩ (.killed .parent 7)
      ⟨{ failed with place := .waiting }, some child.terminate⟩ := .killed rfl
  let gone := { child.terminate with place := .ended (.killed .term) }
  have exits : Parent.Move { failed with place := .exiting .error }
      (.ended .parent (.exited Way.error.status))
      { failed with place := .ended (.exited Way.error.status) } := .exited rfl
  have ends : Run Life.Step ⟨{ failed with place := .waiting }, some child.terminate⟩
      [.ended .child (.killed .term), .internal, .closed .parent [],
        .ended .parent (.exited exitFailure)]
      ⟨{ failed with place := .ended (.exited exitFailure) }, some gone⟩ :=
    .cons (.child (.killedByTerm rfl rfl)) (.cons (.waited rfl (.inl ⟨_, rfl⟩))
      (.cons (.parent (.closed rfl)) (.single (.parent exits))))
  have run := (started.trans fails).trans (.cons kills ends)
  exact ⟨_, _, gone, run, rfl, rfl, by simp, exit_leaves_no_child run rfl rfl⟩

end Both

end DAIM.Stage1
