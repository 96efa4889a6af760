import DAIM.Stage1.Orphans

/-!
# The loops in the whole program

Whatever happens around them, the two loops relay as those of `Relay` do.
-/

namespace DAIM.Stage1

open DAIM.Library

def Who.direction : Who → Direction
  | .parent => .toController
  | .child => .toSwitch

def Event.round? : Event → Option (Direction × Round)
  | .relayed who round => some (who.direction, round)
  | _ => none

/-- The rounds of both loops in a history. -/
def rounds (events : List Event) : List (Direction × Round) := events.filterMap Event.round?

/-- What the child has relayed. -/
def Life.childRelay (life : Life) : Relay := (life.child.map Child.relay).getD .initial

/-- The parent has met no error of its loop. -/
def ParentPlace.unfailed : ParentPlace → Bool
  | .creating _ | .installing | .forking | .assigning _ | .relaying => true
  | _ => false

/-- No loop goes on behind an error. -/
structure Life.Going (life : Life) : Prop where
  parent : life.parent.place.unfailed = true → life.parent.relay.exited = false
  child : ∀ c, life.child = some c → c.place.going = true → c.relay.exited = false

section Steps

variable {event : Event} {life next : Life}

/-- A step is a round of one of the loops, or none. -/
inductive Relays (life : Life) : Event → Life → Prop where
  | parent {next : Life} {round : Round} : life.parent.relay.exited = false → round.Possible →
      next.parent.relay = life.parent.relay.relay round → next.childRelay = life.childRelay →
      Relays life (.relayed .parent round) next
  | child {next : Life} {round : Round} : life.childRelay.exited = false → round.Possible →
      next.parent.relay = life.parent.relay → next.childRelay = life.childRelay.relay round →
      Relays life (.relayed .child round) next
  | other {event : Event} {next : Life} : event.round? = none →
      next.parent.relay = life.parent.relay → next.childRelay = life.childRelay →
      Relays life event next

theorem Parent.Move.relays {p q : Parent} {child : Option Child} (move : p.Move event q)
    (going : Life.Going ⟨p, child⟩) : Relays ⟨p, child⟩ event ⟨q, child⟩ := by
  cases move with
  | relayed place possible => exact .parent (going.parent (by rw [place]; rfl)) possible rfl rfl
  | _ => exact .other rfl rfl rfl

theorem Parent.Move.going {p q : Parent} {child : Option Child} (move : p.Move event q)
    (going : Life.Going ⟨p, child⟩) : Life.Going ⟨q, child⟩ := by
  refine ⟨fun unfailed => ?_, going.child⟩
  have before {place : ParentPlace} (here : p.place = place) (still : place.unfailed = true) :
      p.relay.exited = false := going.parent (here ▸ still)
  cases move with
  | created place _ => exact before place rfl
  | installed place => exact before place rfl
  | assigned place => exact before place rfl
  | @relayed round place _ =>
      cases exited : (p.relay.relay round).exited with
      | true =>
          simp only [exited, if_true] at unfailed
          cases unfailed
      | false => rfl
  | _ => cases unfailed

theorem Child.Move.relays {p : Parent} {c d : Child} (move : c.Move event d)
    (going : Life.Going ⟨p, some c⟩) : Relays ⟨p, some c⟩ event ⟨p, some d⟩ := by
  cases move with
  | relayed place possible =>
      exact .child (going.child c rfl (by rw [place]; rfl)) possible rfl rfl
  | _ => exact .other rfl rfl rfl

theorem Child.Move.going {p : Parent} {c d : Child} (move : c.Move event d)
    (going : Life.Going ⟨p, some c⟩) : Life.Going ⟨p, some d⟩ := by
  refine ⟨going.parent, fun e there still => ?_⟩
  cases there
  have before {place : ChildPlace} (here : c.place = place) (goes : place.going = true) :
      c.relay.exited = false := going.child c rfl (here ▸ goes)
  cases move with
  | assigned place => exact before place rfl
  | ignored place => exact before place rfl
  | set place => exact before place rfl
  | @relayed round place _ =>
      cases exited : (c.relay.relay round).exited with
      | true =>
          simp only [exited, if_true] at still
          cases still
      | false => rfl
  | discarded _ _ => exact going.child c rfl still
  | _ => cases still

/-- The processes are where they were, or nearer to their ends. -/
theorem Life.Going.same (going : life.Going)
    (parent : next.parent.relay = life.parent.relay ∧
      (next.parent.place.unfailed = true → life.parent.place.unfailed = true))
    (child : ∀ d, next.child = some d → ∃ c, life.child = some c ∧ d.relay = c.relay ∧
      (d.place.going = true → c.place.going = true)) : next.Going where
  parent unfailed := by
    rw [parent.1]
    exact going.parent (parent.2 unfailed)
  child d there still := by
    obtain ⟨c, found, relay, kept⟩ := child d there
    rw [relay]
    exact going.child c found (kept still)

theorem Life.kill_childRelay (life : Life) (sender : Who) (target : Int) :
    (life.kill sender target).childRelay = life.childRelay := by
  have mapped {f : Child → Child} (same : ∀ c, (f c).relay = c.relay) :
      ((life.child.map f).map Child.relay).getD .initial = life.childRelay := by
    unfold Life.childRelay
    cases life.child with
    | none => rfl
    | some c => exact same c
  unfold Life.kill
  split
  · cases sender with
    | parent => exact mapped fun c => rfl
    | child => rfl
  · split
    · exact mapped fun c => rfl
    · refine mapped fun c => ?_
      split <;> rfl

theorem Life.Going.kill (going : life.Going) (sender : Who) (target : Int) :
    (life.kill sender target).Going := by
  obtain ⟨parent, children⟩ := life.kill_same sender target
  refine going.same ⟨parent.relay, fun unfailed => parent.place ▸ unfailed⟩ fun d there => ?_
  obtain ⟨c, found, same⟩ := children d there
  exact ⟨c, found, same.relay, fun still => same.place ▸ still⟩

theorem Life.Step.relays (step : Life.Step life event next) (going : life.Going) :
    Relays life event next ∧ next.Going := by
  cases step with
  | parent move => exact ⟨move.relays going, move.going going⟩
  | child move => exact ⟨move.relays going, move.going going⟩
  | @forked p pid place _ =>
      refine ⟨.other rfl rfl rfl, fun _ => going.parent (by rw [place]; rfl), fun c there _ => ?_⟩
      cases there
      rfl
  | @killed p child _ =>
      obtain ⟨same, -⟩ := Life.kill_same ⟨{ p with place := .waiting }, child⟩ .parent p.cproc
      have waits : Life.Going ⟨{ p with place := .waiting }, child⟩ := ⟨nofun, going.child⟩
      exact ⟨.other rfl same.relay (Life.kill_childRelay _ _ _), waits.kill _ _⟩
  | @handled p child _ =>
      obtain ⟨same, -⟩ :=
        Life.kill_same ⟨{ p with place := .closing .interrupted }, child⟩ .parent p.cproc
      have closes : Life.Going ⟨{ p with place := .closing .interrupted }, child⟩ :=
        ⟨nofun, going.child⟩
      exact ⟨.other rfl same.relay (Life.kill_childRelay _ _ _), closes.kill _ _⟩
  | @childHandled p c _ =>
      obtain ⟨same, -⟩ :=
        Life.kill_same ⟨p, some { c with place := .closing .interrupted }⟩ .child c.cproc
      have closes : Life.Going ⟨p, some { c with place := .closing .interrupted }⟩ :=
        ⟨going.parent, fun d there still => by cases there; cases still⟩
      exact ⟨.other rfl same.relay (Life.kill_childRelay _ _ _), closes.kill _ _⟩
  | @waited p c _ _ =>
      refine ⟨.other rfl rfl rfl, going.same ⟨rfl, nofun⟩ fun d there => ?_⟩
      cases there
      exact ⟨c, rfl, rfl, id⟩
  | @typed p child =>
      refine ⟨.other rfl rfl ?_, going.same ⟨rfl, id⟩ fun d there => ?_⟩
      · cases child <;> rfl
      · obtain ⟨c, found, rfl⟩ := Option.map_eq_some_iff.mp there
        exact ⟨c, found, rfl, id⟩
  | parentInterrupted =>
      exact ⟨.other rfl rfl rfl, going.same ⟨rfl, id⟩ fun d there => ⟨d, there, rfl, id⟩⟩
  | parentTerminated =>
      exact ⟨.other rfl rfl rfl, going.same ⟨rfl, id⟩ fun d there => ⟨d, there, rfl, id⟩⟩
  | @childInterrupted p c =>
      refine ⟨.other rfl rfl rfl, going.same ⟨rfl, id⟩ fun d there => ?_⟩
      cases there
      exact ⟨c, rfl, rfl, id⟩
  | @childTerminated p c =>
      refine ⟨.other rfl rfl rfl, going.same ⟨rfl, id⟩ fun d there => ?_⟩
      cases there
      exact ⟨c, rfl, rfl, id⟩
  | @childStopped p c =>
      refine ⟨.other rfl rfl rfl, going.same ⟨rfl, id⟩ fun d there => ?_⟩
      cases there
      exact ⟨c, rfl, rfl, id⟩

end Steps

/-! ## Runs -/

section Runs

variable {events : List Event} {event : Event} {life next : Life}

/-- A run of the two loops with the same rounds; the last round of the parent is
left out when it fails, because the child may go on for a while. -/
inductive Matches (events : List Event) (life : Life) : Prop where
  | going {labels : List (Direction × Round)} {s : Loops} : Run Step Loops.initial labels s →
      s.child = life.childRelay → s.parent = life.parent.relay →
      (∀ label, label ∈ rounds events ↔ label ∈ labels) → Matches events life
  | failed {labels : List (Direction × Round)} {s : Loops} {round : Round} :
      Run Step Loops.initial labels s → s.child = life.childRelay →
      s.parent.exited = false → round.Possible → life.parent.relay = s.parent.relay round →
      life.parent.relay.exited = true →
      (∀ label, label ∈ rounds events ↔ label ∈ labels ∨ label = (.toController, round)) →
      Matches events life

theorem mem_rounds_snoc {label : Direction × Round} :
    label ∈ rounds (events ++ [event]) ↔ label ∈ rounds events ∨ event.round? = some label := by
  simp [rounds]

theorem Matches.step (matched : Matches events life) (step : Relays life event next) :
    Matches (events ++ [event]) next := by
  cases step with
  | @other event next silent parent child =>
      have same (label : Direction × Round) :
          label ∈ rounds (events ++ [event]) ↔ label ∈ rounds events := by
        rw [mem_rounds_snoc, silent]
        simp
      cases matched with
      | going run own other members =>
          exact .going run (own.trans child.symm) (other.trans parent.symm)
            fun label => (same label).trans (members label)
      | failed run own before possible last exited members =>
          exact .failed run (own.trans child.symm) before possible (parent.trans last)
            (parent ▸ exited) fun label => (same label).trans (members label)
  | @child next round going possible parent child =>
      have new (label : Direction × Round) : label ∈ rounds (events ++ [.relayed .child round]) ↔
          label ∈ rounds events ∨ label = (.toSwitch, round) := by
        rw [mem_rounds_snoc]
        simp [Event.round?, Who.direction, eq_comm]
      cases matched with
      | @going labels s run own other members =>
          have moved := Run.snoc run (.child (own ▸ going) possible)
          refine .going moved (by rw [child, own]) (other.trans parent.symm) fun label => ?_
          rw [new, members]
          simp
      | @failed labels s last run own before allowed ends exited members =>
          have moved := Run.snoc run (.child (own ▸ going) possible)
          refine .failed moved (by rw [child, own]) before allowed (parent.trans ends)
            (parent ▸ exited) fun label => ?_
          rw [new, members]
          simp [or_assoc, or_comm, or_left_comm]
  | @parent next round going possible parent child =>
      have new (label : Direction × Round) : label ∈ rounds (events ++ [.relayed .parent round]) ↔
          label ∈ rounds events ∨ label = (.toController, round) := by
        rw [mem_rounds_snoc]
        simp [Event.round?, Who.direction, eq_comm]
      cases matched with
      | @going labels s run own other members =>
          cases ends : (life.parent.relay.relay round).exited with
          | true =>
              refine .failed run (own.trans child.symm) (other ▸ going) possible ?_ ?_
                fun label => ?_
              · rw [parent, other]
              · rw [parent, ends]
              · rw [new, members]
          | false =>
              have moved := Run.snoc run (.parent (other ▸ going) possible (other ▸ ends))
              refine .going moved (own.trans child.symm) (by rw [parent, other]) fun label => ?_
              rw [new, members]
              simp
      | failed _ _ _ _ _ exited _ => exact absurd (going.symm.trans exited) (by decide)

theorem Life.Reaches.matches (run : Life.Reaches events life) :
    Matches events life ∧ life.Going := by
  induction run with
  | refl =>
      refine ⟨.going .refl rfl rfl fun label => by simp [rounds], fun _ => rfl, ?_⟩
      simp [Life.initial]
  | snoc _ step inductionHypothesis =>
      obtain ⟨matched, going⟩ := inductionHypothesis
      obtain ⟨relays, still⟩ := step.relays going
      exact ⟨matched.step relays, still⟩

/-- In every run of the program the loops read and write what they do in some run
of `Relay` with the same rounds. -/
theorem loops_relay (run : Life.Reaches events life) :
    ∃ labels s, Run Step Loops.initial labels s ∧
      (s.parent.read = life.parent.relay.read ∧ s.parent.accepted = life.parent.relay.accepted) ∧
      (s.child.read = life.childRelay.read ∧ s.child.accepted = life.childRelay.accepted) ∧
      ∀ label, label ∈ rounds events ↔ label ∈ labels := by
  cases (Life.Reaches.matches run).1 with
  | going relayed child parent members =>
      exact ⟨_, _, relayed, parent ▸ ⟨rfl, rfl⟩, child ▸ ⟨rfl, rfl⟩, members⟩
  | @failed labels s round relayed child before possible last exited members =>
      have fails := Run.snoc relayed (.failed before possible (last ▸ exited))
      refine ⟨_, _, fails, last ▸ ⟨rfl, rfl⟩, child ▸ ⟨rfl, rfl⟩, fun label => ?_⟩
      rw [members]
      simp

/-- Also with all signals, what a process has written is what it has read exactly
as long as no `write` was short. -/
theorem written_iff (run : Life.Reaches events life) :
    (life.parent.relay.accepted = life.parent.relay.read ↔
        Whole .toController (rounds events)) ∧
      (life.childRelay.accepted = life.childRelay.read ↔ Whole .toSwitch (rounds events)) := by
  obtain ⟨labels, s, relayed, ⟨parentRead, parentWrote⟩, ⟨childRead, childWrote⟩, members⟩ :=
    loops_relay run
  have same (direction : Direction) :
      Whole direction (rounds events) ↔ Whole direction labels := by simp [Whole, members]
  have told (direction : Direction) :
      (s.relay direction).accepted = (s.relay direction).read ↔ Whole direction labels := by
    have tells := tells_run relayed direction
    refine ⟨fun all => ?_, tells.relayed⟩
    by_contra short
    exact absurd (congrArg List.length all) (Nat.ne_of_lt (tells.lost short))
  rw [same, same, ← told, ← told, ← parentRead, ← parentWrote, ← childRead, ← childWrote]
  exact ⟨Iff.rfl, Iff.rfl⟩

end Runs

end DAIM.Stage1
