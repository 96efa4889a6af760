import DAIM.Library.Trails

/-!
# Floods that die out

A flood has died out when every copy was passed on that had come to a node.
Then every trail was taken.  Along a trail the ports are not entered less and
less often, and where it closes a loop its last port would be entered more often
than itself: only a flood without loops can die out.
-/

namespace DAIM.Library

namespace Wiring

variable {Node Port : Type*}

section Drained

variable [DecidableEq Port]

/-- The copies that each node has passed on, by the port where they came in, when
no copy is left: the one from the start was passed on, and over every link as many
as had gone out at its other end. -/
structure Drained (wiring : Wiring Node Port) (passed : Node → List Port) : Prop where
  started : wiring.home.2 ∈ passed wiring.home.1
  arrived : ∀ here there, wiring.link there = some here →
    (passed there.1).countP (· ≠ there.2) ≤ (passed here.1).count here.2

/-- How often copies that came in by a port were passed on. -/
def entries (passed : Node → List Port) (here : Node × Port) : Nat :=
  (passed here.1).count here.2

/-- What came in by two other ports goes out by a port. -/
theorem count_add_count_le {ports : List Port} {out first second : Port} (one : first ≠ out)
    (other : second ≠ out) (different : first ≠ second) :
    ports.count first + ports.count second ≤ ports.countP (· ≠ out) := by
  induction ports with
  | nil => exact Nat.le_refl 0
  | cons port rest inductionHypothesis =>
      have both : ¬ (port = first ∧ port = second) := fun ⟨left, right⟩ =>
        different (left.symm.trans right)
      have leaves : port = first ∨ port = second → port ≠ out := by
        rintro (rfl | rfl)
        · exact one
        · exact other
      simp only [List.count_cons, List.countP_cons, beq_iff_eq, decide_eq_true_eq] at *
      split_ifs <;> first | omega | tauto

variable {wiring : Wiring Node Port} {passed : Node → List Port}
variable {here there : Node × Port} {trail : List (Node × Port)}

/-- A copy goes on to the next port of a trail. -/
theorem Drained.entries_le (drained : wiring.Drained passed) (hop : wiring.Hop here there) :
    entries passed here ≤ entries passed there := by
  obtain ⟨port, leaves, linked⟩ := hop
  calc (passed here.1).count here.2
    _ ≤ (passed here.1).countP (· ≠ port) := by
      apply List.countP_mono_left
      intro other _ same
      rw [beq_iff_eq.mp same]
      exact decide_eq_true (Ne.symm leaves)
    _ ≤ (passed there.1).count there.2 := drained.arrived there (here.1, port) linked

/-- Along a trail the ports are entered more and more often. -/
theorem Drained.trail_le (drained : wiring.Drained passed) (walked : wiring.Trail trail) :
    ∀ last ∈ trail.head?, ∀ other ∈ trail, entries passed other ≤ entries passed last := by
  induction walked with
  | start =>
      rintro last ⟨⟩ other member
      exact Nat.le_of_eq (congrArg _ (List.mem_singleton.mp member))
  | @hop here there rest earlier hop inductionHypothesis =>
      rintro last ⟨⟩ other member
      rcases List.mem_cons.mp member with rfl | before
      · exact Nat.le_refl _
      · exact Nat.le_trans (inductionHypothesis here rfl other before) (drained.entries_le hop)

/-- Every port that a trail leads to was entered. -/
theorem Drained.passes (drained : wiring.Drained passed) (reachable : wiring.Reachable here) :
    here.2 ∈ passed here.1 := by
  obtain ⟨rest, walked⟩ := reachable
  apply List.count_pos_iff.mp
  have started : 0 < entries passed wiring.home := List.count_pos_iff.mpr drained.started
  exact Nat.lt_of_lt_of_le started (drained.trail_le walked here rfl _ walked.home_mem)

end Drained

/-! ## Trees -/

/-- There are no loops where each node has a port towards the start, and every other
port leads to a node further away. -/
theorem LoopFree.of_depth {wiring : Wiring Node Port} {entry : Node → Port} {depth : Node → Nat}
    (home : wiring.home.2 = entry wiring.home.1)
    (away : ∀ here there, wiring.link here = some there → here.2 ≠ entry here.1 →
      there.2 = entry there.1 ∧ depth here.1 < depth there.1) : wiring.LoopFree := by
  intro trail walked
  suffices deeper : (trail.map Prod.fst).Pairwise (fun last before => depth before < depth last) ∧
      ∀ here ∈ trail.head?, here.2 = entry here.1 by
    apply deeper.1.imp
    rintro last before less rfl
    exact Nat.lt_irrefl _ less
  induction walked with
  | start =>
      refine ⟨List.pairwise_singleton _ _, ?_⟩
      rintro here ⟨⟩
      exact home
  | @hop here there rest earlier hop inductionHypothesis =>
      obtain ⟨deeper, entered⟩ := inductionHypothesis
      obtain ⟨port, leaves, linked⟩ := hop
      have other : port ≠ entry here.1 := entered here rfl ▸ leaves
      obtain ⟨onward, less⟩ := away (here.1, port) there linked other
      refine ⟨List.pairwise_cons.mpr ⟨fun node member => ?_, deeper⟩, ?_⟩
      · rcases List.mem_cons.mp member with rfl | before
        · exact less
        · exact Nat.lt_trans ((List.pairwise_cons.mp deeper).1 node before) less
      · rintro last ⟨⟩
        exact onward

/-! ## Loops -/

section Loops

variable {wiring : Wiring Node Port} {here there first : Node × Port}
variable {front after before rest trail : List (Node × Port)}

/-- A trail starts with a trail to each of its ports, and has gone on from there. -/
theorem Trail.cut (walked : wiring.Trail (front ++ first :: before)) :
    wiring.Trail (first :: before) ∧ (front = [] ∨ ∃ next ∈ front, wiring.Hop first next) := by
  induction front with
  | nil => exact ⟨walked, .inl rfl⟩
  | cons last front inductionHypothesis =>
      cases front with
      | nil =>
          cases walked with
          | hop earlier hop => exact ⟨earlier, .inr ⟨last, List.mem_cons_self, hop⟩⟩
      | cons here front =>
          cases walked with
          | hop earlier _ =>
              obtain ⟨begun, none | ⟨next, member, hop⟩⟩ := inductionHypothesis earlier
              · cases none
              · exact ⟨begun, .inr ⟨next, List.mem_cons_of_mem _ member, hop⟩⟩

/-- What comes in by a port comes from the port that it is linked to. -/
theorem Hop.back (hop : wiring.Hop here there) :
    ∃ port, port ≠ here.2 ∧ wiring.link there = some (here.1, port) := by
  obtain ⟨port, leaves, linked⟩ := hop
  exact ⟨port, leaves, wiring.symmetric linked⟩

/-- A trail that comes back to a node comes in by a port where it neither came in
before, at `first`, nor went out. -/
theorem Trail.closing_port (apart : ∀ port, wiring.link port ≠ some port)
    (walked : wiring.Trail (here :: (after ++ first :: before)))
    (distinct : ((after ++ first :: before).map Prod.fst).Nodup) (again : here.1 = first.1)
    {next : Node × Port} (passed : next ∈ here :: after) {out : Port}
    (linked : wiring.link (first.1, out) = some next) : here.2 ≠ out ∧ first.2 ≠ here.2 := by
  have one {left right : Node × Port} (inLeft : left ∈ after ++ first :: before)
      (inRight : right ∈ after ++ first :: before) (same : left.1 = right.1) : left = right :=
    List.inj_on_of_nodup_map distinct inLeft inRight same
  -- the port that the trail comes back from
  obtain ⟨last, recent, port, leaves, back⟩ : ∃ last ∈ after ++ [first],
      ∃ port, port ≠ last.2 ∧ wiring.link here = some (last.1, port) := by
    cases after with
    | nil =>
        cases walked with
        | hop _ hop => exact ⟨first, List.mem_cons_self, hop.back⟩
    | cons last after =>
        cases walked with
        | hop _ hop => exact ⟨last, List.mem_cons_self, hop.back⟩
  have onTrail : last ∈ after ++ first :: before := by
    rw [List.append_cons]
    exact List.mem_append_left before recent
  constructor
  · -- by the port where it went out it would come from `next`, by where it came to `next`
    rintro rfl
    rw [← again] at linked
    have isNext : (last.1, port) = next := Option.some.inj (back.symm.trans linked)
    rcases List.mem_cons.mp passed with isHere | inside
    · exact apart here (back.trans (congrArg some (isNext.trans isHere)))
    · have same := one (List.mem_append_left _ inside) onTrail (by rw [← isNext])
      exact leaves (congrArg Prod.snd (isNext.trans same))
  · -- by the port where it came in before it would come from the same node as then
    intro same
    have whole : wiring.Trail ((here :: after) ++ first :: before) := walked
    have entered := whole.cut.1
    have isHere : first = here := Prod.ext again.symm same
    cases entered with
    | start => cases wiring.unlinked.symm.trans ((congrArg wiring.link isHere).trans back)
    | @hop origin _ older _ hop =>
        obtain ⟨other, -, origins⟩ := hop.back
        have joined : (last.1, port) = (origin.1, other) := Option.some.inj
          (back.symm.trans ((congrArg wiring.link isHere).symm.trans origins))
        have isOrigin : last = origin := one onTrail (by simp) (Prod.mk.inj joined).1
        have listed := distinct.of_map
        rw [List.append_cons] at listed
        exact (List.nodup_append.mp listed).2.2 last recent origin List.mem_cons_self isOrigin

end Loops

/-- Only a flood without loops dies out. -/
theorem Drained.loopFree [DecidableEq Port] {wiring : Wiring Node Port} {passed : Node → List Port}
    (drained : wiring.Drained passed) (apart : ∀ port, wiring.link port ≠ some port) :
    wiring.LoopFree := by
  intro trail walked
  by_contra repeats
  obtain ⟨here, rest, closed, again, distinct⟩ := walked.closes repeats
  obtain ⟨first, member, same⟩ := List.mem_map.mp again
  obtain ⟨after, before, rfl⟩ := List.append_of_mem member
  have whole : wiring.Trail ((here :: after) ++ first :: before) := closed
  obtain ⟨walkedFirst, none | ⟨next, between, out, leaves, linked⟩⟩ := whole.cut
  · cases none
  obtain ⟨notOut, notFirst⟩ := closed.closing_port apart distinct same.symm between linked
  have entered : 0 < entries passed first :=
    List.count_pos_iff.mpr (drained.passes ⟨before, walkedFirst⟩)
  have onward : entries passed first + entries passed here ≤ entries passed here :=
    calc entries passed first + entries passed here
      _ = (passed first.1).count first.2 + (passed first.1).count here.2 := by
        rw [entries, entries, same]
      _ ≤ (passed first.1).countP (· ≠ out) :=
        count_add_count_le (Ne.symm leaves) notOut notFirst
      _ ≤ entries passed next := drained.arrived next (first.1, out) linked
      _ ≤ entries passed here := by
        apply drained.trail_le closed here rfl next
        exact List.mem_append_left (first :: before) between
  omega

end Wiring

end DAIM.Library
