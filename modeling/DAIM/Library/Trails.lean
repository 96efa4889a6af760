import Mathlib.Data.Fintype.EquivFin
import Mathlib.Data.List.Nodup
import Mathlib.Data.List.Count

/-!
# Trails of a flood

Nodes with ports, and links that join ports in pairs.  What comes in by a port
of a node may go out by each of its other ports, and no node remembers what it
has passed on.  When no trail from where the flood starts comes to a node twice,
all the trails to a node come in by one port, and every node passes on at most
one copy.
-/

namespace DAIM.Library

/-- Ports and the links between them; the flood starts at a port without a link. -/
structure Wiring (Node Port : Type*) where
  link : Node × Port → Option (Node × Port)
  symmetric : ∀ {here there}, link here = some there → link there = some here
  home : Node × Port
  unlinked : link home = none

namespace Wiring

variable {Node Port : Type*} (wiring : Wiring Node Port)

/-- A copy that came in at `here` may come in at `there` next. -/
def Hop (here there : Node × Port) : Prop :=
  ∃ port, port ≠ here.2 ∧ wiring.link (here.1, port) = some there

/-- The ports where a copy has come in, the last one first. -/
inductive Trail : List (Node × Port) → Prop where
  | start : Trail [wiring.home]
  | hop {here there : Node × Port} {rest : List (Node × Port)} :
      Trail (here :: rest) → wiring.Hop here there → Trail (there :: here :: rest)

/-- A trail leads to the port. -/
def Reachable (here : Node × Port) : Prop := ∃ rest, wiring.Trail (here :: rest)

/-- No trail comes to a node twice. -/
def LoopFree : Prop := ∀ trail, wiring.Trail trail → (trail.map Prod.fst).Nodup

variable {wiring} {here there : Node × Port} {rest trail : List (Node × Port)}

theorem Reachable.home : wiring.Reachable wiring.home := ⟨[], .start⟩

theorem Reachable.hop (reachable : wiring.Reachable here) (hop : wiring.Hop here there) :
    wiring.Reachable there := by
  obtain ⟨rest, earlier⟩ := reachable
  exact ⟨here :: rest, .hop earlier hop⟩

/-- Every trail has come in at the start. -/
theorem Trail.home_mem (walked : wiring.Trail trail) : wiring.home ∈ trail := by
  induction walked with
  | start => exact List.mem_cons_self
  | hop _ _ inductionHypothesis => exact List.mem_cons_of_mem _ inductionHypothesis

theorem Hop.linked (hop : wiring.Hop here there) : there ≠ wiring.home := by
  rintro rfl
  obtain ⟨port, -, linked⟩ := hop
  cases wiring.unlinked.symm.trans (wiring.symmetric linked)

/-- A trail with a node that occurs twice starts with one that closes its first loop. -/
theorem Trail.closes (walked : wiring.Trail trail) (repeats : ¬ (trail.map Prod.fst).Nodup) :
    ∃ here rest, wiring.Trail (here :: rest) ∧ here.1 ∈ rest.map Prod.fst ∧
      (rest.map Prod.fst).Nodup := by
  induction walked with
  | start => exact absurd (List.nodup_singleton _) repeats
  | @hop here there rest earlier hop inductionHypothesis =>
      by_cases already : ((here :: rest).map Prod.fst).Nodup
      · refine ⟨there, here :: rest, .hop earlier hop, ?_, already⟩
        by_contra fresh
        exact repeats (List.nodup_cons.mpr ⟨fresh, already⟩)
      · exact inductionHypothesis already

/-- A flood that can always go on walks in a loop, for there are finitely many nodes. -/
theorem not_loopFree_of_onward [Finite Node] {within : Node × Port → Prop}
    (begun : within wiring.home)
    (onward : ∀ here, within here → ∃ there, wiring.Hop here there ∧ within there) :
    ¬ wiring.LoopFree := by
  have walks (rounds : Nat) :
      ∃ here rest, wiring.Trail (here :: rest) ∧ within here ∧ rest.length = rounds := by
    induction rounds with
    | zero => exact ⟨_, [], .start, begun, rfl⟩
    | succ rounds inductionHypothesis =>
        obtain ⟨here, rest, walked, inside, long⟩ := inductionHypothesis
        obtain ⟨there, hop, still⟩ := onward here inside
        exact ⟨there, here :: rest, .hop walked hop, still, by simp [long]⟩
  intro free
  have finite : Fintype Node := Fintype.ofFinite Node
  obtain ⟨here, rest, walked, -, long⟩ := walks (Fintype.card Node)
  have short := (free _ walked).length_le_card
  simp only [List.length_map, List.length_cons, long] at short
  omega

/-! ## Without loops -/

/-- Two trails come to a node by the same port: otherwise the first one could go
on along the second one, back to the node where both of them started. -/
theorem LoopFree.port_eq (free : wiring.LoopFree) {first second : List (Node × Port)} {node : Node}
    {one other : Port} (left : wiring.Trail ((node, one) :: first))
    (right : wiring.Trail ((node, other) :: second)) : one = other := by
  by_contra different
  generalize same : (node, other) :: second = whole at right
  induction right generalizing node one other first second with
  | start =>
      have ends : (node, other) = wiring.home := (List.cons.inj same).1
      rcases List.mem_cons.mp left.home_mem with here | before
      · cases ends.trans here
        exact different rfl
      · have distinct := free _ left
        rw [List.map_cons, List.nodup_cons] at distinct
        rw [← ends] at before
        exact distinct.1 (List.mem_map.mpr ⟨_, before, rfl⟩)
  | @hop here there rest earlier hop inductionHypothesis =>
      cases same
      obtain ⟨port, leaves, linked⟩ := hop
      have back : wiring.Trail ((here.1, port) :: (node, one) :: first) :=
        .hop left ⟨other, Ne.symm different, wiring.symmetric linked⟩
      exact inductionHypothesis back leaves rfl

/-- The number of copies that each node passes on, when copies come from the
start and over links only. -/
theorem LoopFree.once [DecidableEq Node] [DecidableEq Port] (free : wiring.LoopFree)
    {passed : Node → List Port}
    (reachable : ∀ node, ∀ port ∈ passed node, wiring.Reachable (node, port))
    (started : (passed wiring.home.1).count wiring.home.2 ≤ 1)
    (arrived : ∀ here there, wiring.link there = some here →
      (passed here.1).count here.2 ≤ (passed there.1).countP (· ≠ there.2))
    (node : Node) : (passed node).length ≤ 1 := by
  have single {node : Node} {port : Port} (reached : wiring.Reachable (node, port)) :
      (passed node).count port = (passed node).length := by
    obtain ⟨rest, walked⟩ := reached
    rw [List.count_eq_length]
    intro other member
    obtain ⟨more, another⟩ := reachable node other member
    exact free.port_eq walked another
  have once {trail : List (Node × Port)} (walked : wiring.Trail trail) :
      ∀ here ∈ trail.head?, (passed here.1).length ≤ 1 := by
    induction walked with
    | start =>
        rintro here ⟨⟩
        rw [← single Reachable.home]
        exact started
    | @hop here there rest earlier hop inductionHypothesis =>
        rintro last ⟨⟩
        obtain ⟨port, leaves, linked⟩ := hop
        have reached : wiring.Reachable there := ⟨_, .hop earlier ⟨port, leaves, linked⟩⟩
        rw [← single reached]
        calc (passed there.1).count there.2
          _ ≤ (passed here.1).countP (· ≠ port) := arrived there (here.1, port) linked
          _ ≤ (passed here.1).length := List.countP_le_length
          _ ≤ 1 := inductionHypothesis here rfl
  cases chosen : passed node with
  | nil => exact Nat.zero_le 1
  | cons port others =>
      obtain ⟨rest, walked⟩ := reachable node port (chosen ▸ List.mem_cons_self)
      rw [← chosen]
      exact once walked _ rfl

end Wiring

end DAIM.Library
