import Mathlib.Algebra.BigOperators.Group.Finset.Piecewise
import Mathlib.Algebra.Order.BigOperators.Group.Finset
import Mathlib.Data.Fintype.EquivFin
import DAIM.Library.Drains
import DAIM.Network.Lossless
import DAIM.Network.Loops

/-!
# Broadcasts that die out

When the controllers drop nothing, every copy of a broadcast ARP frame is flooded
where it comes in.  A broadcast that has died out was flooded by every controller
that a trail leads to; each of them knows the host that has asked, and the
entries lead back to it.  It can die out exactly when no trail closes a loop.
-/

namespace DAIM.Network

open DAIM.Library DAIM.OpenFlow DAIM.Linked DAIM.Com DAIM.Hosts DAIM.Ani41

variable {Switch : Type*}

/-- No copy is left: none is in flight, none has still to be worked on by a
controller, and none has still to be sent out by a switch. -/
structure Traffic.Spent (traffic : Traffic Switch) : Prop where
  flying : ∀ copy ∈ traffic.flying, ¬ AsksAll copy.2
  told : ∀ s, ∀ message ∈ (traffic.sites s).inbox ++ (traffic.sites s).chunk, ∀ inPort copy,
    message.about = some (inPort, copy) → ¬ AsksAll copy
  sent : ∀ s, ∀ sent ∈ (traffic.sites s).outbox, floodPort sent.bytes = none

variable [DecidableEq Switch] {cabling : Cabling Switch} {home : Port Switch} {frame : Frame}
variable {traffic : Traffic Switch} {acts : List (Act Switch)} {cbench : Switch → Bool}

/-! ## No copy is lost -/

/-- The copy of the host has come in or will come in, and so have all that the switches
have flooded. -/
structure Traffic.Conserved (cabling : Cabling Switch) (home : Port Switch)
    (acts : List (Act Switch)) (traffic : Traffic Switch) : Prop where
  started : 1 ≤ traffic.aloft home + traffic.arrived acts home
  linked : ∀ here there, cabling.link there = some here →
    (floods there.1 acts).countP (· ≠ there.2) ≤
      traffic.aloft here + traffic.arrived acts here + (traffic.sites there.1).pending there.2

theorem Traffic.Conserved.site (conserved : traffic.Conserved cabling home acts)
    {others : List (Port Switch × Frame)} {s : Switch} {incoming : Option (UInt16 × Frame)}
    {out : List (UInt16 × Frame)} {event : Option Event} {next : Site}
    (unlinked : cabling.link home = none)
    (split : traffic.flying.Perm
      (others ++ incoming.toList.map fun copy => ((s, copy.1), copy.2)))
    (conserves : (traffic.sites s).Conserves (cabling.ports s) incoming out event next) :
    Traffic.Conserved cabling home (acts ++ [event.map (s, ·)])
      ⟨Function.update traffic.sites s next, others ++ cabling.arrivals s out⟩ := by
  have remains := Traffic.aloft_of_perm split
  have worked (here : Port Switch) :
      (traffic.sites here.1).waiting here.2 +
          (if s = here.1 then incoming.toList.countP (asking here.2) else 0) ≤
        (Function.update traffic.sites s next here.1).waiting here.2 +
          (if s = here.1 then eventFloods event else []).count here.2 := by
    by_cases same : s = here.1
    · subst same
      simpa using conserves.worked here.2
    · simp [same, Function.update_of_ne (Ne.symm same)]
  have sent {here there : Port Switch} (linked : cabling.link there = some here) :
      (traffic.sites there.1).pending there.2 +
          (if s = there.1 then eventFloods event else []).countP (· ≠ there.2) ≤
        (if s = there.1 then out.countP (asking there.2) else 0) +
          (Function.update traffic.sites s next there.1).pending there.2 := by
    by_cases same : s = there.1
    · subst same
      simpa using conserves.sent there.2 (cabling.cabled linked)
    · simp [same, Function.update_of_ne (Ne.symm same)]
  constructor
  · have before := conserved.started
    have arrivals := countP_arrivals_unlinked unlinked s out
    have now := worked home
    have was := remains home
    unfold Traffic.aloft Traffic.arrived at *
    rw [floods_append, List.count_append, List.countP_append]
    simp only at *
    omega
  · intro here there linked
    have before := conserved.linked here there linked
    have arrivals := countP_arrivals linked s out
    have now := worked here
    have was := remains here
    have gone := sent linked
    unfold Traffic.aloft Traffic.arrived at *
    rw [floods_append, floods_append, List.count_append, List.countP_append, List.countP_append]
    simp only at *
    omega

theorem Traffic.conserved_initial (asked : cabling.Asked home frame) (cbench : Switch → Bool) :
    (Traffic.initial cbench home frame).Conserved cabling home [] where
  started := by
    have one : Traffic.aloft (Traffic.initial cbench home frame) home = 1 := by
      simp [Traffic.aloft, Traffic.initial, askingAt, asked.asks]
    omega
  linked := fun here there _ => Nat.zero_le _

theorem Traffic.Reaches.conserved (asked : cabling.Asked home frame)
    (run : Traffic.Reaches cabling cbench home frame acts traffic)
    (careful : Careful cbench acts) : traffic.Conserved cabling home acts := by
  have unlinked := cabling.hostPort asked.attached
  induction run with
  | refl => exact Traffic.conserved_initial asked cbench
  | @snoc acts middle finish act earlier step inductionHypothesis =>
      have before := inductionHypothesis careful.left
      have flooded := Traffic.Reaches.flooded asked earlier
      have kept := Traffic.Reaches.kept asked earlier careful.left
      cases step with
      | @arrived front back s inPort reported out event site split step =>
          obtain ⟨todo, owes⟩ := kept.owes s
          apply before.site unlinked _ (step.conserves (flooded.sites s) owes)
          rw [split]
          simpa using List.perm_middle.trans (List.perm_append_singleton _ _).symm
      | @worked s out event site step =>
          obtain ⟨todo, owes⟩ := kept.owes s
          apply before.site unlinked _ (step.conserves (flooded.sites s) owes)
          simp
      | @answered here answer attached arp unicast =>
          have unasked : ¬ AsksAll answer := fun asks => unicast asks.2
          have aloft (there : Port Switch) :
              Traffic.aloft { middle with flying := middle.flying ++ [(here, answer)] } there =
                middle.aloft there := by
            simp [Traffic.aloft, askingAt, unasked]
          have same (s : Switch) : floods s (acts ++ [none]) = floods s acts := by simp [floods]
          constructor
          · rw [aloft, Traffic.arrived, same]
            exact before.started
          · intro there other linked
            rw [aloft, Traffic.arrived, same, same]
            exact before.linked there other linked

/-! ## When no copy is left -/

theorem Traffic.Spent.aloft (spent : traffic.Spent) (here : Port Switch) :
    traffic.aloft here = 0 := by
  unfold Traffic.aloft
  rw [List.countP_eq_zero]
  exact fun copy member asks => spent.flying copy member (of_decide_eq_true asks).2

omit [DecidableEq Switch] in
theorem Traffic.Spent.waiting (spent : traffic.Spent) (s : Switch) (port : UInt16) :
    (traffic.sites s).waiting port = 0 := by
  unfold Site.waiting
  rw [List.countP_eq_zero]
  intro message member asks
  obtain ⟨copy, about, isAsking⟩ := Option.any_eq_true _ _ |>.mp asks
  exact spent.told s message member copy.1 copy.2 about (of_decide_eq_true isAsking).2

omit [DecidableEq Switch] in
theorem Traffic.Spent.pending (spent : traffic.Spent) (s : Switch) (port : UInt16) :
    (traffic.sites s).pending port = 0 := by
  unfold Site.pending
  rw [List.countP_eq_zero]
  intro sent member pends
  unfold Sent.pends at pends
  rw [spent.sent s sent member] at pends
  cases pends

/-- All copies that came to a controller were flooded by it. -/
theorem Traffic.Spent.drained (spent : traffic.Spent) (asked : cabling.Asked home frame)
    (run : Traffic.Reaches cabling cbench home frame acts traffic)
    (careful : Careful cbench acts) : asked.wiring.Drained fun s => floods s acts := by
  have conserved := run.conserved asked careful
  constructor
  · have started := conserved.started
    unfold Traffic.arrived at started
    rw [spent.aloft, spent.waiting] at started
    apply List.count_pos_iff.mp
    show 0 < (floods home.1 acts).count home.2
    omega
  · intro here there linked
    have bound := conserved.linked here there linked
    unfold Traffic.arrived at bound
    rw [spent.aloft, spent.waiting, spent.pending] at bound
    omega

/-- No controller fails to enter a host. -/
def Allocates (acts : List (Act Switch)) : Prop :=
  ∀ s call, some (s, Event.handled call) ∈ acts → call.env.allocated 0 = true

omit [DecidableEq Switch] in
theorem Allocates.left {more : List (Act Switch)} (allocates : Allocates (acts ++ more)) :
    Allocates acts :=
  fun s call handled => allocates s call (List.mem_append_left _ handled)

/-- The entries of the controllers for an address. -/
def Traffic.hop (traffic : Traffic Switch) (mac : Mac) (s : Switch) : Option UInt16 :=
  entryPort (traffic.sites s).controller.ani.hosts.contents mac

/-- The entries of the larger network are the same. -/
theorem Within.hop {net : Net Switch Process} (within : Within frame acts traffic net) (mac : Mac) :
    net.hop mac = traffic.hop mac := by
  funext s
  unfold Net.hop Net.hosts Traffic.hop
  rw [within.controllers s]

/-- The larger network keeps its invariant: entries lead home. -/
theorem Traffic.Reaches.traced (asked : cabling.Asked home frame)
    (run : Traffic.Reaches cabling cbench home frame acts traffic)
    (careful : Careful cbench acts) (allocates : Allocates acts) :
    ∃ net, Traced cabling.toTopology net ∧ Within frame acts traffic net := by
  obtain ⟨labels, net, reaches, same, within⟩ := run.within asked careful
  have done {s : Switch} {event : Event} (member : Label.controller s event ∈ labels) :
      some (s, event) ∈ acts := by
    have inActs : (s, event) ∈ acts.reduceOption := by
      rw [← same]
      exact List.mem_filterMap.mpr ⟨_, member, rfl⟩
    exact List.reduceOption_mem_iff.mp inActs
  refine ⟨net, DAIM.Network.Reaches.traced reaches ?_ ?_, within⟩
  · exact fun s lost => careful.lasting s (done lost)
  · exact fun s call handled => allocates s call (done handled)

/-- A controller that has flooded the frame knows the way back to its sender. -/
theorem Traffic.Reaches.knows (asked : cabling.Asked home frame)
    (run : Traffic.Reaches cabling cbench home frame acts traffic)
    (careful : Careful cbench acts) (allocates : Allocates acts) {s : Switch} {port : UInt16}
    (flooded : port ∈ floods s acts) :
    ∃ path, Route cabling.link (traffic.hop (frameSrc frame)) home s path := by
  obtain ⟨net, traced, within⟩ := run.traced asked careful allocates
  obtain ⟨sent, told, about⟩ := within.flooded s port flooded
  have entered := (traced.outbox s sent told).about port frame about asked.asks.1
  obtain ⟨attachedAt, path, attached, route⟩ := traced.routes (frameSrc frame) s entered
  cases asked.attached.symm.trans attached
  exact ⟨path, within.hop (frameSrc frame) ▸ route⟩

/-- When no copy of a request is left, no trail has closed a loop.  Every controller that a
trail leads to has flooded the request once, as it came in, and its entry for the host
starts a route back to it; all other controllers have flooded nothing. -/
theorem spent_reaches_everyone (asked : cabling.Asked home frame)
    (run : Traffic.Reaches cabling cbench home frame acts traffic)
    (careful : Careful cbench acts) (allocates : Allocates acts)
    (apart : ∀ port, cabling.link port ≠ some port) (spent : traffic.Spent) (s : Switch) :
    (∀ port, asked.wiring.Reachable (s, port) → floods s acts = [port] ∧
      ∃ path, Route cabling.link (traffic.hop (frameSrc frame)) home s path) ∧
      ((∀ port, ¬ asked.wiring.Reachable (s, port)) → floods s acts = []) := by
  have drained := spent.drained asked run careful
  constructor
  · intro port reachable
    have flooded : port ∈ floods s acts := drained.passes reachable
    have once := run.floods_once asked (drained.loopFree apart) s
    refine ⟨?_, run.knows asked careful allocates flooded⟩
    obtain ⟨only, same⟩ := List.length_eq_one_iff.mp
      (Nat.le_antisymm once (List.length_pos_of_mem flooded))
    rw [same] at flooded ⊢
    rw [List.mem_singleton.mp flooded]
  · intro unreached
    rw [List.eq_nil_iff_forall_not_mem]
    intro port flooded
    exact unreached port ((run.flooded asked).reached s port flooded)

/-! ## Dying out -/

omit [DecidableEq Switch] in
/-- What is calm drops nothing, and enters every host. -/
theorem careful_of_calm {acts : List (Act Switch)}
    (calm : ∀ s event, some (s, event) ∈ acts → Calm event) (cbench : Switch → Bool) :
    Careful cbench acts ∧ Allocates acts := by
  refine ⟨⟨fun s lost => calm s _ lost, fun s chunk received _ => calm s _ received⟩, ?_⟩
  intro s call handled
  have isCalm : call.env = .calm := calm s _ handled
  rw [isCalm]
  rfl

/-- Without loops, the copies of a request come in at idle switches until none is left.
Nothing but copies of it is put on links. -/
theorem Traffic.Reaches.settles [Fintype Switch] (asked : cabling.Asked home frame)
    (free : asked.wiring.LoopFree) (run : Traffic.Reaches cabling cbench home frame acts traffic)
    (calm : ∀ s event, some (s, event) ∈ acts → Calm event) (idle : traffic.Idle) :
    ∃ more later, Traffic.Reaches cabling cbench home frame (acts ++ more) later ∧
      (∀ s event, some (s, event) ∈ acts ++ more → Calm event) ∧ later.Spent ∧ later.Idle ∧
      ∀ copy ∈ later.flying, copy ∈ traffic.flying ∨ copy.2 = frame := by
  -- every copy that comes in is one more flood, of which there is at most one for each switch
  generalize left : Fintype.card Switch - ∑ s, (floods s acts).length = count
  induction count using Nat.strong_induction_on generalizing acts traffic with
  | _ count inductionHypothesis =>
  by_cases aloft : ∃ copy ∈ traffic.flying, AsksAll copy.2
  · obtain ⟨⟨here, copy⟩, member, asks⟩ := aloft
    have isCopy : copy = frame :=
      (run.kept asked (careful_of_calm calm cbench).1).copies.flying _ member asks
    rw [isCopy] at member
    obtain ⟨more, later, onward, still, -, sent, isCalm, flown⟩ :=
      (run.flooded asked).passes idle member
    have both : ∀ s event, some (s, event) ∈ acts ++ more → Calm event := by
      intro s event inBoth
      exact (List.mem_append.mp inBoth).elim (calm s event) (isCalm s event)
    have whole : Traffic.Reaches cabling cbench home frame (acts ++ more) later :=
      run.trans onward
    have more_floods : ∑ s, (floods s (acts ++ more)).length =
        ∑ s, (floods s acts).length + 1 := by
      have each (s : Switch) : (floods s (acts ++ more)).length =
          (floods s acts).length + if here.1 = s then 1 else 0 := by
        unfold floods at *
        rw [List.flatMap_append, List.length_append, sent s]
        split <;> rfl
      simp only [each, Finset.sum_add_distrib, Finset.sum_ite_eq, Finset.mem_univ, if_true]
    have bounded : ∑ s, (floods s (acts ++ more)).length ≤ Fintype.card Switch :=
      calc ∑ s, (floods s (acts ++ more)).length
        _ ≤ ∑ _s : Switch, 1 := Finset.sum_le_sum fun s _ => whole.floods_once asked free s
        _ = Fintype.card Switch := by simp
    obtain ⟨rest, last, finish, quiet, spent, rests, flew⟩ :=
      inductionHypothesis _ (by omega) whole both still rfl
    refine ⟨more ++ rest, last, ?_, ?_, spent, rests, fun copy member => ?_⟩
    · rwa [← List.append_assoc]
    · rwa [← List.append_assoc]
    · exact (flew copy member).elim (flown copy) .inr
  · refine ⟨[], traffic, by rwa [List.append_nil], by rwa [List.append_nil], ⟨?_, ?_, ?_⟩, idle,
      fun copy => .inl⟩
    · exact fun copy member asks => aloft ⟨copy, member, asks⟩
    · intro s message member
      rw [(idle s).inbox, (idle s).chunk] at member
      cases member
    · intro s sent member
      rw [(idle s).outbox] at member
      cases member

/-- From the start, until nothing is left but copies at hosts. -/
theorem Traffic.settled [Fintype Switch] (asked : cabling.Asked home frame)
    (free : asked.wiring.LoopFree) (cbench : Switch → Bool) :
    ∃ acts traffic, Traffic.Reaches cabling cbench home frame acts traffic ∧
      (∀ s event, some (s, event) ∈ acts → Calm event) ∧ traffic.Idle ∧ traffic.Spent ∧
      ∀ copy ∈ traffic.flying, copy.2 = frame := by
  obtain ⟨acts, traffic, run, calm, spent, idle, flown⟩ := Traffic.Reaches.settles asked free .refl
    (fun _ _ impossible => absurd impossible List.not_mem_nil)
    fun s => ⟨waits_initial (cbench s), rfl, rfl, rfl⟩
  refine ⟨_, traffic, run, calm, idle, spent, fun copy member => ?_⟩
  exact (flown copy member).elim (fun old => congrArg Prod.snd (List.mem_singleton.mp old)) id

/-- When no copy is left, every controller that a trail leads to has flooded the request,
and knows the host that has sent it. -/
theorem Traffic.Spent.knows (spent : traffic.Spent) (asked : cabling.Asked home frame)
    (run : Traffic.Reaches cabling cbench home frame acts traffic) (careful : Careful cbench acts)
    (allocates : Allocates acts) {s : Switch} {port : UInt16}
    (reachable : asked.wiring.Reachable (s, port)) :
    port ∈ floods s acts ∧ (traffic.hop (frameSrc frame) s).isSome := by
  have flooded := (spent.drained asked run careful).passes reachable
  obtain ⟨path, route⟩ := Traffic.Reaches.knows asked run careful allocates flooded
  refine ⟨flooded, ?_⟩
  cases route with
  | arrive onward _ => exact Option.isSome_iff_exists.mpr ⟨_, onward⟩
  | step onward _ _ _ => exact Option.isSome_iff_exists.mpr ⟨_, onward⟩

/-- A broadcast can die out, with nothing dropped, if and only if no trail of the
flood closes a loop. -/
theorem dies_out_iff [Finite Switch] (asked : cabling.Asked home frame) (cbench : Switch → Bool)
    (apart : ∀ port, cabling.link port ≠ some port) :
    (∃ acts traffic, Traffic.Reaches cabling cbench home frame acts traffic ∧
      Careful cbench acts ∧ traffic.Spent) ↔ asked.wiring.LoopFree := by
  constructor
  · rintro ⟨acts, traffic, run, careful, spent⟩
    exact (spent.drained asked run careful).loopFree apart
  · intro free
    have finite : Fintype Switch := Fintype.ofFinite Switch
    obtain ⟨acts, traffic, run, calm, -, spent, -⟩ := Traffic.settled asked free cbench
    exact ⟨acts, traffic, run, (careful_of_calm calm cbench).1, spent⟩

/-! ## Networks of the scripts -/

/-- Every host of the tree can ask. -/
theorem tree_asks : ∀ host ∈ treePlan.hosts, tree.Asked host.2 (hostQuery host.1) := by decide

theorem tree_asked : tree.Asked (3, 3) scriptRequest := tree_asks (scriptHost 1, (3, 3)) (by decide)

/-- The port of a switch of the tree that leads to a host at s4, s5, s6 or s7. -/
def treeEntry (home : Port (Fin 7)) (s : Fin 7) : UInt16 :=
  match s.val, home.1.val with
  | 0, 3 | 0, 4 => 1
  | 0, _ => 2
  | 1, 3 | 2, 5 => 1
  | 1, 4 | 2, 6 => 2
  | 1, _ | 2, _ => 3
  | leaf, here => if leaf = here then home.2 else 1

/-- How many cables are between a switch of the tree and the host. -/
def treeDepth (home : Port (Fin 7)) (s : Fin 7) : Nat :=
  match home.1.val with
  | 3 => [2, 1, 3, 0, 2, 4, 4].getD s.val 0
  | 4 => [2, 1, 3, 2, 0, 4, 4].getD s.val 0
  | 5 => [2, 3, 1, 4, 4, 0, 2].getD s.val 0
  | _ => [2, 3, 1, 4, 4, 2, 0].getD s.val 0

/-- In the tree a frame goes up, and then down and away from its host. -/
theorem tree_loopFree {home : Port (Fin 7)} {frame : Frame} (asked : tree.Asked home frame) :
    asked.wiring.LoopFree := by
  have entered : ∀ host ∈ treePlan.hosts, host.2.2 = treeEntry host.2 host.2.1 := by decide
  have away : ∀ host ∈ treePlan.hosts, ∀ pair ∈ treePlan.ends,
      pair.1.2 ≠ treeEntry host.2 pair.1.1 →
        pair.2.2 = treeEntry host.2 pair.2.1 ∧
          treeDepth host.2 pair.1.1 < treeDepth host.2 pair.2.1 := by decide +kernel
  have member := Plan.mem_of_lookup asked.attached
  have begun : asked.wiring.home.2 = treeEntry home asked.wiring.home.1 := entered _ member
  apply Wiring.LoopFree.of_depth begun
  intro here there linked
  exact away _ member (here, there) (Plan.mem_of_lookup linked)

/-- The request of h1 gets from s4 over s2, s1 and s3 to s7. -/
theorem tree_reachable : tree_asked.wiring.Reachable (6, 1) := by
  have onward {here there : Port (Fin 7)} (reachable : tree_asked.wiring.Reachable here)
      (port : UInt16) (other : port ≠ here.2) (linked : tree.link (here.1, port) = some there) :
      tree_asked.wiring.Reachable there := reachable.hop ⟨port, other, linked⟩
  have first := onward .home 1 (by decide) (show _ = some (1, 1) by decide)
  have second := onward first 3 (by decide) (show _ = some (0, 1) by decide)
  have third := onward second 2 (by decide) (show _ = some (2, 3) by decide)
  exact onward third 2 (by decide) (show _ = some (6, 1) by decide)

theorem spent_reaches_everyone_tree :
    ∃ acts traffic, Traffic.Reaches tree (fun _ => false) (3, 3) scriptRequest acts traffic ∧
      floods 6 acts = [1] ∧
      ∃ path, Route tree.link (traffic.hop (frameSrc scriptRequest)) (3, 3) 6 path := by
  obtain ⟨acts, traffic, run, calm, -, spent, -⟩ :=
    Traffic.settled tree_asked (tree_loopFree tree_asked) fun _ => false
  obtain ⟨careful, allocates⟩ := careful_of_calm calm fun _ => false
  exact ⟨acts, traffic, run, (spent_reaches_everyone tree_asked run careful allocates
    (Plan.cabling_apart _) spent 6).1 1 tree_reachable⟩

/-- Every host of the mesh can ask. -/
theorem mesh_asks : ∀ host ∈ meshPlan.hosts, mesh.Asked host.2 (hostQuery host.1) := by decide

/-- In the mesh, too, a frame can always go on by the second port. -/
theorem mesh_loops {home : Port (Fin 4)} {frame : Frame} (asked : mesh.Asked home frame) :
    ¬ asked.wiring.LoopFree := by
  have ends : ∀ host ∈ meshPlan.hosts, host.2.2 ≠ 2 := by decide
  have onward : ∀ s, ((mesh.link (s, 2)).any fun there => there.2 ≠ 2) = true := by decide
  exact asked.loops (ends _ (Plan.mem_of_lookup asked.attached)) onward

/-- In the tree of the scripts the request of every host can die out, in the ring and
in the mesh none ever does, whatever the modes of the controllers. -/
theorem dies_out_iff_scripts :
    (∀ host ∈ treePlan.hosts, ∀ cbench, ∃ acts traffic,
      Traffic.Reaches tree cbench host.2 (hostQuery host.1) acts traffic ∧
        Careful cbench acts ∧ traffic.Spent) ∧
    (∀ host ∈ ringPlan.hosts, ∀ cbench, ¬ ∃ acts traffic,
      Traffic.Reaches ring cbench host.2 (hostQuery host.1) acts traffic ∧
        Careful cbench acts ∧ traffic.Spent) ∧
    ∀ host ∈ meshPlan.hosts, ∀ cbench, ¬ ∃ acts traffic,
      Traffic.Reaches mesh cbench host.2 (hostQuery host.1) acts traffic ∧
        Careful cbench acts ∧ traffic.Spent := by
  refine ⟨fun host member cbench => ?_, fun host member cbench spent => ?_,
    fun host member cbench spent => ?_⟩
  · have asked := tree_asks host member
    exact (dies_out_iff asked cbench (Plan.cabling_apart _)).mpr (tree_loopFree asked)
  · have asked := ring_asks host member
    exact ring_loops asked ((dies_out_iff asked cbench (Plan.cabling_apart _)).mp spent)
  · have asked := mesh_asks host member
    exact mesh_loops asked ((dies_out_iff asked cbench (Plan.cabling_apart _)).mp spent)

end DAIM.Network
