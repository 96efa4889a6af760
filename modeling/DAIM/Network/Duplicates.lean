import DAIM.Network.Discovery
import DAIM.Ani41.Replys

/-!
# Links that are recorded twice

`action_packout` adds a link for every `NODE`, without a look at those that
are in the table.  Two rounds of a neighbour between two rounds of a
controller leave its port in the table twice.
-/

namespace DAIM.Network

open DAIM.Library DAIM.OpenFlow DAIM.Linked DAIM.Com DAIM.Ani41

variable {Switch : Type*}

/-- No links table holds two equal entries. -/
def Net.Distinct (net : Net Switch Process) : Prop := ∀ s, (net.links s).Nodup

/-- A `NODE` is recorded only if the table was freed since the last one that
came in at the same port. -/
def Unheard (net : Net Switch Process) (label : Label Switch Event) : Prop :=
  ∀ s call, label = .controller s (.handled call) → call.IsNode → call.env.allocated 0 = true →
    ∀ entry ∈ net.links s, entry.nodeA.portNo ≠ (parsePacketIn call.message).inPort

/-- No port has two entries. -/
def Net.DistinctPorts (net : Net Switch Process) : Prop :=
  ∀ s, ((net.links s).map fun entry => entry.nodeA.portNo).Nodup

theorem Net.DistinctPorts.distinct {net : Net Switch Process} (ports : net.DistinctPorts) :
    net.Distinct :=
  fun s => (ports s).of_map

variable {topology : Topology Switch} {cbench : Switch → Bool}
variable {labels : List (Label Switch Event)} {net next : Net Switch Process}
variable {label : Label Switch Event}

/-- On genuine links the entries of one port are equal. -/
theorem Real.same_port {s : Switch} {first second : SwitchLink}
    (one : Real topology labels s first) (two : Real topology labels s second)
    (ports : first.nodeA.portNo = second.nodeA.portNo) : first = second := by
  obtain ⟨port, there, linked, rfl, -⟩ := one
  obtain ⟨other, elsewhere, again, rfl, -⟩ := two
  cases ports
  cases linked.symm.trans again
  rfl

/-! ## One step -/

section Steps

variable [DecidableEq Switch]

/-- What a step does to a table of links. -/
theorem Step.links_cases (step : Step topology net label next)
    (run : Reaches topology cbench labels net) (s : Switch) :
    next.links s = net.links s ∨ next.links s = [] ∨
      ∃ call, label = .controller s (.handled call) ∧ call.IsNode ∧
        call.env.allocated 0 = true ∧
        next.links s = net.links s ++
          [linkEntry (net.controllers s).ani.switchId call.message] := by
  rcases step.controller_cases s with ⟨same, -⟩ | ⟨event, rfl, taken, -⟩
  · exact .inl (congrArg (fun p : Process => p.ani.links.contents) same)
  · obtain ⟨tables, shows, -⟩ := Reaches.tables run s
    obtain ⟨after, kept, change⟩ := taken.change shows
    unfold Net.links
    rw [kept.links.contents_eq, shows.links.contents_eq]
    rcases change.links_cases with same | empty | ⟨call, rfl, handler, isNode, allocated, added⟩
    · exact .inl same
    · exact .inr (.inl empty)
    · exact .inr (.inr ⟨call, rfl, ⟨handler, isNode⟩, allocated, added⟩)

theorem Unheard.step (unheard : Unheard net label) (step : Step topology net label next)
    (run : Reaches topology cbench labels net) (ports : net.DistinctPorts) :
    next.DistinctPorts := by
  intro s
  rcases step.links_cases run s with same | empty | ⟨call, rfl, isNode, allocated, added⟩
  · rw [same]
    exact ports s
  · rw [empty]
    exact List.nodup_nil
  · rw [added, List.map_append]
    apply (ports s).append (List.nodup_singleton _)
    intro port old new
    obtain ⟨entry, member, rfl⟩ := List.mem_map.mp old
    exact unheard s call rfl isNode allocated entry member (List.mem_singleton.mp new)

/-- A `NODE` that can be recorded is recorded. -/
theorem Step.links_node {s : Switch} {call : Call}
    (step : Step topology net (.controller s (.handled call)) next)
    (run : Reaches topology cbench labels net) (isNode : call.IsNode)
    (allocated : call.env.allocated 0 = true) :
    next.links s =
      net.links s ++ [linkEntry (net.controllers s).ani.switchId call.message] := by
  rcases step.controller_cases s with ⟨-, others⟩ | ⟨event, same, taken, -⟩
  · exact absurd rfl (others _)
  · cases same
    obtain ⟨tables, shows, -⟩ := Reaches.tables run s
    obtain ⟨started, ofBuffer, outcome, called⟩ := taken.called
    obtain ⟨ended, -⟩ := called.packout shows isNode.1
    unfold Net.links
    rw [ended.links.contents_eq, shows.links.contents_eq, allocated]
    simp [Tables.packout, isNode.2]

/-- There a `NODE` for a port with an entry doubles that entry. -/
theorem Unheard.of_distinct (run : Reaches topology cbench labels net)
    (step : Step topology net label next) (genuine : Genuine topology (labels ++ [label]))
    (hosts : HostsSilent (labels ++ [label])) (prepared : Prepared (labels ++ [label]))
    (distinct : next.Distinct) : Unheard net label := by
  rintro s call rfl isNode allocated entry member port
  have added := step.links_node run isNode allocated
  have real {link : SwitchLink} (entered : link ∈ next.links s) :
      Real topology (labels ++ [.controller s (.handled call)]) s link :=
    links_real (.snoc run step) genuine hosts prepared entered
  have old : entry ∈ next.links s := added ▸ List.mem_append_left _ member
  have new : linkEntry (net.controllers s).ani.switchId call.message ∈ next.links s :=
    added ▸ List.mem_append_right _ List.mem_cons_self
  have same := (real old).same_port (real new) port
  have nodup := distinct s
  rw [added, ← same] at nodup
  exact List.disjoint_of_nodup_append nodup member List.mem_cons_self

/-! ## Every run -/

/-- A run of which every state, from the start to the last but one, has
distinct links. -/
abbrev KeptDistinct (topology : Topology Switch) (cbench : Switch → Bool)
    (labels : List (Label Switch Event)) (net : Net Switch Process) : Prop :=
  Guarded (Step topology) (fun _ before _ => before.Distinct) (Net.initial cbench) labels net

/-- A run that records a `NODE` only in a table that was freed since the last
one from the same port. -/
abbrev RecordsUnheard (topology : Topology Switch) (cbench : Switch → Bool)
    (labels : List (Label Switch Event)) (net : Net Switch Process) : Prop :=
  Guarded (Step topology) (fun _ => Unheard) (Net.initial cbench) labels net

theorem RecordsUnheard.ports (records : RecordsUnheard topology cbench labels net) :
    net.DistinctPorts := by
  induction records with
  | refl => exact fun s => List.nodup_nil
  | snoc earlier unheard step inductionHypothesis =>
      exact unheard.step step earlier.run inductionHypothesis

/-- Such a run has no two equal entries in any links table of any of its
states.  On genuine links no other run keeps its entries distinct. -/
theorem links_distinct :
    (RecordsUnheard topology cbench labels net →
      KeptDistinct topology cbench labels net ∧ net.Distinct) ∧
    (Genuine topology labels → HostsSilent labels → Prepared labels →
      KeptDistinct topology cbench labels net → net.Distinct →
      RecordsUnheard topology cbench labels net) := by
  constructor
  · intro records
    refine ⟨?_, records.ports.distinct⟩
    induction records with
    | refl => exact .refl
    | snoc earlier _ step inductionHypothesis =>
        exact .snoc inductionHypothesis (RecordsUnheard.ports earlier).distinct step
  · intro genuine hosts prepared kept distinct
    induction kept with
    | refl => exact .refl
    | @snoc labels before next label earlier was step inductionHypothesis =>
        have unheard := Unheard.of_distinct earlier.run step genuine hosts prepared distinct
        apply Guarded.snoc (inductionHypothesis genuine.earlier _ _ was) unheard step
        · exact fun here frame member => hosts here frame (List.mem_append_left _ member)
        · exact fun first s call later split =>
            prepared first s call (later ++ [label]) (by simp [split])

end Steps

/-! ## Histories with and without nodes -/

/-- The event takes a `NODE` that came in at the port. -/
def takesNode (port : UInt16) : Event → Bool
  | .handled call => call.IsNode ∧ (parsePacketIn call.message).inPort = port
  | _ => false

/-- The number of `NODE` messages that came in at the port. -/
def nodesFrom (port : UInt16) (events : List Event) : Nat := events.countP (takesNode port)

section Histories

variable [DecidableEq Switch]

/-- At the end of every link no more `NODE` messages came in than were sent at
its start. -/
def Undoubled (topology : Topology Switch) (labels : List (Label Switch Event)) : Prop :=
  ∀ here there, topology.link here = some there →
    nodesFrom there.2 (events there.1 labels) ≤ nodesTo here.2 (events here.1 labels)

theorem nodesFrom_append (port : UInt16) (first second : List Event) :
    nodesFrom port (first ++ second) = nodesFrom port first + nodesFrom port second :=
  List.countP_append

theorem nodesFrom_nodeless (nodeless : ∀ label ∈ labels, Nodeless label) (s : Switch)
    (port : UInt16) : nodesFrom port (events s labels) = 0 := by
  apply List.countP_eq_zero.mpr
  intro event member
  obtain ⟨label, happened, same⟩ := List.mem_filterMap.mp member
  have notNode := nodeless label happened
  cases label with
  | controller t own =>
      have here : (if t = s then some own else none) = some event := same
      split at here
      · cases here
        cases event with
        | handled call =>
            have other : ¬ call.IsNode := notNode
            simp [takesNode, other]
        | _ => simp [takesNode]
      · cases here
  | _ => cases same

theorem nodeless_unheard {start : Net Switch Process} (run : Run (Step topology) start labels net)
    (nodeless : ∀ label ∈ labels, Nodeless label) :
    Guarded (Step topology) (fun _ => Unheard) start labels net := by
  induction run with
  | refl => exact .refl
  | snoc _ step inductionHypothesis =>
      apply Guarded.snoc _ _ step
      · exact inductionHypothesis fun label member =>
          nodeless label (List.mem_append_left _ member)
      · rintro s call rfl isNode
        exact absurd isNode (nodeless _ (List.mem_append_right _ List.mem_cons_self))

end Histories

/-! ## Two rounds of a neighbour -/

theorem twoSwitches_link {here there : Port Bool}
    (linked : (twoSwitches hostA).link here = some there) :
    here = (false, 2) ∧ there = (true, 1) ∨ here = (true, 1) ∧ there = (false, 2) := by
  unfold twoSwitches at linked
  simp only at linked
  split at linked
  · rename_i first
    cases linked
    exact .inl ⟨first, rfl⟩
  · split at linked
    · rename_i second
      cases linked
      exact .inr ⟨second, rfl⟩
    · cases linked

/-- The second switch goes through two rounds while the thread of the first one
does not run.  Nothing is lost or doubled on the way, and the first one has the
link twice. -/
theorem rounds_overlap :
    ¬ ∀ (labels : List (Label Bool Event)) (net : Net Bool Process),
      Reaches (twoSwitches hostA) (fun _ => false) labels net →
      Fair (twoSwitches hostA) labels → Undoubled (twoSwitches hostA) labels → net.Distinct := by
  intro always
  obtain ⟨first, p, other, q, one, two, delivered, handler, too, same, played, exchanged, -,
    again, twice, doubled⟩ := two_rounds
  obtain ⟨begins, start, begun, genuine, introduced, introductory, asker, answerer⟩ :=
    introductions delivered handler too same
  have silent : ∀ label ∈ begins, Nodeless label :=
    fun label member => (introductory label member).nodeless
  obtain ⟨labels, before, middle, run, quiet, sent, step, asks, answers⟩ :=
    Round.run twoSwitches_linked (by decide) asker answerer played exchanged
  obtain ⟨more, last, finish, later, still, resent, taken, -, learned⟩ :=
    Round.run twoSwitches_linked (by decide) asks answers again twice
  let node (call : Call) : List (Label Bool Event) := [.controller false (.handled call)]
  have whole : Reaches (twoSwitches hostA) (fun _ => false)
      (begins ++ (labels ++ (node one.node ++ (more ++ node two.node)))) finish :=
    begun.trans (run.trans (.trans (.single step) (later.trans (.single taken))))
  have honest : Fair (twoSwitches hostA)
      (begins ++ (labels ++ (node one.node ++ (more ++ node two.node)))) := by
    apply (Fair.introductory genuine introductory).append introduced
    simp only [List.forall_mem_append]
    refine ⟨fun label member => (quiet label member).1, ?_,
      fun label member => (still label member).1, ?_⟩
    · simp [node, Ordinary]
    · simp [node, Ordinary]
  have undoubled : Undoubled (twoSwitches hostA)
      (begins ++ (labels ++ (node one.node ++ (more ++ node two.node)))) := by
    intro here there linked
    have none (s : Bool) (port : UInt16) : nodesFrom port (events s begins) = 0 ∧
        nodesFrom port (events s labels) = 0 ∧ nodesFrom port (events s more) = 0 :=
      ⟨nodesFrom_nodeless silent s port,
        nodesFrom_nodeless (fun label member => (quiet label member).2) s port,
        nodesFrom_nodeless (fun label member => (still label member).2) s port⟩
    obtain ⟨atStart, inFirst, inSecond⟩ := none there.1 there.2
    simp only [events_append, nodesFrom_append, nodesTo_append, atStart, inFirst, inSecond]
    have ends := twoSwitches_link linked
    rcases ends with ⟨rfl, rfl⟩ | ⟨rfl, rfl⟩
    · have away (call : Call) : events true (node call) = [] := rfl
      simp [away, nodesFrom]
    · have atMost (call : Call) : nodesFrom 2 (events false (node call)) ≤ 1 :=
        List.countP_le_length
      have once := atMost one.node
      have second := atMost two.node
      simp only at sent resent ⊢
      omega
  have distinct := always _ finish whole honest undoubled false
  unfold Net.links at distinct
  rw [learned, doubled] at distinct
  exact absurd distinct (by decide)

/-- The first of the two rounds. -/
theorem links_distinct_round :
    ∃ labels net, RecordsUnheard (twoSwitches hostA) (fun _ => false) labels net ∧
      net.links false = [⟨⟨11, 2⟩, ⟨12, 1⟩⟩] ∧ net.Distinct := by
  obtain ⟨first, p, other, q, one, -, delivered, handler, too, same, played, exchanged, links,
    -⟩ := two_rounds
  obtain ⟨begins, start, begun, genuine, introduced, introductory, asker, answerer⟩ :=
    introductions delivered handler too same
  have silent : ∀ label ∈ begins, Nodeless label :=
    fun label member => (introductory label member).nodeless
  obtain ⟨labels, before, finish, run, quiet, -, step, -, learned⟩ :=
    Round.run twoSwitches_linked (by decide) asker answerer played exchanged
  have upTo : Reaches (twoSwitches hostA) (fun _ => false) (begins ++ labels) before :=
    begun.trans run
  have table : finish.links false = [⟨⟨11, 2⟩, ⟨12, 1⟩⟩] := by
    unfold Net.links
    rw [learned, links]
  have nodeless : ∀ label ∈ begins ++ labels, Nodeless label := by
    simp only [List.forall_mem_append]
    exact ⟨silent, fun label member => (quiet label member).2⟩
  have unheard : Unheard before (.controller false (.handled one.node)) := by
    rintro s call same isNode allocated entry member
    cases same
    have length := congrArg List.length table
    rw [step.links_node upTo isNode allocated] at length
    have empty : before.links false = [] := by simpa using length
    rw [empty] at member
    cases member
  have records : RecordsUnheard (twoSwitches hostA) (fun _ => false) _ finish :=
    .snoc (nodeless_unheard upTo nodeless) unheard step
  have honest : Fair (twoSwitches hostA)
      (begins ++ (labels ++ [.controller false (.handled one.node)])) := by
    apply (Fair.introductory genuine introductory).append introduced
    simp only [List.forall_mem_append]
    exact ⟨fun label member => (quiet label member).1, by simp [Ordinary]⟩
  rw [← List.append_assoc] at honest
  obtain ⟨kept, distinct⟩ := links_distinct.1 records
  exact ⟨_, finish, links_distinct.2 honest.genuine honest.hosts honest.prepared kept distinct,
    table, distinct⟩

end DAIM.Network
