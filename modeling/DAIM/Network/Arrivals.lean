import DAIM.Network.Homeward

/-!
# Answers arrive

In a network where nothing is left to do, a host sends an ARP frame to one host
into a switch whose controller has an entry for that host.  Switch by switch the
frame can follow the entries until its host gets it, once.
-/

namespace DAIM.Network

open DAIM.Library DAIM.OpenFlow DAIM.Linked DAIM.Com DAIM.Hosts DAIM.Ani41

section Network

variable {Switch : Type*} [DecidableEq Switch] {cabling : Cabling Switch} {home : Port Switch}
variable {request frame : Frame} {traffic later : Traffic Switch} {acts more : List (Act Switch)}
variable {cbench : Switch → Bool} {s : Switch} {inPort port : UInt16}

/-! ## More steps -/

omit [DecidableEq Switch] in
/-- Calm steps drop nothing, and enter every host. -/
theorem careful_append (careful : Careful cbench acts) (allocates : Allocates acts)
    (calm : ∀ s event, some (s, event) ∈ more → Calm event) :
    Careful cbench (acts ++ more) ∧ Allocates (acts ++ more) := by
  obtain ⟨still, enters⟩ := careful_of_calm calm cbench
  refine ⟨careful.append still, fun s call handled => ?_⟩
  rcases List.mem_append.mp handled with before | after
  · exact allocates s call before
  · exact enters s call after

/-! ## One switch after the other -/

/-- At an idle switch with an entry the frame comes in, and leaves by the port of the entry. -/
theorem Traffic.Idle.forwards (idle : traffic.Idle) {enters : Switch → UInt16 → Prop}
    (guides : traffic.Guides cabling enters frame) (carried : Carried (enters s) inPort frame)
    (header : OfEthernet.size ≤ frame.length) (aloft : ((s, inPort), frame) ∈ traffic.flying)
    (entry : traffic.hop (frameDst frame) s = some port) :
    ∃ sights later, Run (Traffic.Shows cabling) traffic sights later ∧ later.Idle ∧
      sights.flatMap Sight.sent = [] ∧
      (∀ t event, some (t, event) ∈ sights.map Sight.act → Calm event) ∧
      (∀ there, cabling.link (s, port) = some there → (there, frame) ∈ later.flying) ∧
      (cabling.link (s, port) = none → ((s, port), frame) ∈ sights.flatMap Sight.reached) := by
  have reports := reports_reportOf inPort header
  obtain ⟨events, sent, q, works, emitted, waits, calm⟩ :=
    (idle s).forwards (guides.sound s) (cabling.ports s) reports carried (guides.single s) entry
  obtain ⟨before, after, split⟩ := List.append_of_mem aloft
  have told : Traffic.Shows cabling traffic ⟨none, [], [], []⟩ _ :=
    @Traffic.Shows.arrived _ _ _ traffic before after s _ _ _ none _ split (.reported reports)
  let site : Site := { traffic.sites s with controller := q, outbox := [sent] }
  let rest : List (Port Switch × Frame) := before ++ after ++ cabling.arrivals s []
  have works : Run (Traffic.Step cabling) _ (events.map fun event => some (s, event))
      ⟨Function.update (Function.update traffic.sites s _) s site, rest⟩ :=
    @Traffic.works_run _ _ cabling ⟨Function.update traffic.sites s _, rest⟩ s events site
      (by simpa using works)
  rw [Function.update_idem] at works
  obtain ⟨seen, worked, acts, silent⟩ := Traffic.shows_run works
  let done : Site := { site with
    outbox := []
    entries := site.entries ++ (FlowMod.decode sent.bytes).toList }
  have executes :
      Site.Step (cabling.ports s) site none (sent.emitted (cabling.ports s)) none done :=
    @Site.Step.executed _ site [] [] sent rfl
  have executed : Traffic.Shows cabling ⟨Function.update traffic.sites s site, rest⟩
      ⟨none, [], cabling.departures s (sent.emitted (cabling.ports s)), []⟩ _ :=
    @Traffic.Shows.worked _ _ cabling ⟨Function.update traffic.sites s site, rest⟩ s _ none done
      (by simpa using executes)
  rw [Function.update_idem, emitted] at executed
  refine ⟨_, _, .cons told (worked.trans (.single executed)), ?_, ?_, ?_, ?_, ?_⟩
  · have isIdle : done.Idle := ⟨waits, (idle s).inbox, (idle s).chunk, rfl⟩
    exact idle.update isIdle _
  · have quiet : seen.flatMap Sight.sent = [] := by
      rw [List.flatMap_eq_nil_iff]
      intro sight member
      apply silent sight member
      obtain ⟨event, -, isAct⟩ := List.mem_map.mp (acts ▸ List.mem_map_of_mem member)
      rw [← isAct]
      exact Option.some_ne_none _
    simp [quiet]
  · intro t event member
    have here : event ∈ events ∧ s = t := by simpa [acts] using member
    exact calm event here.1
  · intro there linked
    apply List.mem_append_right
    simp [Cabling.arrivals, linked]
  · intro unlinked
    simp [Cabling.departures, unlinked]

/-- From switch to switch the frame follows a route of entries to its host. -/
theorem Traffic.Reaches.delivers (asked : cabling.Asked home request)
    (positive : ∀ s, 0 ∉ cabling.ports s) (arp : frameType frame = arpData)
    (unicast : frameDst frame ≠ Mac.broadcast) (header : OfEthernet.size ≤ frame.length)
    {hop : Switch → Option UInt16} {target : Port Switch} {path : List Switch}
    (attached : cabling.attached (frameDst frame) = some target)
    (route : Route cabling.link hop target s path)
    (run : Traffic.Reaches cabling cbench home request acts traffic)
    (careful : Careful cbench acts) (allocates : Allocates acts) (idle : traffic.Idle)
    (grown : ∀ t port, hop t = some port → traffic.hop (frameDst frame) t = some port)
    (aloft : ((s, inPort), frame) ∈ traffic.flying) :
    ∃ sights later, Run (Traffic.Shows cabling) traffic sights later ∧ later.Idle ∧
      sights.flatMap Sight.sent = [] ∧
      (∀ t event, some (t, event) ∈ sights.map Sight.act → Calm event) ∧
      (target, frame) ∈ sights.flatMap Sight.reached := by
  induction route generalizing acts traffic inPort with
  | arrive here isTarget =>
      have guides := Traffic.Reaches.guides asked run careful allocates positive arp unicast
      have carried := (Traffic.Reaches.flooded asked run).flying _ aloft
      obtain ⟨sights, later, onward, still, silent, calm, -, departs⟩ :=
        idle.forwards guides carried header aloft (grown _ _ here)
      refine ⟨sights, later, onward, still, silent, calm, ?_⟩
      rw [isTarget]
      exact departs (isTarget ▸ cabling.hostPort attached)
  | step here linked _ _ inductionHypothesis =>
      have guides := Traffic.Reaches.guides asked run careful allocates positive arp unicast
      have carried := (Traffic.Reaches.flooded asked run).flying _ aloft
      obtain ⟨first, middle, onward, still, silent, calm, arrives, -⟩ :=
        idle.forwards guides carried header aloft (grown _ _ here)
      have steps := Traffic.Shows.run onward
      obtain ⟨stillCareful, stillAllocates⟩ := careful_append careful allocates calm
      obtain ⟨rest, later, finish, settled, quiet, peaceful, reached⟩ :=
        inductionHypothesis (run.trans steps) stillCareful stillAllocates still
          (fun t port entry => Traffic.Reaches.hop_grows asked run steps stillCareful
            (grown t port entry)) (arrives _ linked)
      refine ⟨first ++ rest, later, onward.trans finish, settled, ?_, fun t event member => ?_, ?_⟩
      · rw [List.flatMap_append, silent, quiet]
        rfl
      · rw [List.map_append] at member
        exact (List.mem_append.mp member).elim (calm t event) (peaceful t event)
      · rw [List.flatMap_append]
        exact List.mem_append_right _ reached

omit [DecidableEq Switch] in
/-- All copies of a frame are one copy, if there is one of them. -/
theorem filter_eq_singleton {target : Port Switch} {copies : List (Port Switch × Frame)}
    (one : copiesOf frame copies = 1)
    (only : ∀ copy ∈ copies, copy.2 = frame → copy.1 = target) :
    copies.filter (fun copy => copy.2 = frame) = [(target, frame)] := by
  unfold copiesOf at one
  rw [List.countP_eq_length_filter] at one
  obtain ⟨copy, single⟩ := List.length_eq_one_iff.mp one
  obtain ⟨member, same⟩ := List.mem_filter.mp (single ▸ List.mem_cons_self : copy ∈ _)
  have isFrame : copy.2 = frame := of_decide_eq_true same
  rw [single, show copy = (target, frame) from Prod.ext (only copy member isFrame) isFrame]

/-- In an idle network a frame that is sent into a switch whose controller knows its host
can get to this host.  It gets there once, nobody else gets it, and no copy is left. -/
theorem answer_arrives [Fintype Switch] (asked : cabling.Asked home request)
    (positive : ∀ s, 0 ∉ cabling.ports s) (arp : frameType frame = arpData)
    (unicast : frameDst frame ≠ Mac.broadcast) (header : OfEthernet.size ≤ frame.length)
    (run : Traffic.Reaches cabling cbench home request acts traffic)
    (careful : Careful cbench acts) (allocates : Allocates acts) (idle : traffic.Idle)
    (unseen : traffic.carried frame = 0) {here : Port Switch}
    (attached : cabling.attached (frameSrc frame) = some here)
    (known : (traffic.hop (frameDst frame) here.1).isSome) :
    ∃ sights later target,
      Run (Traffic.Shows cabling) traffic (⟨none, [(here, frame)], [], []⟩ :: sights) later ∧
      sights.flatMap Sight.sent = [] ∧ later.Idle ∧ later.carried frame = 0 ∧
      cabling.attached (frameDst frame) = some target ∧
      (sights.flatMap Sight.reached).filter (fun copy => copy.2 = frame) = [(target, frame)] ∧
      ∀ t event, some (t, event) ∈ sights.map Sight.act → Calm event := by
  obtain ⟨port, entry⟩ := Option.isSome_iff_exists.mp known
  obtain ⟨target, path, isHome, route⟩ :
      ∃ target path, cabling.attached (frameDst frame) = some target ∧
        Route cabling.link (traffic.hop (frameDst frame)) target here.1 path := by
    obtain ⟨net, traced, within⟩ := Traffic.Reaches.traced asked run careful allocates
    rw [← within.hop (frameDst frame)] at entry ⊢
    exact traced.routes (frameDst frame) here.1 ⟨port, entry⟩
  let sent : Traffic Switch := { traffic with flying := traffic.flying ++ [(here, frame)] }
  have answered : Traffic.Shows cabling traffic ⟨none, [(here, frame)], [], []⟩ sent :=
    .answered attached arp unicast
  have started : Traffic.Reaches cabling cbench home request (acts ++ [none]) sent :=
    .snoc run answered.step
  obtain ⟨startCareful, startAllocates⟩ := @careful_append _ acts [none] cbench careful allocates
    fun t event member => by simp at member
  obtain ⟨sights, later, onward, settled, silent, calm, reached⟩ :=
    Traffic.Reaches.delivers asked positive arp unicast header isHome route started startCareful
      startAllocates idle (fun _ _ => id) (List.mem_append_right _ List.mem_cons_self)
  have drops : Careful cbench (acts ++ none :: sights.map Sight.act) ∧
      Allocates (acts ++ none :: sights.map Sight.act) := by
    apply careful_append careful allocates
    intro t event member
    exact calm t event (by simpa using member)
  obtain ⟨balance, right⟩ := Traffic.Reaches.accounts asked positive arp unicast run
    (.cons answered onward) drops.1 drops.2
  simp only [List.flatMap_cons, silent, List.append_nil, List.nil_append, unseen] at balance right
  have one : copiesOf frame [(here, frame)] = 1 := by simp [copiesOf]
  have some : 0 < copiesOf frame (sights.flatMap Sight.reached) :=
    List.countP_pos_iff.mpr ⟨_, reached, decide_eq_true rfl⟩
  refine ⟨sights, later, target, .cons answered onward, silent, settled, by omega, isHome, ?_, calm⟩
  apply filter_eq_singleton (by omega)
  intro copy member same
  exact Option.some.inj ((right copy member same).symm.trans isHome)

/-! ## Networks without loops -/

/-- A broadcast has died out, and then a host at `here` has answered it and nobody has sent
anything else: the answer has got to the host that had asked. -/
structure Resolved [Fintype Switch] (cabling : Cabling Switch) (cbench : Switch → Bool)
    (home : Port Switch) (request frame : Frame) (here : Port Switch) (acts : List (Act Switch))
    (traffic : Traffic Switch) (sights : List (Sight Switch)) (later : Traffic Switch) :
    Prop where
  run : Traffic.Reaches cabling cbench home request acts traffic
  spent : traffic.Spent
  unseen : traffic.carried frame = 0
  onward : Run (Traffic.Shows cabling) traffic (⟨none, [(here, frame)], [], []⟩ :: sights) later
  silent : sights.flatMap Sight.sent = []
  idle : later.Idle
  left : later.carried frame = 0
  arrived : (sights.flatMap Sight.reached).filter (fun copy => copy.2 = frame) = [(home, frame)]
  careful : Careful cbench (acts ++ none :: sights.map Sight.act)
  allocates : Allocates (acts ++ none :: sights.map Sight.act)

/-- In a network without loops the broadcast comes to the switch of every other host and dies
out, and the answer of this host can get home. -/
theorem resolves [Fintype Switch] (asked : cabling.Asked home request)
    (free : asked.wiring.LoopFree) (positive : ∀ s, 0 ∉ cabling.ports s)
    (unicast : frameSrc request ≠ Mac.broadcast) (arp : frameType frame = arpData)
    (asker : frameDst frame = frameSrc request) (header : OfEthernet.size ≤ frame.length)
    {here : Port Switch} (attached : cabling.attached (frameSrc frame) = some here)
    (reachable : asked.wiring.Reachable (here.1, port)) (cbench : Switch → Bool) :
    ∃ acts traffic sights later, port ∈ floods here.1 acts ∧
      Resolved cabling cbench home request frame here acts traffic sights later := by
  obtain ⟨acts, traffic, run, calm, idle, spent, flown⟩ := Traffic.settled asked free cbench
  obtain ⟨careful, allocates⟩ := careful_of_calm calm cbench
  obtain ⟨flooded, known⟩ := spent.knows asked run careful allocates reachable
  rw [← asker] at known unicast
  have unseen : traffic.carried frame = 0 := by
    apply idle.unseen
    rintro copy member rfl
    rw [flown copy member] at unicast
    exact unicast asked.asks.2
  obtain ⟨sights, later, target, onward, silent, settled, left, isHome, arrived, peaceful⟩ :=
    answer_arrives asked positive arp unicast header run careful allocates idle unseen attached
      known
  rw [asker] at isHome
  cases isHome.symm.trans asked.attached
  have whole : Careful cbench (acts ++ none :: sights.map Sight.act) ∧
      Allocates (acts ++ none :: sights.map Sight.act) := by
    apply careful_append careful allocates
    intro t event member
    exact peaceful t event (by simpa using member)
  exact ⟨acts, traffic, sights, later, flooded, run, spent, unseen, onward, silent, settled, left,
    arrived, whole.1, whole.2⟩

/-- In a network without loops every host can resolve the address of every other host: the
broadcast comes to the switch of the other host and dies out, and the answer can get home,
where it comes once. -/
theorem hosts_resolve [Fintype Switch] (asked : cabling.Asked home request)
    (free : asked.wiring.LoopFree) (positive : ∀ s, 0 ∉ cabling.ports s)
    (unicast : frameSrc request ≠ Mac.broadcast) (arp : frameType frame = arpData)
    (asker : frameDst frame = frameSrc request) (header : OfEthernet.size ≤ frame.length)
    {here : Port Switch} (attached : cabling.attached (frameSrc frame) = some here)
    (reachable : asked.wiring.Reachable (here.1, port)) (cbench : Switch → Bool) :
    ∃ acts traffic sights later,
      Traffic.Reaches cabling cbench home request acts traffic ∧ port ∈ floods here.1 acts ∧
      traffic.Spent ∧
      Run (Traffic.Shows cabling) traffic (⟨none, [(here, frame)], [], []⟩ :: sights) later ∧
      sights.flatMap Sight.sent = [] ∧ later.Idle ∧ later.carried frame = 0 ∧
      (sights.flatMap Sight.reached).filter (fun copy => copy.2 = frame) = [(home, frame)] := by
  obtain ⟨acts, traffic, sights, later, flooded, resolved⟩ :=
    resolves asked free positive unicast arp asker header attached reachable cbench
  exact ⟨acts, traffic, sights, later, resolved.run, flooded, resolved.spent, resolved.onward,
    resolved.silent, resolved.idle, resolved.left, resolved.arrived⟩

end Network

/-! ## A network of the scripts -/

/-- The host h2 of the scripts answers the request. -/
def scriptReply : Frame :=
  ethernetFrame (scriptHost 1) (scriptHost 2) arpData
    (arpPacket 2 (scriptHost 2) 0x0a000002 (scriptHost 1) 0x0a000001)

/-- The request of h1 gets from s1 to s2. -/
theorem linear_reachable : linear_asked.wiring.Reachable (1, 1) := by
  have home : linear_asked.wiring.Reachable (0, 2) := .home
  exact home.hop ⟨1, by decide, show linear.link (0, 1) = some (1, 1) by decide⟩

/-- In the linear network h1 can resolve the address of h2. -/
theorem hosts_resolve_linear :
    ∃ acts traffic sights later,
      Traffic.Reaches linear (fun _ => true) (0, 2) scriptRequest acts traffic ∧
      1 ∈ floods 1 acts ∧
      Run (Traffic.Shows linear) traffic (⟨none, [((1, 2), scriptReply)], [], []⟩ :: sights) later ∧
      (sights.flatMap Sight.reached).filter (fun copy => copy.2 = scriptReply) =
        [((0, 2), scriptReply)] := by
  obtain ⟨acts, traffic, sights, later, run, flooded, -, onward, -, -, -, reached⟩ :=
    hosts_resolve linear_asked linear_loopFree (by decide) (by decide) (by decide) (by decide)
      (by decide) (show linear.attached (frameSrc scriptReply) = some (1, 2) by decide)
      linear_reachable fun _ => true
  exact ⟨acts, traffic, sights, later, run, flooded, onward, reached⟩

/-! ## All copies of an answer -/

section Answers

variable {Switch : Type*} [DecidableEq Switch] {cabling : Cabling Switch} {home : Port Switch}
variable {request frame : Frame} {traffic later : Traffic Switch} {acts : List (Act Switch)}
variable {cbench : Switch → Bool} {sights : List (Sight Switch)}

/-- Every ARP frame to one host that is sent is still in the network, has got to its host, or was
dropped: none is doubled, and no other host gets it.  Only controllers that do not know the
host drop it, and none does if it is sent only into switches whose controllers know the host. -/
theorem answers_get_home [Fintype Switch] (asked : cabling.Asked home request)
    (positive : ∀ s, 0 ∉ cabling.ports s) (arp : frameType frame = arpData)
    (unicast : frameDst frame ≠ Mac.broadcast)
    (run : Traffic.Reaches cabling cbench home request acts traffic)
    (onward : Run (Traffic.Shows cabling) traffic sights later)
    (careful : Careful cbench (acts ++ sights.map Sight.act))
    (allocates : Allocates (acts ++ sights.map Sight.act)) :
    traffic.carried frame + copiesOf frame (sights.flatMap Sight.sent) =
        copiesOf frame (sights.flatMap Sight.reached) +
          copiesOf frame (sights.flatMap Sight.dropped) + later.carried frame ∧
      (∀ copy ∈ sights.flatMap Sight.reached, copy.2 = frame →
        cabling.attached (frameDst frame) = some copy.1) ∧
      (∀ copy ∈ sights.flatMap Sight.dropped, copy.2 = frame →
        traffic.hop (frameDst frame) copy.1.1 = none) ∧
      (traffic.carried frame = 0 →
        Guarded (Traffic.Shows cabling) (fun _ => Knows frame) traffic sights later →
        ∀ copy ∈ sights.flatMap Sight.dropped, copy.2 ≠ frame) := by
  obtain ⟨balance, right⟩ :=
    Traffic.Reaches.accounts asked positive arp unicast run onward careful allocates
  refine ⟨balance, right, ?_, fun unseen guarded => ?_⟩
  · exact Traffic.Reaches.drops asked positive arp unicast run onward careful allocates
  · exact (Traffic.Reaches.homeward asked positive arp unicast run unseen guarded careful
      allocates).2

end Answers

/-- In the linear network the answer of h2 gets to h1, once, and nobody drops it. -/
theorem answers_get_home_linear :
    ∃ acts traffic sights later,
      Traffic.Reaches linear (fun _ => false) (0, 2) scriptRequest acts traffic ∧
      Run (Traffic.Shows linear) traffic (⟨none, [((1, 2), scriptReply)], [], []⟩ :: sights) later ∧
      copiesOf scriptReply (sights.flatMap Sight.reached) = 1 ∧
      (∀ copy ∈ sights.flatMap Sight.reached, copy.2 = scriptReply → copy.1 = (0, 2)) ∧
      copiesOf scriptReply (sights.flatMap Sight.dropped) = 0 ∧
      later.carried scriptReply = 0 := by
  obtain ⟨acts, traffic, sights, later, -, resolved⟩ :=
    resolves linear_asked linear_loopFree (by decide) (by decide)
      (show frameType scriptReply = arpData by decide) (by decide) (by decide)
      (show linear.attached (frameSrc scriptReply) = some (1, 2) by decide) linear_reachable
      fun _ => false
  obtain ⟨balance, right, -⟩ := answers_get_home linear_asked (by decide)
    (show frameType scriptReply = arpData by decide) (by decide) resolved.run resolved.onward
    resolved.careful resolved.allocates
  have one : copiesOf scriptReply [(((1, 2) : Port (Fin 2)), scriptReply)] = 1 := by
    simp [copiesOf]
  have home : 0 < copiesOf scriptReply (sights.flatMap Sight.reached) := by
    have arrived : ((0, 2), scriptReply) ∈ (sights.flatMap Sight.reached).filter
        fun copy => copy.2 = scriptReply := resolved.arrived ▸ List.mem_cons_self
    exact List.countP_pos_iff.mpr ⟨_, List.mem_filter.mp arrived⟩
  simp only [List.flatMap_cons, resolved.silent, List.append_nil, List.nil_append, one,
    resolved.unseen, resolved.left] at balance right
  refine ⟨acts, traffic, sights, later, resolved.run, resolved.onward, by omega, ?_, by omega,
    resolved.left⟩
  intro copy member same
  have attached : linear.attached (frameDst scriptReply) = some (0, 2) := by decide
  exact Option.some.inj ((right copy member same).symm.trans attached)

end DAIM.Network
