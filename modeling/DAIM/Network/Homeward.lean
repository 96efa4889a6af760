import DAIM.Network.Forwards

/-!
# Frames to known hosts in the network

Hosts send ARP frames to one host.  A switch whose controller has no entry for that
host drops them.  The switch at the other end of the link of an entry has an entry as
well, up to the switch where the host is attached, so that a frame is never lost once
it is at a switch with an entry, never doubled, and never given to another host.
-/

namespace DAIM.Network

open DAIM.Library DAIM.OpenFlow DAIM.Linked DAIM.Com DAIM.Hosts DAIM.Ani41

/-! ## What is seen of a run -/

section Network

variable {Switch : Type*}

/-- What is seen of a step: what the controllers do, the frames that hosts send and
get, each with the port where they are attached, and the frames that calls drop, each
with the port where it came in. -/
structure Sight (Switch : Type*) where
  act : Act Switch
  sent : List (Port Switch × Frame)
  reached : List (Port Switch × Frame)
  dropped : List (Port Switch × Frame)

/-- The frames that leave a switch by ports without a link. -/
def Cabling.departures (cabling : Cabling Switch) (s : Switch) (out : List (UInt16 × Frame)) :
    List (Port Switch × Frame) :=
  (out.filter fun copy => (cabling.link (s, copy.1)).isNone).map
    fun copy => ((s, copy.1), copy.2)

/-- The frames that the controller of a switch drops in a step. -/
def Traffic.dropped (traffic : Traffic Switch) (s : Switch) (next : Site) (event : Option Event) :
    List (Port Switch × Frame) :=
  ((traffic.sites s).dropped next event).map fun copy => ((s, copy.1), copy.2)

theorem Traffic.copiesOf_dropped (traffic : Traffic Switch) (frame : Frame) (s : Switch)
    (next : Site) (event : Option Event) :
    copiesOf frame (traffic.dropped s next event) =
      copiesOf frame ((traffic.sites s).dropped next event) := by
  unfold copiesOf Traffic.dropped
  rw [List.countP_map]
  rfl

variable [DecidableEq Switch] {cabling : Cabling Switch}

/-- The steps of the network, with what is seen of them. -/
inductive Traffic.Shows (cabling : Cabling Switch) :
    Traffic Switch → Sight Switch → Traffic Switch → Prop where
  | answered {traffic : Traffic Switch} {here : Port Switch} {frame : Frame} :
      cabling.attached (frameSrc frame) = some here → frameType frame = arpData →
      frameDst frame ≠ Mac.broadcast →
      Shows cabling traffic ⟨none, [(here, frame)], [], []⟩
        { traffic with flying := traffic.flying ++ [(here, frame)] }
  | arrived {traffic : Traffic Switch} {before after : List (Port Switch × Frame)} {s : Switch}
      {inPort : UInt16} {frame : Frame} {out : List (UInt16 × Frame)} {event : Option Event}
      {next : Site} : traffic.flying = before ++ ((s, inPort), frame) :: after →
      Site.Step (cabling.ports s) (traffic.sites s) (some (inPort, frame)) out event next →
      Shows cabling traffic
        ⟨event.map (s, ·), [], cabling.departures s out, traffic.dropped s next event⟩
        ⟨Function.update traffic.sites s next, before ++ after ++ cabling.arrivals s out⟩
  | worked {traffic : Traffic Switch} {s : Switch} {out : List (UInt16 × Frame)}
      {event : Option Event} {next : Site} :
      Site.Step (cabling.ports s) (traffic.sites s) none out event next →
      Shows cabling traffic
        ⟨event.map (s, ·), [], cabling.departures s out, traffic.dropped s next event⟩
        ⟨Function.update traffic.sites s next, traffic.flying ++ cabling.arrivals s out⟩

variable {traffic next : Traffic Switch} {sight : Sight Switch} {act : Act Switch}

theorem Traffic.Shows.step (shows : Traffic.Shows cabling traffic sight next) :
    Traffic.Step cabling traffic sight.act next := by
  cases shows with
  | answered attached arp unicast => exact .answered attached arp unicast
  | arrived split step => exact .arrived split step
  | worked step => exact .worked step

/-- Every step of the network shows something, and no host sends in a step of a controller. -/
theorem Traffic.Step.shows (step : Traffic.Step cabling traffic act next) :
    ∃ sight, Traffic.Shows cabling traffic sight next ∧ sight.act = act ∧
      (act ≠ none → sight.sent = []) := by
  cases step with
  | answered attached arp unicast =>
      exact ⟨_, .answered attached arp unicast, rfl, fun acts => absurd rfl acts⟩
  | arrived split step => exact ⟨_, .arrived split step, rfl, fun _ => rfl⟩
  | worked step => exact ⟨_, .worked step, rfl, fun _ => rfl⟩

/-- A step is a frame that a host sends, or a step at one switch, with or without a
frame that comes in. -/
theorem Traffic.Shows.cases (shows : Traffic.Shows cabling traffic sight next) :
    (∃ here answer, sight = ⟨none, [(here, answer)], [], []⟩ ∧
      next = { traffic with flying := traffic.flying ++ [(here, answer)] }) ∨
    ∃ (others : List (Port Switch × Frame)) (s : Switch) (incoming : Option (UInt16 × Frame))
      (out : List (UInt16 × Frame)) (event : Option Event) (last : Site),
      traffic.flying.Perm (others ++ incoming.toList.map fun copy => ((s, copy.1), copy.2)) ∧
      Site.Step (cabling.ports s) (traffic.sites s) incoming out event last ∧
      sight = ⟨event.map (s, ·), [], cabling.departures s out, traffic.dropped s last event⟩ ∧
      next = ⟨Function.update traffic.sites s last, others ++ cabling.arrivals s out⟩ := by
  cases shows with
  | answered _ _ _ => exact .inl ⟨_, _, rfl, rfl⟩
  | @arrived before after s inPort frame out event last split step =>
      refine .inr ⟨before ++ after, s, some (inPort, frame), out, event, last, ?_, step, rfl, rfl⟩
      rw [split]
      exact List.perm_middle.trans (List.perm_append_singleton _ _).symm
  | @worked s out event last step =>
      refine .inr ⟨traffic.flying, s, none, out, event, last, ?_, step, rfl, rfl⟩
      rw [Option.toList_none, List.map_nil, List.append_nil]

omit [DecidableEq Switch] in
/-- Every frame that leaves a switch comes in at another one or leaves the network. -/
theorem copies_leaving (frame : Frame) (s : Switch) (out : List (UInt16 × Frame)) :
    copiesOf frame (cabling.arrivals s out) + copiesOf frame (cabling.departures s out) =
      copiesOf frame out := by
  induction out with
  | nil => rfl
  | cons copy rest inductionHypothesis =>
      cases linked : cabling.link (s, copy.1) with
      | none =>
          have arrivals : cabling.arrivals s (copy :: rest) = cabling.arrivals s rest :=
            List.filterMap_cons_none (by simp [linked])
          have departures : cabling.departures s (copy :: rest) =
              ((s, copy.1), copy.2) :: cabling.departures s rest := by
            simp [Cabling.departures, linked]
          rw [arrivals, departures]
          simp only [copiesOf, List.countP_cons] at inductionHypothesis ⊢
          omega
      | some there =>
          have arrivals : cabling.arrivals s (copy :: rest) =
              (there, copy.2) :: cabling.arrivals s rest :=
            List.filterMap_cons_some (by simp [linked])
          have departures : cabling.departures s (copy :: rest) = cabling.departures s rest := by
            simp [Cabling.departures, linked]
          rw [arrivals, departures]
          simp only [copiesOf, List.countP_cons] at inductionHypothesis ⊢
          omega

/-! ## Where the entries lead -/

/-- The port of an entry is where the host is attached, or leads to a switch with an
entry for it. -/
def Traffic.Leads (cabling : Cabling Switch) (mac : Mac) (traffic : Traffic Switch) : Prop :=
  ∀ s port, traffic.hop mac s = some port → cabling.attached mac = some (s, port) ∨
    ∃ there, cabling.link (s, port) = some there ∧ (traffic.hop mac there.1).isSome

variable {home : Port Switch} {request frame : Frame} {acts : List (Act Switch)}
variable {cbench : Switch → Bool}

theorem Traffic.Reaches.leads (asked : cabling.Asked home request)
    (run : Traffic.Reaches cabling cbench home request acts traffic)
    (careful : Careful cbench acts) (allocates : Allocates acts) (mac : Mac) :
    traffic.Leads cabling mac := by
  intro s port entry
  obtain ⟨net, traced, within⟩ := Traffic.Reaches.traced asked run careful allocates
  rw [← within.hop mac] at entry ⊢
  obtain ⟨last, path, attached, route⟩ := traced.routes mac s ⟨port, entry⟩
  cases route with
  | arrive here isLast =>
      cases here.symm.trans entry
      exact .inl (isLast ▸ attached)
  | step here linked rest _ =>
      cases here.symm.trans entry
      refine .inr ⟨_, linked, ?_⟩
      cases rest with
      | arrive onward _ => exact onward ▸ rfl
      | step onward _ _ _ => exact onward ▸ rfl

omit [DecidableEq Switch] in
/-- The ports of entries are ports in use. -/
theorem Traffic.Leads.mem_ports {mac : Mac} (leads : traffic.Leads cabling mac) {s : Switch}
    {port : UInt16} (entry : traffic.hop mac s = some port) : port ∈ cabling.ports s := by
  rcases leads s port entry with attached | ⟨there, linked, -⟩
  · exact cabling.hosted attached
  · exact cabling.cabled linked

theorem Traffic.Reaches.orderly (asked : cabling.Asked home request)
    (run : Traffic.Reaches cabling cbench home request acts traffic)
    (careful : Careful cbench acts) (s : Switch) : (traffic.sites s).Orderly := by
  induction run generalizing s with
  | refl =>
      refine ⟨trivial, ?_, ?_, ?_⟩
      all_goals exact fun _ impossible => absurd impossible List.not_mem_nil
  | @snoc acts middle finish act earlier step inductionHypothesis =>
      have before := inductionHypothesis careful.left
      have flooded := Traffic.Reaches.flooded asked earlier
      have kept := Traffic.Reaches.kept asked earlier careful.left
      have updated {t : Switch} {incoming : Option (UInt16 × Frame)} {event : Option Event}
          {out : List (UInt16 × Frame)} {site : Site} (same : act = event.map (t, ·))
          (step : Site.Step (cabling.ports t) (middle.sites t) incoming out event site) :
          (Function.update middle.sites t site s).Orderly := by
        by_cases here : s = t
        · subst here
          obtain ⟨todo, owes⟩ := kept.owes s
          rw [Function.update_self]
          apply step.orderly (flooded.sites s) owes (before s)
          rintro rfl
          exact careful.lasting s (List.mem_append_right _ (same ▸ List.mem_cons_self))
        · rw [Function.update_of_ne here]
          exact before s
      cases step with
      | answered _ _ _ => exact before s
      | arrived _ step => exact updated rfl step
      | worked step => exact updated rfl step

/-- What is true of the network besides what the copies of the frame do. -/
structure Traffic.Guides (cabling : Cabling Switch) (enters : Switch → UInt16 → Prop)
    (frame : Frame) (traffic : Traffic Switch) : Prop where
  sound : ∀ s, (traffic.sites s).Sound (enters s)
  owes : ∀ s, ∃ todo, (traffic.sites s).Owes todo
  orderly : ∀ s, (traffic.sites s).Orderly
  single : ∀ s, Single frame (traffic.sites s)
  leads : traffic.Leads cabling (frameDst frame)

theorem Traffic.Reaches.guides (asked : cabling.Asked home request)
    (run : Traffic.Reaches cabling cbench home request acts traffic)
    (careful : Careful cbench acts) (allocates : Allocates acts)
    (positive : ∀ s, 0 ∉ cabling.ports s) (arp : frameType frame = arpData)
    (unicast : frameDst frame ≠ Mac.broadcast) :
    traffic.Guides cabling (fun s port => asked.wiring.Reachable (s, port)) frame := by
  have leads := Traffic.Reaches.leads asked run careful allocates (frameDst frame)
  refine ⟨(Traffic.Reaches.flooded asked run).sites, (Traffic.Reaches.kept asked run careful).owes,
    Traffic.Reaches.orderly asked run careful, fun s => ⟨arp, unicast, fun port entry => ?_⟩, leads⟩
  have inUse : port ∈ cabling.ports s := leads.mem_ports entry
  exact ⟨fun zero => positive s (zero ▸ inUse), fun flood => cabling.numbered s (flood ▸ inUse)⟩

/-- Entries stay, in the whole network. -/
theorem Traffic.Reaches.hop_grows {later : Traffic Switch} {more : List (Act Switch)}
    (asked : cabling.Asked home request)
    (run : Traffic.Reaches cabling cbench home request acts traffic)
    (onward : Run (Traffic.Step cabling) traffic more later)
    (careful : Careful cbench (acts ++ more)) {mac : Mac} {s : Switch}
    {port : UInt16} (entry : traffic.hop mac s = some port) : later.hop mac s = some port := by
  induction onward with
  | refl => exact entry
  | @snoc more middle finish act earlier step inductionHypothesis =>
      rw [← List.append_assoc] at careful
      have known := inductionHypothesis careful.left
      have before := run.trans earlier
      have updated {t : Switch} {incoming : Option (UInt16 × Frame)} {event : Option Event}
          {out : List (UInt16 × Frame)} {site : Site}
          (step : Site.Step (cabling.ports t) (middle.sites t) incoming out event site) :
          (Function.update middle.sites t site s).hop mac = some port := by
        by_cases here : s = t
        · subst here
          rw [Function.update_self]
          exact step.hop_grows ((Traffic.Reaches.flooded asked before).sites s)
            (Traffic.Reaches.orderly asked before careful.left s).online known
        · rw [Function.update_of_ne here]
          exact known
      cases step with
      | answered _ _ _ => exact known
      | arrived _ step => exact updated step
      | worked step => exact updated step

/-! ## The copies in the network -/

/-- Every switch that a copy of the frame is at, or comes to, has an entry for its host. -/
structure Traffic.Homeward (frame : Frame) (traffic : Traffic Switch) : Prop where
  sites : ∀ s, (traffic.sites s).Directed frame
  flying : ∀ copy ∈ traffic.flying, copy.2 = frame →
    (traffic.hop (frameDst frame) copy.1.1).isSome

/-- How many copies of the frame the network has. -/
def Traffic.carried [Fintype Switch] (frame : Frame) (traffic : Traffic Switch) : Nat :=
  copiesOf frame traffic.flying + ∑ s, (traffic.sites s).carried frame

theorem Traffic.carried_update [Fintype Switch] (traffic : Traffic Switch) (s : Switch)
    (next : Site) (flying : List (Port Switch × Frame)) :
    Traffic.carried frame ⟨Function.update traffic.sites s next, flying⟩ +
        (copiesOf frame traffic.flying + (traffic.sites s).carried frame) =
      traffic.carried frame + (copiesOf frame flying + next.carried frame) := by
  have moved : (fun t => (Function.update traffic.sites s next t).carried frame) =
      Function.update (fun t => (traffic.sites t).carried frame) s (next.carried frame) :=
    Function.comp_update (Site.carried frame) _ _ _
  have now := Finset.sum_update_of_mem (Finset.mem_univ s)
    (fun t => (traffic.sites t).carried frame) (next.carried frame)
  have before := Finset.sum_eq_add_sum_sdiff_singleton_of_mem (Finset.mem_univ s)
    fun t => (traffic.sites t).carried frame
  unfold Traffic.carried
  simp only
  rw [moved, now, before]
  omega

omit [DecidableEq Switch] in
/-- Idle switches have no copies. -/
theorem Traffic.Idle.unseen [Fintype Switch] (idle : traffic.Idle)
    (others : ∀ copy ∈ traffic.flying, copy.2 ≠ frame) : traffic.carried frame = 0 := by
  have sites (s : Switch) : (traffic.sites s).carried frame = 0 := by
    unfold Site.carried
    rw [(idle s).inbox, (idle s).chunk, (idle s).outbox]
    rfl
  unfold Traffic.carried
  rw [copiesOf_eq_zero others, Finset.sum_eq_zero fun s _ => sites s]
  rfl

section Steps

variable {enters : Switch → UInt16 → Prop} {others : List (Port Switch × Frame)} {s : Switch}
variable {incoming : Option (UInt16 × Frame)} {out : List (UInt16 × Frame)}
variable {event : Option Event} {last : Site}

/-- A step at one switch neither loses nor doubles the frame: what is dropped is dropped by the
controller, and what leaves the network gets to the host. -/
theorem Traffic.Guides.balance [Fintype Switch] (guides : traffic.Guides cabling enters frame)
    (split : traffic.flying.Perm
      (others ++ incoming.toList.map fun copy => ((s, copy.1), copy.2)))
    (step : Site.Step (cabling.ports s) (traffic.sites s) incoming out event last) :
    traffic.carried frame = copiesOf frame (cabling.departures s out) +
        copiesOf frame (traffic.dropped s last event) +
        Traffic.carried frame
          ⟨Function.update traffic.sites s last, others ++ cabling.arrivals s out⟩ ∧
      ∀ copy ∈ cabling.departures s out, copy.2 = frame →
        cabling.attached (frameDst frame) = some copy.1 := by
  obtain ⟨todo, owes⟩ := guides.owes s
  obtain ⟨kept, leaves⟩ :=
    step.carries (guides.sound s) owes (guides.orderly s) (guides.single s)
  constructor
  · have moved := @Traffic.carried_update _ _ frame _ traffic s last
      (others ++ cabling.arrivals s out)
    have left := @copies_leaving _ cabling frame s out
    have lost := traffic.copiesOf_dropped frame s last event
    have flown : copiesOf frame traffic.flying = copiesOf frame others +
        copiesOf frame incoming.toList := by
      unfold copiesOf
      rw [split.countP_eq, List.countP_append, List.countP_map]
      rfl
    have both : copiesOf frame (others ++ cabling.arrivals s out) = copiesOf frame others +
        copiesOf frame (cabling.arrivals s out) := List.countP_append
    omega
  · intro copy member same
    obtain ⟨leaving, inOut, rfl⟩ := List.mem_map.mp member
    obtain ⟨goesOut, unlinked⟩ := List.mem_filter.mp inOut
    rcases guides.leads s leaving.1 (leaves leaving goesOut same) with attached | ⟨there, linked, -⟩
    · exact attached
    · rw [linked] at unlinked
      cases unlinked

omit [DecidableEq Switch] in
/-- Only a controller that does not know the host drops the frame. -/
theorem Traffic.Guides.drops (guides : traffic.Guides cabling enters frame)
    (single : Single frame last)
    (step : Site.Step (cabling.ports s) (traffic.sites s) incoming out event last) :
    ∀ copy ∈ traffic.dropped s last event, copy.2 = frame →
      copy.1.1 = s ∧ last.hop (frameDst frame) = none := by
  intro copy member same
  obtain ⟨todo, owes⟩ := guides.owes s
  have some : 0 < copiesOf frame (traffic.dropped s last event) :=
    List.countP_pos_iff.mpr ⟨copy, member, decide_eq_true same⟩
  rw [traffic.copiesOf_dropped] at some
  obtain ⟨_, -, rfl⟩ := List.mem_map.mp member
  exact ⟨rfl, step.drops (guides.sound s) owes single some⟩

omit [DecidableEq Switch] in
/-- Only known hosts get frames that come in. -/
theorem Traffic.Homeward.came (homeward : traffic.Homeward frame)
    (split : traffic.flying.Perm
      (others ++ incoming.toList.map fun copy => ((s, copy.1), copy.2)))
    (copy : UInt16 × Frame) (isCopy : incoming = some copy) (same : copy.2 = frame) :
    ((traffic.sites s).hop (frameDst frame)).isSome := by
  subst isCopy
  exact homeward.flying ((s, copy.1), copy.2)
    (split.symm.subset (List.mem_append_right _ List.mem_cons_self)) same

theorem Traffic.Homeward.site (homeward : traffic.Homeward frame)
    (guides : traffic.Guides cabling enters frame)
    (split : traffic.flying.Perm
      (others ++ incoming.toList.map fun copy => ((s, copy.1), copy.2)))
    (step : Site.Step (cabling.ports s) (traffic.sites s) incoming out event last) :
    Traffic.Homeward frame
      ⟨Function.update traffic.sites s last, others ++ cabling.arrivals s out⟩ := by
  have sound := guides.sound s
  have orderly := guides.orderly s
  obtain ⟨todo, owes⟩ := guides.owes s
  have still {t : Switch} (was : (traffic.hop (frameDst frame) t).isSome) :
      ((Function.update traffic.sites s last t).hop (frameDst frame)).isSome := by
    obtain ⟨port, entry⟩ := Option.isSome_iff_exists.mp was
    by_cases here : t = s
    · subst here
      rw [Function.update_self]
      exact Option.isSome_iff_exists.mpr ⟨port, step.hop_grows sound orderly.online entry⟩
    · rw [Function.update_of_ne here]
      exact was
  constructor
  · intro t
    show Site.Directed frame (Function.update traffic.sites s last t)
    by_cases here : t = s
    · subst here
      rw [Function.update_self]
      exact step.directed sound orderly.online (homeward.sites t) (homeward.came split)
    · rw [Function.update_of_ne here]
      exact homeward.sites t
  · intro copy member same
    rcases List.mem_append.mp member with old | new
    · exact still (homeward.flying copy (split.symm.subset (List.mem_append_left _ old)) same)
    · obtain ⟨leaving, inOut, arrives⟩ := List.mem_filterMap.mp new
      obtain ⟨there, linked, rfl⟩ := Option.map_eq_some_iff.mp arrives
      have entry := (step.carries sound owes orderly (guides.single s)).2 leaving inOut same
      rcases guides.leads s leaving.1 entry with attached | ⟨onward, cable, known⟩
      · cases linked.symm.trans (cabling.hostPort attached)
      · cases linked.symm.trans cable
        exact still known

end Steps

section Runs

variable {sights : List (Sight Switch)} {later : Traffic Switch}

/-- What is seen of a run is about a run. -/
theorem Traffic.Shows.run (run : Run (Traffic.Shows cabling) traffic sights later) :
    Run (Traffic.Step cabling) traffic (sights.map Sight.act) later := by
  induction run with
  | refl => exact .refl
  | snoc _ shows inductionHypothesis =>
      rw [List.map_append]
      exact .snoc inductionHypothesis shows.step

/-- Every run shows something. -/
theorem Traffic.shows_run (run : Run (Traffic.Step cabling) traffic acts later) :
    ∃ sights, Run (Traffic.Shows cabling) traffic sights later ∧ sights.map Sight.act = acts ∧
      ∀ sight ∈ sights, sight.act ≠ none → sight.sent = [] := by
  induction run with
  | refl => exact ⟨[], .refl, rfl, fun _ impossible => absurd impossible List.not_mem_nil⟩
  | snoc _ step inductionHypothesis =>
      obtain ⟨sights, seen, same, silent⟩ := inductionHypothesis
      obtain ⟨sight, shows, isAct, quiet⟩ := step.shows
      refine ⟨sights ++ [sight], .snoc seen shows, ?_, fun other member => ?_⟩
      · rw [List.map_append, same, List.map_singleton, isAct]
      · rcases List.mem_append.mp member with old | new
        · exact silent other old
        · rw [List.mem_singleton.mp new]
          exact fun acts => quiet (isAct ▸ acts)

/-- The frame is sent only into switches whose controllers know its host. -/
def Knows (frame : Frame) (traffic : Traffic Switch) (sight : Sight Switch) : Prop :=
  ∀ here, (here, frame) ∈ sight.sent → (traffic.hop (frameDst frame) here.1).isSome

omit [DecidableEq Switch] in
/-- Nothing is wrong with a frame that nobody has sent. -/
theorem Traffic.homeward_of_carried [Fintype Switch] (unseen : traffic.carried frame = 0) :
    traffic.Homeward frame := by
  have flying : copiesOf frame traffic.flying = 0 := Nat.eq_zero_of_add_eq_zero_right unseen
  have sites (s : Switch) : (traffic.sites s).carried frame = 0 :=
    Finset.sum_eq_zero_iff.mp (Nat.eq_zero_of_add_eq_zero_left unseen) s (Finset.mem_univ s)
  unfold copiesOf at flying
  rw [List.countP_eq_zero] at flying
  refine ⟨fun s message member about => ?_,
    fun copy member same => absurd (decide_eq_true same) (flying copy member)⟩
  have told := List.countP_eq_zero.mp (Nat.eq_zero_of_add_eq_zero_right (sites s))
  exact absurd about (told message member)

omit [DecidableEq Switch] in
/-- A host sends a frame. -/
theorem Traffic.Homeward.answered (homeward : traffic.Homeward frame) {here : Port Switch}
    {answer : Frame} (knows : Knows frame traffic ⟨none, [(here, answer)], [], []⟩) :
    Traffic.Homeward frame { traffic with flying := traffic.flying ++ [(here, answer)] } := by
  refine ⟨homeward.sites, fun copy member same => ?_⟩
  rcases List.mem_append.mp member with old | new
  · exact homeward.flying copy old same
  · cases List.mem_singleton.mp new
    cases same
    exact knows here List.mem_cons_self

/-- Before and after the last step of a run, the network has what is true of all of them. -/
theorem Traffic.Reaches.guides_last {middle : Traffic Switch} (asked : cabling.Asked home request)
    (positive : ∀ s, 0 ∉ cabling.ports s) (arp : frameType frame = arpData)
    (unicast : frameDst frame ≠ Mac.broadcast)
    (run : Traffic.Reaches cabling cbench home request acts traffic)
    (earlier : Run (Traffic.Shows cabling) traffic sights middle)
    (shows : Traffic.Shows cabling middle sight later)
    (careful : Careful cbench (acts ++ (sights ++ [sight]).map Sight.act))
    (allocates : Allocates (acts ++ (sights ++ [sight]).map Sight.act)) :
    middle.Guides cabling (fun s port => asked.wiring.Reachable (s, port)) frame ∧
      later.Guides cabling (fun s port => asked.wiring.Reachable (s, port)) frame ∧
      Careful cbench (acts ++ sights.map Sight.act) ∧
      Allocates (acts ++ sights.map Sight.act) := by
  have after := Traffic.Reaches.guides asked (run.trans (Traffic.Shows.run (.snoc earlier shows)))
    careful allocates positive arp unicast
  rw [List.map_append, ← List.append_assoc] at careful allocates
  have before := Traffic.Reaches.guides asked (run.trans (Traffic.Shows.run earlier))
    careful.left allocates.left positive arp unicast
  exact ⟨before, after, careful.left, allocates.left⟩

/-! ### Accounts -/

/-- What one step does to the copies of the frame. -/
theorem Traffic.Shows.accounts [Fintype Switch] {enters : Switch → UInt16 → Prop}
    (shows : Traffic.Shows cabling traffic sight next)
    (guides : traffic.Guides cabling enters frame) :
    traffic.carried frame + copiesOf frame sight.sent =
        copiesOf frame sight.reached + copiesOf frame sight.dropped + next.carried frame ∧
      ∀ copy ∈ sight.reached, copy.2 = frame →
        cabling.attached (frameDst frame) = some copy.1 := by
  have empty : copiesOf frame ([] : List (Port Switch × Frame)) = 0 := rfl
  rcases shows.cases with ⟨here, answer, rfl, rfl⟩ |
    ⟨others, s, incoming, out, event, last, split, step, rfl, rfl⟩
  · refine ⟨?_, fun _ impossible => absurd impossible List.not_mem_nil⟩
    have flown : copiesOf frame (traffic.flying ++ [(here, answer)]) =
        copiesOf frame traffic.flying + copiesOf frame [(here, answer)] := List.countP_append
    unfold Traffic.carried
    simp only [flown, empty]
    omega
  · obtain ⟨kept, leave⟩ := guides.balance split step
    refine ⟨?_, leave⟩
    simp only [empty]
    omega

/-- In a whole run every copy that is sent is still in the network, has got to its host, or
was dropped. -/
theorem Traffic.Reaches.accounts [Fintype Switch] (asked : cabling.Asked home request)
    (positive : ∀ s, 0 ∉ cabling.ports s) (arp : frameType frame = arpData)
    (unicast : frameDst frame ≠ Mac.broadcast)
    (run : Traffic.Reaches cabling cbench home request acts traffic)
    (onward : Run (Traffic.Shows cabling) traffic sights later)
    (careful : Careful cbench (acts ++ sights.map Sight.act))
    (allocates : Allocates (acts ++ sights.map Sight.act)) :
    traffic.carried frame + copiesOf frame (sights.flatMap Sight.sent) =
        copiesOf frame (sights.flatMap Sight.reached) +
          copiesOf frame (sights.flatMap Sight.dropped) + later.carried frame ∧
      ∀ copy ∈ sights.flatMap Sight.reached, copy.2 = frame →
        cabling.attached (frameDst frame) = some copy.1 := by
  induction onward with
  | refl =>
      have empty : copiesOf frame ([] : List (Port Switch × Frame)) = 0 := rfl
      refine ⟨?_, fun _ impossible => absurd impossible List.not_mem_nil⟩
      simp only [List.flatMap_nil, empty]
      omega
  | @snoc sights middle finish sight earlier shows inductionHypothesis =>
      obtain ⟨guides, -, wasCareful, wasAllocated⟩ := Traffic.Reaches.guides_last asked positive
        arp unicast run earlier shows careful allocates
      obtain ⟨balance, right⟩ := inductionHypothesis wasCareful wasAllocated
      obtain ⟨kept, gets⟩ := shows.accounts guides
      simp only [List.flatMap_append, List.flatMap_singleton]
      have count (first second : List (Port Switch × Frame)) :
          copiesOf frame (first ++ second) = copiesOf frame first + copiesOf frame second :=
        List.countP_append
      refine ⟨?_, fun copy member => ?_⟩
      · rw [count, count, count]
        omega
      · exact (List.mem_append.mp member).elim (right copy) (gets copy)

/-! ### Drops -/

/-- What is dropped in a step is dropped where the host is still not known after it. -/
theorem Traffic.Shows.drops {enters : Switch → UInt16 → Prop}
    (shows : Traffic.Shows cabling traffic sight next)
    (guides : traffic.Guides cabling enters frame) (after : next.Guides cabling enters frame) :
    ∀ copy ∈ sight.dropped, copy.2 = frame → next.hop (frameDst frame) copy.1.1 = none := by
  rcases shows.cases with ⟨here, answer, rfl, rfl⟩ |
    ⟨others, s, incoming, out, event, last, split, step, rfl, rfl⟩
  · exact fun _ impossible => absurd impossible List.not_mem_nil
  · intro copy member same
    have now : (Function.update traffic.sites s last) s = last := Function.update_self ..
    have single : Single frame last := now ▸ after.single s
    obtain ⟨rfl, unknown⟩ := guides.drops single step copy member same
    show (Function.update traffic.sites copy.1.1 last copy.1.1).hop (frameDst frame) = none
    rw [now, unknown]

/-- Only switches drop the frame that do not know its host at first. -/
theorem Traffic.Reaches.drops (asked : cabling.Asked home request)
    (positive : ∀ s, 0 ∉ cabling.ports s) (arp : frameType frame = arpData)
    (unicast : frameDst frame ≠ Mac.broadcast)
    (run : Traffic.Reaches cabling cbench home request acts traffic)
    (onward : Run (Traffic.Shows cabling) traffic sights later)
    (careful : Careful cbench (acts ++ sights.map Sight.act))
    (allocates : Allocates (acts ++ sights.map Sight.act)) :
    ∀ copy ∈ sights.flatMap Sight.dropped, copy.2 = frame →
      traffic.hop (frameDst frame) copy.1.1 = none := by
  induction onward with
  | refl => exact fun _ impossible => absurd impossible List.not_mem_nil
  | @snoc sights middle finish sight earlier shows inductionHypothesis =>
      obtain ⟨before, after, wasCareful, wasAllocated⟩ := Traffic.Reaches.guides_last asked positive
        arp unicast run earlier shows careful allocates
      have known (s : Switch) (port : UInt16)
          (entry : traffic.hop (frameDst frame) s = some port) :
          finish.hop (frameDst frame) s = some port :=
        Traffic.Reaches.hop_grows asked run (Traffic.Shows.run (.snoc earlier shows)) careful entry
      intro copy member same
      rw [List.flatMap_append, List.flatMap_singleton] at member
      rcases List.mem_append.mp member with old | new
      · exact inductionHypothesis wasCareful wasAllocated copy old same
      · have unknown := shows.drops before after copy new same
        rw [Option.eq_none_iff_forall_ne_some]
        intro port entry
        cases unknown.symm.trans (known _ _ entry)

/-- A frame is not dropped at a switch where it was sent or sent on to. -/
theorem Traffic.Homeward.step {enters : Switch → UInt16 → Prop}
    (homeward : traffic.Homeward frame) (knows : Knows frame traffic sight)
    (shows : Traffic.Shows cabling traffic sight next)
    (guides : traffic.Guides cabling enters frame) (after : next.Guides cabling enters frame) :
    next.Homeward frame ∧ ∀ copy ∈ sight.dropped, copy.2 ≠ frame := by
  have unknown := shows.drops guides after
  rcases shows.cases with ⟨here, answer, rfl, rfl⟩ |
    ⟨others, s, incoming, out, event, last, split, step, rfl, rfl⟩
  · exact ⟨homeward.answered knows, fun _ impossible => absurd impossible List.not_mem_nil⟩
  · refine ⟨homeward.site guides split step, fun copy member same => ?_⟩
    obtain ⟨dropped, isDropped, rfl⟩ := List.mem_map.mp member
    obtain ⟨port, entry⟩ := Option.isSome_iff_exists.mp
      ((homeward.sites s).known isDropped same)
    have still := step.hop_grows (guides.sound s) (guides.orderly s).online entry
    have none : (Function.update traffic.sites s last s).hop (frameDst frame) = none :=
      unknown _ member same
    rw [Function.update_self] at none
    cases none.symm.trans still

/-- No switch drops the frame if it is sent only into switches whose controllers know its host. -/
theorem Traffic.Reaches.homeward [Fintype Switch] (asked : cabling.Asked home request)
    (positive : ∀ s, 0 ∉ cabling.ports s) (arp : frameType frame = arpData)
    (unicast : frameDst frame ≠ Mac.broadcast)
    (run : Traffic.Reaches cabling cbench home request acts traffic)
    (unseen : traffic.carried frame = 0)
    (onward : Guarded (Traffic.Shows cabling) (fun _ => Knows frame) traffic sights later)
    (careful : Careful cbench (acts ++ sights.map Sight.act))
    (allocates : Allocates (acts ++ sights.map Sight.act)) :
    later.Homeward frame ∧ ∀ copy ∈ sights.flatMap Sight.dropped, copy.2 ≠ frame := by
  induction onward with
  | refl =>
      refine ⟨Traffic.homeward_of_carried unseen, ?_⟩
      exact fun _ impossible => absurd impossible List.not_mem_nil
  | @snoc sights middle finish sight earlier knows shows inductionHypothesis =>
      obtain ⟨before, after, wasCareful, wasAllocated⟩ := Traffic.Reaches.guides_last asked positive
        arp unicast run earlier.run shows careful allocates
      obtain ⟨homeward, kept⟩ := inductionHypothesis wasCareful wasAllocated
      obtain ⟨still, keeps⟩ := homeward.step knows shows before after
      refine ⟨still, fun copy member => ?_⟩
      rw [List.flatMap_append, List.flatMap_singleton] at member
      exact (List.mem_append.mp member).elim (kept copy) (keeps copy)

end Runs

end Network

end DAIM.Network
