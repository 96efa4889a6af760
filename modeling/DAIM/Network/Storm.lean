import DAIM.Network.Copies

/-!
# Broadcast storms

The controllers of a network flood the copies of one broadcast ARP frame.  What
comes in at a port is at most what the switch at the other end of its link has
flooded, for frames that had come in by its other ports.
-/

namespace DAIM.Network

open DAIM.Library DAIM.OpenFlow DAIM.Linked DAIM.Com DAIM.Hosts DAIM.Ani41

/-! ## The network -/

/-- A host asks all the others at the port where it is attached. -/
structure Cabling.Asked {Switch : Type*} (cabling : Cabling Switch) (home : Port Switch)
    (frame : Frame) : Prop where
  attached : cabling.attached (frameSrc frame) = some home
  header : OfEthernet.size ≤ frame.length
  asks : AsksAll frame

/-- The links of the network, for a flood that starts where the host is attached. -/
def Cabling.Asked.wiring {Switch : Type*} {cabling : Cabling Switch} {home : Port Switch}
    {frame : Frame} (asked : cabling.Asked home frame) : Wiring Switch UInt16 where
  link := cabling.link
  symmetric := cabling.symmetric
  home := home
  unlinked := cabling.hostPort asked.attached

section Network

variable {Switch : Type*} [DecidableEq Switch] {cabling : Cabling Switch} {home : Port Switch}
variable {frame : Frame}

/-- The frame asks all hosts, and comes in at the port. -/
def askingAt (here : Port Switch) (copy : Port Switch × Frame) : Bool :=
  decide (copy.1 = here ∧ AsksAll copy.2)

/-- The copies on the way to a port. -/
def Traffic.aloft (traffic : Traffic Switch) (here : Port Switch) : Nat :=
  traffic.flying.countP (askingAt here)

/-- The copies that have come in at a port and were not flooded yet, and those
that were. -/
def Traffic.arrived (traffic : Traffic Switch) (acts : List (Act Switch)) (here : Port Switch) :
    Nat :=
  (traffic.sites here.1).waiting here.2 + (floods here.1 acts).count here.2

theorem floods_append (t : Switch) (acts : List (Act Switch)) (s : Switch)
    (event : Option Event) :
    floods t (acts ++ [event.map (s, ·)]) =
      floods t acts ++ if s = t then eventFloods event else [] := by
  unfold floods
  rw [List.flatMap_append, List.flatMap_singleton]
  congr 1
  cases event with
  | none => simp [eventFloods]
  | some event => rfl

/-- Whether a frame that leaves by a port comes in at `here`. -/
theorem askingAt_leaving {here there : Port Switch} (linked : cabling.link there = some here)
    (s : Switch) (port : UInt16) (frame : Frame) :
    (((cabling.link (s, port)).map (·, frame)).map (askingAt here)).getD false =
      (decide (s = there.1) && asking there.2 (port, frame)) := by
  by_cases same : (s, port) = there
  · subst same
    rw [linked]
    simp [askingAt, asking]
  · have elsewhere : ¬ (s = there.1 ∧ port = there.2) := fun both => same (Prod.ext both.1 both.2)
    cases leads : cabling.link (s, port) with
    | none =>
        by_cases s = there.1 <;> simp_all [asking]
    | some other =>
        have different : other ≠ here := by
          rintro rfl
          exact same (Option.some.inj
            ((cabling.symmetric leads).symm.trans (cabling.symmetric linked)))
        by_cases s = there.1 <;> simp_all [askingAt, asking]

/-- Over a link come the frames that went out at its other end. -/
theorem countP_arrivals {here there : Port Switch} (linked : cabling.link there = some here)
    (s : Switch) (out : List (UInt16 × Frame)) :
    (cabling.arrivals s out).countP (askingAt here) =
      if s = there.1 then out.countP (asking there.2) else 0 := by
  unfold Cabling.arrivals
  simp only [List.countP_filterMap, askingAt_leaving linked]
  split
  · rename_i same
    simp [same]
  · rename_i other
    simp [other]

/-- Nothing comes in at a port without a link. -/
theorem countP_arrivals_unlinked {here : Port Switch} (unlinked : cabling.link here = none)
    (s : Switch) (out : List (UInt16 × Frame)) :
    (cabling.arrivals s out).countP (askingAt here) = 0 := by
  rw [List.countP_eq_zero]
  intro copy member asks
  obtain ⟨⟨port, frame⟩, -, arrives⟩ := List.mem_filterMap.mp member
  obtain ⟨there, linked, rfl⟩ := Option.map_eq_some_iff.mp arrives
  cases (of_decide_eq_true asks).1
  cases unlinked.symm.trans (cabling.symmetric linked)

/-- Where copies come in, what is at the switches, and how many copies there
are: no more than the switches at the other ends have flooded. -/
structure Traffic.Flooded (asked : cabling.Asked home frame) (acts : List (Act Switch))
    (traffic : Traffic Switch) : Prop where
  sites : ∀ s, (traffic.sites s).Sound fun port => asked.wiring.Reachable (s, port)
  flying : ∀ copy ∈ traffic.flying,
    Carried (fun port => asked.wiring.Reachable (copy.1.1, port)) copy.1.2 copy.2
  reached : ∀ s, ∀ port ∈ floods s acts, asked.wiring.Reachable (s, port)
  started : traffic.aloft home + traffic.arrived acts home ≤ 1
  linked : ∀ here there, cabling.link there = some here →
    traffic.aloft here + traffic.arrived acts here + (traffic.sites there.1).pending there.2 ≤
      (floods there.1 acts).countP (· ≠ there.2)

variable {asked : cabling.Asked home frame} {acts : List (Act Switch)} {traffic : Traffic Switch}

/-- The copies on the way to a port, with and without the frame that comes in. -/
theorem Traffic.aloft_of_perm {others : List (Port Switch × Frame)} {s : Switch}
    {incoming : Option (UInt16 × Frame)}
    (split : traffic.flying.Perm
      (others ++ incoming.toList.map fun copy => ((s, copy.1), copy.2))) (here : Port Switch) :
    traffic.aloft here = others.countP (askingAt here) +
      if s = here.1 then incoming.toList.countP (asking here.2) else 0 := by
  unfold Traffic.aloft
  rw [split.countP_eq, List.countP_append, List.countP_map]
  congr 1
  by_cases same : s = here.1
  · rw [if_pos same]
    congr 1
    funext copy
    simp [askingAt, asking, Prod.ext_iff, same]
  · rw [if_neg same, List.countP_eq_zero]
    intro copy _ asks
    exact same (congrArg Prod.fst (of_decide_eq_true asks).1)

/-- A step at one switch, with what is in flight besides the frame that comes in. -/
theorem Traffic.Flooded.site (flooded : traffic.Flooded asked acts)
    {others : List (Port Switch × Frame)} {s : Switch} {incoming : Option (UInt16 × Frame)}
    {out : List (UInt16 × Frame)} {event : Option Event} {next : Site}
    (split : traffic.flying.Perm
      (others ++ incoming.toList.map fun copy => ((s, copy.1), copy.2)))
    (step : Site.Step (cabling.ports s) (traffic.sites s) incoming out event next) :
    Traffic.Flooded asked (acts ++ [event.map (s, ·)])
      ⟨Function.update traffic.sites s next, others ++ cabling.arrivals s out⟩ := by
  have sound := flooded.sites s
  have carried : ∀ copy, incoming = some copy →
      Carried (fun port => asked.wiring.Reachable (s, port)) copy.1 copy.2 := by
    rintro copy rfl
    have aloft : ((s, copy.1), copy.2) ∈ traffic.flying := split.mem_iff.mpr (by simp)
    exact flooded.flying _ aloft
  have balanced := step.balanced sound (cabling.distinct s)
  have remains := Traffic.aloft_of_perm split
  have worked (here : Port Switch) :
      (Function.update traffic.sites s next here.1).waiting here.2 +
          (if s = here.1 then eventFloods event else []).count here.2 ≤
        (traffic.sites here.1).waiting here.2 +
          if s = here.1 then incoming.toList.countP (asking here.2) else 0 := by
    by_cases same : s = here.1
    · subst same
      simpa using balanced.worked here.2
    · simp [same, Function.update_of_ne (Ne.symm same)]
  have sent (there : Port Switch) :
      (if s = there.1 then out.countP (asking there.2) else 0) +
          (Function.update traffic.sites s next there.1).pending there.2 ≤
        (traffic.sites there.1).pending there.2 +
          (if s = there.1 then eventFloods event else []).countP (· ≠ there.2) := by
    by_cases same : s = there.1
    · subst same
      simpa using balanced.sent there.2
    · simp [same, Function.update_of_ne (Ne.symm same)]
  constructor
  · intro t
    by_cases same : t = s
    · subst same
      simpa using step.sound sound carried
    · simpa [Function.update_of_ne same] using flooded.sites t
  · intro copy member
    rcases List.mem_append.mp member with old | new
    · exact flooded.flying copy (split.mem_iff.mpr (List.mem_append_left _ old))
    · obtain ⟨⟨port, sent⟩, leaves, arrives⟩ := List.mem_filterMap.mp new
      obtain ⟨here, linked, rfl⟩ := Option.map_eq_some_iff.mp arrives
      obtain ⟨kind, entered⟩ := step.out_kind sound carried leaves
      refine ⟨kind, cabling.physical (cabling.symmetric linked), fun asks => ?_⟩
      obtain ⟨inPort, other, reachable⟩ := entered asks
      exact reachable.hop ⟨port, Ne.symm other, linked⟩
  · intro t port member
    rw [floods_append] at member
    rcases List.mem_append.mp member with old | new
    · exact flooded.reached t port old
    · split at new
      · rename_i same
        subst same
        exact step.floods_enter sound new
      · cases new
  · have before := flooded.started
    have unlinked := countP_arrivals_unlinked (cabling.hostPort asked.attached) s out
    have now := worked home
    have was := remains home
    unfold Traffic.aloft Traffic.arrived at *
    rw [floods_append, List.count_append, List.countP_append]
    simp only at *
    omega
  · intro here there linked
    have before := flooded.linked here there linked
    have arrivals := countP_arrivals linked s out
    have now := worked here
    have was := remains here
    have gone := sent there
    unfold Traffic.aloft Traffic.arrived at *
    rw [floods_append, floods_append, List.count_append, List.countP_append, List.countP_append]
    simp only at *
    omega

theorem Traffic.Flooded.step (flooded : traffic.Flooded asked acts) {act : Act Switch}
    {next : Traffic Switch} (step : Traffic.Step cabling traffic act next) :
    next.Flooded asked (acts ++ [act]) := by
  cases step with
  | @arrived before after s inPort reported out event site split step =>
      apply flooded.site _ step
      rw [split]
      simpa using List.perm_middle.trans (List.perm_append_singleton _ _).symm
  | @worked s out event site step =>
      apply flooded.site _ step
      simp
  | @answered here answer attached arp unicast =>
      have unasked : ¬ AsksAll answer := fun asks => unicast asks.2
      have aloft (there : Port Switch) :
          Traffic.aloft { traffic with flying := traffic.flying ++ [(here, answer)] } there =
            traffic.aloft there := by
        simp [Traffic.aloft, askingAt, unasked]
      have same (s : Switch) : floods s (acts ++ [none]) = floods s acts := by simp [floods]
      refine ⟨flooded.sites, ?_, ?_, ?_, ?_⟩
      · intro copy member
        rcases List.mem_append.mp member with old | new
        · exact flooded.flying copy old
        · cases List.mem_singleton.mp new
          refine ⟨.inl arp, fun flood => ?_, fun asks => absurd asks unasked⟩
          exact cabling.numbered here.1 (flood ▸ cabling.hosted attached)
      · intro s port member
        exact flooded.reached s port (same s ▸ member)
      · rw [aloft, Traffic.arrived, same]
        exact flooded.started
      · intro there other linked
        rw [aloft, Traffic.arrived, same, same]
        exact flooded.linked there other linked

theorem Traffic.flooded_initial (asked : cabling.Asked home frame) (cbench : Switch → Bool) :
    (Traffic.initial cbench home frame).Flooded asked [] := by
  refine ⟨?_, ?_, ?_, ?_, ?_⟩
  · intro s
    exact ⟨Process.numbered_initial (cbench s), fun _ none => absurd none List.not_mem_nil,
      fun _ none => absurd none List.not_mem_nil, fun _ none => absurd none List.not_mem_nil⟩
  · intro copy member
    cases List.mem_singleton.mp member
    refine ⟨.inl asked.asks.1, fun flood => ?_, fun _ => Wiring.Reachable.home⟩
    exact cabling.numbered home.1 (flood ▸ cabling.hosted asked.attached)
  · intro s port impossible
    cases impossible
  · have one : Traffic.aloft (Traffic.initial cbench home frame) home ≤ 1 :=
      List.countP_le_length
    simpa [Traffic.arrived, Traffic.initial, Site.initial, Site.waiting, floods] using one
  · intro here there linked
    have elsewhere : home ≠ here := by
      rintro rfl
      cases (cabling.hostPort asked.attached).symm.trans (cabling.symmetric linked)
    simp [Traffic.aloft, Traffic.arrived, Traffic.initial, Site.initial, Site.waiting,
      Site.pending, floods, askingAt, elsewhere]

/-- The runs that start with one frame that asks all hosts. -/
abbrev Traffic.Reaches (cabling : Cabling Switch) (cbench : Switch → Bool) (home : Port Switch)
    (frame : Frame) (acts : List (Act Switch)) (traffic : Traffic Switch) : Prop :=
  Run (Traffic.Step cabling) (Traffic.initial cbench home frame) acts traffic

theorem Traffic.Reaches.flooded {cbench : Switch → Bool} (asked : cabling.Asked home frame)
    (run : Traffic.Reaches cabling cbench home frame acts traffic) :
    traffic.Flooded asked acts := by
  induction run with
  | refl => exact Traffic.flooded_initial asked cbench
  | snoc _ step inductionHypothesis => exact inductionHypothesis.step step

/-- Without loops, no controller sends two flooding messages. -/
theorem Traffic.Reaches.floods_once {cbench : Switch → Bool} (asked : cabling.Asked home frame)
    (free : asked.wiring.LoopFree)
    (run : Traffic.Reaches cabling cbench home frame acts traffic) (s : Switch) :
    (floods s acts).length ≤ 1 := by
  have flooded := run.flooded asked
  apply @Wiring.LoopFree.once _ _ asked.wiring _ _ free (fun t => floods t acts)
  · exact flooded.reached
  · have started := flooded.started
    unfold Traffic.arrived at started
    show (floods home.1 acts).count home.2 ≤ 1
    omega
  · intro here there linked
    have bound := flooded.linked here there linked
    unfold Traffic.arrived at bound
    show (floods here.1 acts).count here.2 ≤ (floods there.1 acts).countP (· ≠ there.2)
    omega

end Network

end DAIM.Network
