import DAIM.Ani41.Modes
import DAIM.Network.Cables
import DAIM.Network.Storm

/-!
# Runs along trails

For every trail of a flood there is a run in which a copy takes it: each
controller on the way is told of the copy and has it flooded.
-/

namespace DAIM.Network

open DAIM.Library DAIM.OpenFlow DAIM.Linked DAIM.Com DAIM.Hosts DAIM.Ani41

/-! ## One controller -/

/-- The controller waits for its switch, and no call would get stuck. -/
structure Waits (p : Process) : Prop where
  reading : p.place = .reading
  ready : p.ani.Ready

theorem waits_initial (cbench : Bool) : Waits (Process.initial cbench) where
  reading := rfl
  ready := by
    refine ⟨Ani.initial_whole cbench, ?_⟩
    show (0 : Int) ≤ 0
    omega

/-- Steps that neither read nor write. -/
def Internally (p q : Process) : Prop :=
  ∃ events, Run Process.Step p events q ∧ ∀ event ∈ events, event = .internal

theorem Internally.refl (p : Process) : Internally p p :=
  ⟨[], .refl, fun _ impossible => absurd impossible List.not_mem_nil⟩

theorem Internally.single {p q : Process} (step : Process.Step p .internal q) : Internally p q :=
  ⟨[.internal], .single step, fun _ member => List.mem_singleton.mp member⟩

theorem Internally.numbered {p q : Process} (internally : Internally p q)
    (numbered : p.Numbered) : q.Numbered := by
  obtain ⟨events, run, quiet⟩ := internally
  induction run with
  | refl => exact numbered
  | @snoc events middle finish event earlier step inductionHypothesis =>
      have before := inductionHypothesis fun other member =>
        quiet other (List.mem_append_left _ member)
      apply step.numbered before
      rintro call rfl
      cases quiet _ (List.mem_append_right _ List.mem_cons_self)

/-- No connection is lost, what is read is one message, and system calls succeed. -/
def Calm : Event → Prop
  | .internal => True
  | .received chunk => Framed chunk
  | .handled call => call.env = .calm
  | _ => False

/-- A controller that is told of a frame works on the report and waits again. -/
theorem Waits.works {p : Process} (waits : Waits p) {bytes : List UInt8} (framed : Framed bytes)
    (type : messageType bytes = ofptPacketIn) :
    ∃ read before call after q, Process.Step p (.received bytes) read ∧ Internally read before ∧
      Process.Step before (.handled call) after ∧ Internally after q ∧ Takes call bytes ∧
      Waits q ∧ Calm (.handled call) := by
  obtain ⟨s, place, threads⟩ := p
  have reading : place = .reading := waits.reading
  have isReady : s.Ready := waits.ready
  subst reading
  have header : 8 ≤ bytes.length := framed.header
  have bounded : bytes.length < 65536 := by
    rw [← framed.length]
    exact UInt16.toNat_lt _
  have nonempty : bytes ≠ [] := by
    rintro rfl
    exact absurd header (by decide)
  have fits : bytes.length ≤ readBufferSize := by
    show _ ≤ 3072000
    omega
  let memory : Memory := Memory.ofList bytes Memory.zero
  have whole : memory.Starts bytes := Memory.starts_ofList _ _
  have starts : memory.Starts (bytes :: ([] : List (List UInt8))).flatten := by simpa using whole
  obtain ⟨-, version, named, length, -⟩ := head_read starts framed
  have dispatched : dispatch (memory OfpHeader.type) = some .packout :=
    dispatch_eq_some_iff.mpr (named.trans type)
  let read : Ani := { s with readBuffer := memory, readBufferLen := bytes.length }
  let found : Ani := { read with readBufferp := 0, pheader := .read 0 }
  have foundReady : found.Ready := isReady.congr rfl rfl rfl rfl rfl rfl
  obtain ⟨outcome, run, fine, ended⟩ := actionPackout_calm foundReady 0
  have called : handle .packout .calm 0 found = some outcome := run
  have takes : Takes (.of .packout 0 found .calm outcome) bytes :=
    ⟨by rwa [← Memory.shift_zero memory] at whole, dispatch_eq_some_iff.mpr type⟩
  refine ⟨⟨read, .sending, threads⟩, ?_⟩
  have received : Process.Step ⟨s, .reading, threads⟩ (.received bytes)
      ⟨read, .sending, threads⟩ := .received nonempty fits
  have known : (memory.shift 0) OfpHeader.version = ofpVersion := by rwa [Memory.shift_zero]
  cases mode : s.cbench with
  | false =>
      have chosen : normalHandler { read with readBufferp := 0 } = (found, some .packout) := by
        rw [normalHandler_known known]
        show (found, dispatch ((memory.shift 0) OfpHeader.type)) = _
        rw [Memory.shift_zero, dispatched]
      have answered : Process.Step ⟨read, .sending, threads⟩ _ _ := .answered mode chosen called
      exact ⟨_, _, _, _, received, .refl _, answered, .refl _, takes, ⟨if_neg fine, ended⟩, rfl⟩
  | true =>
      have checked : checkOpenflow 0 { read with readBufferp := 0 } = (found, 0) :=
        checkOpenflow_known known
      have scans : Process.Step ⟨read, .sending, threads⟩ .internal
          ⟨{ read with readBufferp := 0 }, .scanning bytes.length, threads⟩ := .scan mode
      have viewed : dispatch (found.view found.pheader OfpHeader.type) = some .packout := by
        show dispatch ((memory.shift 0) OfpHeader.type) = _
        rw [Memory.shift_zero, dispatched]
      have answered : Process.Step
          ⟨{ read with readBufferp := 0 }, .scanning bytes.length, threads⟩ _ _ :=
        .scanAnswered (by omega) checked viewed called
      have stated : (ntohs ((found.view found.pheader).load16 OfpHeader.length)).toNat =
          bytes.length := by
        show (ntohs ((memory.shift 0).load16 OfpHeader.length)).toNat = _
        rw [Memory.shift_zero, length]
      rw [afterCall, if_neg fine, stated] at answered
      refine ⟨_, _, _, _, received, .single scans, answered, .single (.scanned (by omega)), takes,
        ⟨rfl, ?_⟩, rfl⟩
      exact ended.congr rfl rfl rfl rfl rfl rfl

/-! ## One switch -/

/-- Steps of a controller in which nothing comes in or goes out. -/
abbrev Site.Works (ports : List UInt16) (site : Site) (event : Event) (next : Site) : Prop :=
  Site.Step ports site none [] (some event) next

theorem Site.internal_run {ports : List UInt16} {site : Site} {events : List Event} {q : Process}
    (run : Run Process.Step site.controller events q)
    (quiet : ∀ event ∈ events, event = .internal) :
    Run (Site.Works ports) site events { site with controller := q } := by
  induction run with
  | refl => exact .refl
  | @snoc events middle finish event earlier step inductionHypothesis =>
      cases quiet event (List.mem_append_right _ List.mem_cons_self)
      have before := inductionHypothesis fun other member =>
        quiet other (List.mem_append_left _ member)
      exact .snoc before (.quiet step trivial)

theorem flatMap_internal {events : List Event} (quiet : ∀ event ∈ events, event = .internal) :
    events.flatMap Event.floods = [] := by
  rw [List.flatMap_eq_nil_iff]
  intro event member
  rw [quiet event member]
  rfl

/-- A switch where nothing is left to do. -/
structure Site.Idle (site : Site) : Prop where
  waits : Waits site.controller
  inbox : site.inbox = []
  chunk : site.chunk = []
  outbox : site.outbox = []

/-- The report of the beginning of a frame, which the switch keeps. -/
def reportOf (inPort : UInt16) (frame : Frame) : PacketInMessage where
  xid := 0
  bufferId := 256
  totalLen := UInt16.ofNat frame.length
  inPort := inPort
  reason := 0
  data := frame.take missSendLen

theorem reports_reportOf (inPort : UInt16) {frame : Frame}
    (header : OfEthernet.size ≤ frame.length) :
    Reports (reportOf inPort frame).encode inPort frame := by
  have size : (frame.take missSendLen).length ≤ 128 := List.length_take_le _ _
  have part : OfEthernet.size ≤ (frame.take missSendLen).length := by
    rw [List.length_take]
    exact Nat.le_min.mpr ⟨by decide, header⟩
  have reports := @reports_encode (reportOf inPort frame) part (by
    show 18 + (frame.take missSendLen).length < 65536
    omega)
  exact ⟨reports.framed, reports.type, reports.inPort, header, List.take_prefix _ _,
    List.prefix_rfl⟩

/-- A report of an idle switch is worked on, and the controller waits again. -/
theorem Site.Idle.answers {site : Site} (idle : site.Idle) (ports : List UInt16) {inPort : UInt16}
    {frame : Frame} {bytes : List UInt8} (reports : Reports bytes inPort frame) :
    ∃ read before call after q events, Process.Step site.controller (.received bytes) read ∧
      Internally read before ∧ Process.Step before (.handled call) after ∧ Takes call bytes ∧
      Waits q ∧ Run (Site.Works ports)
        { site with inbox := site.inbox ++ [.report inPort frame bytes] } events
        { site with
          controller := q
          outbox := call.sent.map fun bytes => ⟨bytes, some (inPort, frame)⟩ } ∧
      events.flatMap Event.floods = (Event.handled call).floods ∧ ∀ event ∈ events, Calm event := by
  obtain ⟨read, before, call, after, q, received, toCall, handled, toEnd, takes, waits, calm⟩ :=
    idle.waits.works reports.framed reports.type
  let message : Message := .report inPort frame bytes
  have ⟨first, firstRun, quiet⟩ := toCall
  obtain ⟨last, lastRun, still⟩ := toEnd
  obtain ⟨controller, inbox, chunk, outbox, entries⟩ := site
  obtain ⟨-, rfl, rfl, rfl⟩ := idle
  have one : Site.Works ports ⟨controller, [message], [], [], entries⟩ (.received bytes)
      ⟨read, [], [message], [], entries⟩ :=
    .received received rfl (by simp [message, Message.bytes])
  have two : Run (Site.Works ports) ⟨read, [], [message], [], entries⟩ first
      ⟨before, [], [message], [], entries⟩ := Site.internal_run firstRun quiet
  have three : Site.Works ports ⟨before, [], [message], [], entries⟩ (.handled call)
      ⟨after, [], [], call.sent.map fun bytes => ⟨bytes, message.about⟩, entries⟩ :=
    @Site.Step.handled _ ⟨before, [], [message], [], entries⟩ _ [] [] _ _ handled rfl takes
  have four : Run (Site.Works ports)
      ⟨after, [], [], call.sent.map fun bytes => ⟨bytes, message.about⟩, entries⟩ last
      ⟨q, [], [], call.sent.map fun bytes => ⟨bytes, message.about⟩, entries⟩ :=
    Site.internal_run lastRun still
  refine ⟨read, before, call, after, q, .received bytes :: (first ++ .handled call :: last),
    received, toCall, handled, takes, waits, .cons one (two.trans (.cons three four)), ?_,
    fun event member => ?_⟩
  · have none : (Event.received bytes).floods = [] := rfl
    rw [List.flatMap_cons, List.flatMap_append, List.flatMap_cons, none, flatMap_internal quiet,
      flatMap_internal still]
    simp
  · simp only [List.mem_cons, List.mem_append] at member
    rcases member with rfl | early | rfl | late
    · exact reports.framed
    · rw [quiet event early]
      trivial
    · exact calm
    · rw [still event late]
      trivial

/-- An idle switch that has reported a copy is told to flood it. -/
theorem Site.Idle.floods {enters : UInt16 → Prop} {site : Site} (idle : site.Idle)
    (sound : site.Sound enters) (ports : List UInt16) {inPort : UInt16} {frame : Frame}
    {bytes : List UInt8} (reports : Reports bytes inPort frame)
    (carried : Carried enters inPort frame) (asks : AsksAll frame) :
    ∃ events packet q, Run (Site.Works ports)
        { site with inbox := site.inbox ++ [.report inPort frame bytes] } events
        { site with
          controller := q
          outbox := [⟨(floodAnswer packet).encode, some (packet.inPort, frame)⟩] } ∧
      packet.inPort = inPort ∧ Waits q ∧ events.flatMap Event.floods = [inPort] ∧
      ∀ event ∈ events, Calm event := by
  obtain ⟨read, before, call, after, q, events, received, toCall, handled, takes, waits, works,
    floods, calm⟩ := idle.answers ports reports
  have readNumbered : read.Numbered := received.numbered sound.numbered fun call => nofun
  have isSound : Message.Sound enters (.report inPort frame bytes) := .report reports carried
  obtain ⟨packet, kept, all, about, -, -⟩ : ∃ packet kept,
      call.sent = [(floodAnswer packet).encode] ∧
        some (inPort, frame) = some (packet.inPort, kept) ∧ AsksAll kept ∧
        enters packet.inPort := by
    rcases isSound.answered takes (toCall.numbered readNumbered) handled with
      ⟨unasked, -⟩ | flooded
    · exact absurd asks (unasked inPort frame rfl)
    · exact flooded
  cases about
  rw [all] at works
  refine ⟨events, packet, q, works, rfl, waits, ?_, calm⟩
  rw [floods]
  simp [Event.floods, Event.sent, all, floodPort_flood]

/-! ## The network -/

section Network

variable {Switch : Type*} [DecidableEq Switch] {cabling : Cabling Switch} {home : Port Switch}
variable {frame : Frame} {traffic : Traffic Switch} {acts : List (Act Switch)} {s : Switch}

/-- What one controller does is done in the network. -/
theorem Traffic.works_run {events : List Event} {site : Site}
    (run : Run (Site.Works (cabling.ports s)) (traffic.sites s) events site) :
    Run (Traffic.Step cabling) traffic (events.map fun event => some (s, event))
      ⟨Function.update traffic.sites s site, traffic.flying⟩ := by
  induction run with
  | refl =>
      rw [Function.update_eq_self]
      exact .refl
  | @snoc events middle finish event earlier step inductionHypothesis =>
      rw [List.map_append]
      apply Run.snoc inductionHypothesis
      have worked : Traffic.Step cabling
          ⟨Function.update traffic.sites s middle, traffic.flying⟩ (some (s, event)) _ :=
        @Traffic.Step.worked _ _ _ _ s _ (some event) finish (by simpa using step)
      simpa [Cabling.arrivals] using worked

theorem floods_map (t : Switch) (events : List Event) :
    floods t (events.map fun event => some (s, event)) =
      if s = t then events.flatMap Event.floods else [] := by
  unfold floods
  rw [List.flatMap_map]
  split
  · rename_i same
    simp [same]
  · rename_i other
    simp [other]

/-- No switch has anything left to do. -/
def Traffic.Idle (traffic : Traffic Switch) : Prop := ∀ s, (traffic.sites s).Idle

theorem Traffic.Idle.update (idle : traffic.Idle) {site : Site} (isIdle : site.Idle)
    (flying : List (Port Switch × Frame)) :
    Traffic.Idle ⟨Function.update traffic.sites s site, flying⟩ := by
  intro t
  by_cases same : t = s
  · subst same
    simpa using isIdle
  · simpa [Function.update_of_ne same] using idle t

/-- A copy comes in at an idle switch and is flooded. -/
theorem Traffic.Flooded.passes {asked : cabling.Asked home frame}
    (flooded : traffic.Flooded asked acts) (idle : traffic.Idle) {here : Port Switch}
    (aloft : (here, frame) ∈ traffic.flying) :
    ∃ more later, Run (Traffic.Step cabling) traffic more later ∧ later.Idle ∧
      (∀ there, asked.wiring.Hop here there → (there, frame) ∈ later.flying) ∧
      (∀ t, floods t more = if here.1 = t then [here.2] else []) ∧
      (∀ s event, some (s, event) ∈ more → Calm event) ∧
      ∀ copy ∈ later.flying, copy ∈ traffic.flying ∨ copy.2 = frame := by
  obtain ⟨s, inPort⟩ := here
  have carried : Carried (fun port => asked.wiring.Reachable (s, port)) inPort frame :=
    flooded.flying _ aloft
  have reports := reports_reportOf inPort asked.header
  obtain ⟨events, packet, q, works, rfl, waits, sent, calm⟩ :=
    (idle s).floods (flooded.sites s) (cabling.ports s) reports carried asked.asks
  obtain ⟨before, after, split⟩ := List.append_of_mem aloft
  have told : Traffic.Step cabling traffic none _ :=
    @Traffic.Step.arrived _ _ _ traffic before after s _ _ _ none _ split (.reported reports)
  let flood : Sent := ⟨(floodAnswer packet).encode, some (packet.inPort, frame)⟩
  let site : Site := { traffic.sites s with controller := q, outbox := [flood] }
  let rest : List (Port Switch × Frame) := before ++ after ++ cabling.arrivals s []
  have worked : Run (Traffic.Step cabling) _ (events.map fun event => some (s, event))
      ⟨Function.update (Function.update traffic.sites s _) s site, rest⟩ :=
    @Traffic.works_run _ _ cabling ⟨Function.update traffic.sites s _, rest⟩ s events site
      (by simpa using works)
  rw [Function.update_idem] at worked
  let done : Site := { site with
    outbox := []
    entries := site.entries ++ (FlowMod.decode flood.bytes).toList }
  have executes :
      Site.Step (cabling.ports s) site none (flood.emitted (cabling.ports s)) none done :=
    @Site.Step.executed _ site [] [] flood rfl
  have executed : Traffic.Step cabling ⟨Function.update traffic.sites s site, rest⟩ none
      ⟨Function.update (Function.update traffic.sites s site) s done,
        rest ++ cabling.arrivals s (flood.emitted (cabling.ports s))⟩ :=
    @Traffic.Step.worked _ _ cabling ⟨Function.update traffic.sites s site, rest⟩ s _ none done
      (by simpa using executes)
  rw [Function.update_idem] at executed
  refine ⟨_, _, .cons told (worked.trans (.single executed)), ?_, ?_, ?_, ?_, ?_⟩
  · have isIdle : done.Idle := ⟨waits, (idle s).inbox, (idle s).chunk, rfl⟩
    exact idle.update isIdle _
  · rintro there ⟨port, leaves, linked⟩
    have cable : cabling.link (s, port) = some there := linked
    have goesOut : (port, frame) ∈ flood.emitted (cabling.ports s) := by
      rw [emitted_flood rfl rfl]
      have other : port ∈ (cabling.ports s).filter (· ≠ packet.inPort) :=
        List.mem_filter.mpr ⟨cabling.cabled cable, by simpa using leaves⟩
      exact List.mem_map_of_mem other
    apply List.mem_append_right
    refine List.mem_filterMap.mpr ⟨_, goesOut, ?_⟩
    simp [cable]
  · intro t
    have silent : floods t [(none : Act Switch)] = [] := rfl
    calc floods t (none :: (events.map (fun event => some (s, event)) ++ [none]))
      _ = floods t [none] ++
          (floods t (events.map fun event => some (s, event)) ++ floods t [none]) := by
        simp [floods]
      _ = if s = t then [packet.inPort] else [] := by
        rw [silent, floods_map, sent, List.nil_append, List.append_nil]
  · intro t event member
    have here : event ∈ events ∧ s = t := by simpa using member
    exact calm event here.1
  · intro copy member
    rcases List.mem_append.mp member with old | new
    · rw [show rest = before ++ after ++ [] from rfl, List.append_nil] at old
      rw [split]
      exact .inl (((List.sublist_cons_self _ after).append_left before).subset old)
    · obtain ⟨leaving, inOut, arrives⟩ := List.mem_filterMap.mp new
      obtain ⟨there, -, rfl⟩ := Option.map_eq_some_iff.mp arrives
      rw [emitted_flood rfl rfl] at inOut
      obtain ⟨_, -, rfl⟩ := List.mem_map.mp inOut
      exact .inr rfl

/-- Copies take every trail: a switch floods as often as the trail leaves it. -/
theorem Traffic.trail_run (asked : cabling.Asked home frame) (cbench : Switch → Bool)
    {trail : List (Port Switch)} (walked : asked.wiring.Trail trail) :
    ∃ acts traffic, Traffic.Reaches cabling cbench home frame acts traffic ∧ traffic.Idle ∧
      (∀ here ∈ trail.head?, (here, frame) ∈ traffic.flying) ∧
      ∀ s, (floods s acts).length = (trail.tail.map Prod.fst).count s := by
  induction walked with
  | start =>
      refine ⟨[], _, .refl, fun s => ⟨waits_initial (cbench s), rfl, rfl, rfl⟩, ?_, fun s => rfl⟩
      rintro here ⟨⟩
      exact List.mem_cons_self
  | @hop here there rest earlier hop inductionHypothesis =>
      obtain ⟨acts, traffic, run, idle, aloft, flooded⟩ := inductionHypothesis
      obtain ⟨more, later, onward, still, goesOut, sent, -⟩ :=
        (run.flooded asked).passes idle (aloft here rfl)
      refine ⟨acts ++ more, later, run.trans onward, still, ?_, fun s => ?_⟩
      · rintro last ⟨⟩
        exact goesOut there hop
      · have both : floods s (acts ++ more) = floods s acts ++ floods s more :=
          List.flatMap_append
        rw [both, List.length_append, flooded s, sent s]
        show _ = (here.1 :: rest.map Prod.fst).count s
        rw [List.count_cons, List.tail_cons]
        congr 1
        by_cases same : here.1 = s
        · simp [same]
        · simp [same]

/-- With a loop that the flood can reach, some controller sends two flooding
messages in some run. -/
theorem Traffic.storms (asked : cabling.Asked home frame) (cbench : Switch → Bool)
    (loops : ¬ asked.wiring.LoopFree) :
    ∃ acts traffic s, Traffic.Reaches cabling cbench home frame acts traffic ∧
      2 ≤ (floods s acts).length := by
  obtain ⟨trail, repeats⟩ := not_forall.mp loops
  obtain ⟨walked, twice⟩ := Classical.not_imp.mp repeats
  obtain ⟨here, rest, closed, again, -⟩ := walked.closes twice
  obtain ⟨acts, traffic, run, idle, aloft, flooded⟩ := Traffic.trail_run asked cbench closed
  obtain ⟨more, later, onward, -, -, sent, -⟩ :=
    (run.flooded asked).passes idle (aloft here rfl)
  refine ⟨acts ++ more, later, here.1, run.trans onward, ?_⟩
  have both : floods here.1 (acts ++ more) = floods here.1 acts ++ floods here.1 more :=
    List.flatMap_append
  have before : 0 < (floods here.1 acts).length := by
    rw [flooded here.1]
    exact List.count_pos_iff.mpr again
  rw [both, List.length_append, sent here.1, if_pos rfl, List.length_singleton]
  omega

/-- Whatever the order in which frames and messages arrive, no controller sends
two flooding messages if and only if no trail of the flood closes a loop. -/
theorem no_storm_iff (asked : cabling.Asked home frame) (cbench : Switch → Bool) :
    (∀ acts traffic, Traffic.Reaches cabling cbench home frame acts traffic →
      ∀ s, (floods s acts).length ≤ 1) ↔ asked.wiring.LoopFree := by
  constructor
  · intro once
    by_contra loops
    obtain ⟨acts, traffic, s, run, twice⟩ := Traffic.storms asked cbench loops
    have bound := once acts traffic run s
    omega
  · intro free acts traffic run s
    exact run.floods_once asked free s

omit [DecidableEq Switch] in
/-- There is a loop if the flood can always leave by one port and comes in by others. -/
theorem Cabling.Asked.loops [Finite Switch] (asked : cabling.Asked home frame) {port : UInt16}
    (other : home.2 ≠ port)
    (onward : ∀ s, ((cabling.link (s, port)).any fun there => there.2 ≠ port) = true) :
    ¬ asked.wiring.LoopFree := by
  have enters : ∀ here : Port Switch, here.2 ≠ port →
      ∃ there, asked.wiring.Hop here there ∧ there.2 ≠ port := by
    intro here apart
    obtain ⟨there, linked, still⟩ := (Option.any_eq_true _ _).mp (onward here.1)
    exact ⟨there, ⟨port, Ne.symm apart, linked⟩, of_decide_eq_true still⟩
  have begun : asked.wiring.home.2 ≠ port := other
  exact Wiring.not_loopFree_of_onward begun enters

end Network

/-- A host asks for 10.0.0.2. -/
def hostQuery (host : Mac) : Frame :=
  ethernetFrame Mac.broadcast host arpData
    (arpPacket 1 host 0x0a000001 Mac.broadcast 0x0a000002)

/-- The host h1 of the scripts asks. -/
def scriptRequest : Frame := hostQuery (scriptHost 1)

instance {Switch : Type*} [DecidableEq Switch] (cabling : Cabling Switch) (home : Port Switch)
    (frame : Frame) : Decidable (cabling.Asked home frame) :=
  decidable_of_iff (cabling.attached (frameSrc frame) = some home ∧
    OfEthernet.size ≤ frame.length ∧ AsksAll frame)
    ⟨fun ⟨attached, header, asks⟩ => ⟨attached, header, asks⟩,
      fun asked => ⟨asked.attached, asked.header, asked.asks⟩⟩

/-- Every host of the ring can ask. -/
theorem ring_asks : ∀ host ∈ ringPlan.hosts, ring.Asked host.2 (hostQuery host.1) := by decide

theorem ring_asked : ring.Asked (0, 1) scriptRequest := ring_asks _ List.mem_cons_self

/-- In the ring a frame can always go on by the second port. -/
theorem ring_loops {home : Port (Fin 7)} {frame : Frame} (asked : ring.Asked home frame) :
    ¬ asked.wiring.LoopFree := by
  have ends : ∀ host ∈ ringPlan.hosts, host.2.2 ≠ 2 := by decide
  have onward : ∀ s, ((ring.link (s, 2)).any fun there => there.2 ≠ 2) = true := by decide
  exact asked.loops (ends _ (Plan.mem_of_lookup asked.attached)) onward

/-- The ring of the script has a storm. -/
theorem ring_storm :
    ¬ ∀ acts traffic, Traffic.Reaches ring (fun _ => false) (0, 1) scriptRequest acts traffic →
      ∀ s, (floods s acts).length ≤ 1 := by
  intro once
  obtain ⟨acts, traffic, s, run, twice⟩ :=
    Traffic.storms ring_asked (fun _ => false) (ring_loops ring_asked)
  have bound := once acts traffic run s
  omega

theorem linear_asked : linear.Asked (0, 2) scriptRequest :=
  ⟨by decide, by decide, by decide⟩

/-- Over its one cable the frame gets to the other switch and no further. -/
theorem linear_trails {trail : List (Port (Fin 2))} (walked : linear_asked.wiring.Trail trail) :
    trail = [(0, 2)] ∨ trail = [(1, 1), (0, 2)] := by
  have cables {here there : Port (Fin 2)} (linked : linear.link here = some there) :
      here = (0, 1) ∧ there = (1, 1) ∨ here = (1, 1) ∧ there = (0, 1) := by
    have member := Plan.mem_of_lookup linked
    simpa [linearPlan, Plan.ends] using member
  induction walked with
  | start => exact .inl rfl
  | @hop here there rest earlier hop inductionHypothesis =>
      obtain ⟨port, leaves, linked⟩ := hop
      rcases inductionHypothesis with first | second
      · cases first
        have cable : linear.link (0, port) = some there := linked
        rcases cables cable with ⟨-, rfl⟩ | ⟨impossible, -⟩
        · exact .inr rfl
        · cases impossible
      · cases second
        have cable : linear.link (1, port) = some there := linked
        rcases cables cable with ⟨impossible, -⟩ | ⟨same, -⟩
        · cases impossible
        · exact absurd (congrArg Prod.snd same) leaves

theorem linear_loopFree : linear_asked.wiring.LoopFree := by
  intro trail walked
  rcases linear_trails walked with rfl | rfl
  · decide
  · decide

theorem no_storm_iff_linear :
    linear_asked.wiring.LoopFree ∧ ∀ acts traffic,
      Traffic.Reaches linear (fun _ => true) (0, 2) scriptRequest acts traffic →
        ∀ s, (floods s acts).length ≤ 1 :=
  ⟨linear_loopFree, (no_storm_iff linear_asked fun _ => true).mpr linear_loopFree⟩

end DAIM.Network
