import DAIM.Ani41.Modes
import DAIM.Network.Chunks

/-!
# Every report is worked on

A controller in the benchmark mode comes to every message of its chunk, one in
the normal mode to the first only.  When the latter reads one message at a time
and no connection is lost, a controller has worked on every report of its chunk
before it reads the next one, and no copy of a broadcast frame is dropped.
-/

namespace DAIM.Network

open DAIM.Library DAIM.OpenFlow DAIM.Linked DAIM.Com DAIM.Hosts DAIM.Ani41

/-! ## The messages of a chunk -/

/-- A message for `action_packout`. -/
def isReport (bytes : List UInt8) : Bool := decide (messageType bytes = ofptPacketIn)

theorem hasHandler_of_isReport {bytes : List UInt8} (report : isReport bytes = true) :
    hasHandler bytes = true := by
  unfold hasHandler
  rw [of_decide_eq_true report]
  rfl

theorem filter_isReport_hasHandler (todo : List (List UInt8)) :
    (todo.filter hasHandler).filter isReport = todo.filter isReport := by
  rw [List.filter_filter]
  apply List.filter_congr
  intro bytes _
  cases report : isReport bytes with
  | false => rfl
  | true => rw [hasHandler_of_isReport report, Bool.and_self]

/-- The messages of the chunk that a controller has not come to; outside of the
benchmark mode the chunk is one message. -/
structure Facing (p : Process) (todo : List (List UInt8)) : Prop where
  faces : p.Faces todo
  framed : ∀ bytes ∈ todo, Framed bytes
  single : p.ani.cbench = false →
    (p.place = .sending → ∃ bytes, todo = [bytes]) ∧ ∀ counter, p.place ≠ .scanning counter

/-- What an event passes of the messages: none of the reports, or one message
that a handler is called with. -/
inductive Turns (event : Event) (todo rest : List (List UInt8)) : Prop where
  | silent : event.call? = none → rest.filter isReport = todo.filter isReport →
      Turns event todo rest
  | handled {call : Call} {bytes : List UInt8} : event = .handled call → bytes ∈ todo →
      Takes call bytes → (bytes :: rest).filter isReport = todo.filter isReport →
      Turns event todo rest

section Facing

variable {p q : Process} {event : Event} {todo : List (List UInt8)} {tables : Tables}

/-- In the benchmark mode the loop comes to one message after the other. -/
theorem Facing.scan (facing : Facing p todo) (bench : p.ani.cbench = true)
    (step : Process.Step p event q) (silent : event.chunk? = none) (connected : event ≠ .lost) :
    ∃ rest, Facing q rest ∧ Turns event todo rest := by
  obtain ⟨done, rest, rfl, passes⟩ :=
    step.passes bench facing.faces facing.framed silent connected
  have still : Facing q rest := by
    refine ⟨passes.faces, fun bytes member => ?_, fun normal => ?_⟩
    · exact facing.framed bytes (List.mem_append_right _ member)
    · cases normal.symm.trans passes.cbench
  refine ⟨rest, still, ?_⟩
  have takes := passes.takes
  have reports : (done ++ rest).filter isReport =
      (done.filter hasHandler).filter isReport ++ rest.filter isReport := by
    rw [List.filter_append, filter_isReport_hasHandler]
  cases called : event.call? with
  | none =>
      have none : calls [event] = [] := List.filterMap_cons_none called
      rw [none] at takes
      rw [List.forall₂_nil_left_iff.mp takes] at reports
      exact .silent called reports.symm
  | some call =>
      have one : calls [event] = [call] := List.filterMap_cons_some called
      rw [one] at takes
      generalize chosen : done.filter hasHandler = passed at takes
      cases takes with
      | @cons _ bytes _ _ taken nothing =>
          cases nothing
          have inDone : bytes ∈ done.filter hasHandler := chosen ▸ List.mem_cons_self
          have isHandled : event = .handled call := by
            cases event with
            | handled other => rw [Option.some.inj called]
            | _ => cases called
          refine .handled isHandled ?_ taken ?_
          · exact List.mem_append_left _ (List.mem_of_mem_filter inDone)
          · rw [reports, chosen, ← List.filter_append]
            rfl

/-- Outside of it the one message of the chunk is looked at. -/
theorem Facing.answer (facing : Facing p todo) (bench : p.ani.cbench = false)
    (step : Process.Step p event q) (silent : event.chunk? = none) (connected : event ≠ .lost) :
    ∃ rest, Facing q rest ∧ Turns event todo rest := by
  obtain ⟨some, notScanning⟩ := facing.single bench
  have done (ended : q.place = .reading ∨ q.place = .exited) : Facing q [] := by
    obtain ⟨notSending, notScanning⟩ := Process.not_busy ended
    exact ⟨Process.faces_nil ended, fun _ impossible => absurd impossible List.not_mem_nil,
      fun _ => ⟨fun sending => absurd sending notSending, notScanning⟩⟩
  cases step.finishes bench facing.faces facing.framed silent connected notScanning with
  | still place faces uncalled =>
      refine ⟨todo, ⟨faces, facing.framed, fun _ => ?_⟩, .silent uncalled rfl⟩
      rw [place]
      exact ⟨some, notScanning⟩
  | ignored sending reading uncalled unhandled =>
      obtain ⟨bytes, rfl⟩ := some sending
      have other : isReport bytes = false := by
        cases report : isReport bytes with
        | false => rfl
        | true => exact (hasHandler_of_isReport report).symm.trans (unhandled bytes rfl)
      refine ⟨[], done (.inl reading), .silent uncalled ?_⟩
      rw [List.filter_singleton, other]
      rfl
  | answered sending ended isCall takes =>
      obtain ⟨bytes, rfl⟩ := some sending
      exact ⟨[], done ended, .handled isCall List.mem_cons_self (takes bytes rfl) rfl⟩

theorem Facing.step (facing : Facing p todo) (step : Process.Step p event q)
    (silent : event.chunk? = none) (connected : event ≠ .lost) :
    ∃ rest, Facing q rest ∧ Turns event todo rest := by
  cases bench : p.ani.cbench with
  | true => exact facing.scan bench step silent connected
  | false => exact facing.answer bench step silent connected

end Facing

/-! ## One switch -/

/-- What the controller has yet to come to, with every report that is left in its chunk. -/
structure Site.Owes (site : Site) (todo : List (List UInt8)) : Prop where
  facing : Facing site.controller todo
  reports : ((site.chunk.map Message.bytes).filter isReport).Perm (todo.filter isReport)

/-- Nothing is dropped in the step: no connection is lost, and outside of the
benchmark mode a chunk is one message. -/
structure Site.Careful (site : Site) (event : Option Event) : Prop where
  lasting : event ≠ some .lost
  single : ∀ chunk, event = some (.received chunk) → site.controller.ani.cbench = false →
    Framed chunk

theorem Site.owes_initial (cbench : Bool) : (Site.initial cbench).Owes [] where
  facing := ⟨rfl, fun _ impossible => absurd impossible List.not_mem_nil,
    fun _ => ⟨nofun, fun _ => nofun⟩⟩
  reports := .nil

/-- Messages that are one message together are one message. -/
theorem single_of_framed {messages : List (List UInt8)} (each : ∀ bytes ∈ messages, Framed bytes)
    (whole : Framed messages.flatten) : ∃ bytes, messages = [bytes] := by
  cases messages with
  | nil => exact absurd whole.header (by decide)
  | cons bytes rest =>
      have first := each bytes List.mem_cons_self
      have header : 8 ≤ bytes.length := first.header
      have total := whole.length
      have same : be16 (bytes ++ rest.flatten) OfpHeader.length = be16 bytes OfpHeader.length :=
        be16_of_part (List.prefix_append _ _) (by show 2 + 2 ≤ _; omega)
      rw [List.flatten_cons, same, first.length, List.length_append] at total
      refine ⟨bytes, ?_⟩
      rcases todo_cases fun other member => each other (List.mem_cons_of_mem _ member) with
        ⟨rfl, -⟩ | ⟨other, others, rfl, long, sum⟩
      · rfl
      · omega

section Sites

variable {enters : UInt16 → Prop} {ports : List UInt16} {site next : Site}
variable {incoming : Option (UInt16 × Frame)} {out : List (UInt16 × Frame)}
variable {event : Option Event} {todo : List (List UInt8)}

theorem Site.Owes.silent (owes : site.Owes todo) {event : Event} {process : Process}
    {outbox : List Sent}
    (taken : Process.Step site.controller event process) (uncalled : event.call? = none)
    (silent : event.chunk? = none) (connected : event ≠ .lost) :
    ∃ rest, Site.Owes { site with controller := process, outbox := outbox } rest := by
  obtain ⟨rest, facing, turns⟩ := owes.facing.step taken silent connected
  refine ⟨rest, facing, ?_⟩
  cases turns with
  | silent _ same =>
      rw [same]
      exact owes.reports
  | handled isCall _ _ _ =>
      rw [isCall] at uncalled
      cases uncalled

/-- While the connection lasts, what a handler is called with is a message. -/
theorem Site.Owes.nonzero (owes : site.Owes todo) {call : Call} {process : Process}
    (taken : Process.Step site.controller (.handled call) process) :
    call.message ≠ Memory.zero := by
  intro zero
  obtain ⟨rest, facing, turns⟩ := owes.facing.step taken rfl nofun
  cases turns with
  | silent uncalled _ => cases uncalled
  | @handled other bytes isCall left taking _ =>
      cases isCall
      have framed := owes.facing.framed bytes left
      have header : 8 ≤ bytes.length := framed.header
      have version := taking.whole.octet (show OfpHeader.version < bytes.length by
        show 0 < _; omega)
      rw [zero] at version
      exact absurd (version.trans framed.version) (by decide)

theorem Site.Step.owes (step : Site.Step ports site incoming out event next)
    (sound : site.Sound enters) (careful : site.Careful event) (owes : site.Owes todo) :
    ∃ rest, next.Owes rest := by
  have valid : ∀ message ∈ site.inbox ++ site.chunk, message.Valid := fun message member =>
    (sound.messages message member).valid
  cases step with
  | reported _ => exact ⟨todo, owes.facing, owes.reports⟩
  | forwarded _ _ => exact ⟨todo, owes⟩
  | spoke _ => exact ⟨todo, owes.facing, owes.reports⟩
  | executed _ => exact ⟨todo, owes.facing, owes.reports⟩
  | @received chunk group rest process taken split whole =>
      have framed : ∀ bytes ∈ group.map Message.bytes, Framed bytes := by
        intro bytes member
        obtain ⟨message, inGroup, rfl⟩ := List.mem_map.mp member
        have inInbox : message ∈ site.inbox := split ▸ List.mem_append_left _ inGroup
        exact (valid message (List.mem_append_left _ inInbox)).framed
      have fed := Fed.received taken (fun _ member => member) whole
      refine ⟨group.map Message.bytes, ⟨fed.faces, framed, fun normal => ?_⟩, .refl _⟩
      refine ⟨fun _ => single_of_framed framed ?_, (fed.normal normal).2⟩
      rw [← whole]
      exact careful.single chunk rfl ((taken.cbench).symm.trans normal)
  | @handled call before after message process taken split takes =>
      obtain ⟨rest, facing, turns⟩ := owes.facing.step taken rfl nofun
      refine ⟨rest, facing, ?_⟩
      cases turns with
      | silent uncalled _ => cases uncalled
      | @handled other bytes isCall left taking same =>
          cases isCall
          have inChunk : message ∈ site.chunk := split ▸ List.mem_append_right _ List.mem_cons_self
          have framed := (valid message (List.mem_append_right _ inChunk)).framed
          have one : bytes = message.bytes :=
            takes_unique taking takes (owes.facing.framed bytes left) framed
          subst one
          have reports := owes.reports
          rw [← same, split] at reports
          have moved : ((before ++ message :: after).map Message.bytes).Perm
              (message.bytes :: (before ++ after).map Message.bytes) :=
            List.perm_middle.map Message.bytes
          have both := (moved.filter isReport).symm.trans reports
          rw [List.filter_cons, List.filter_cons] at both
          split at both
          · exact both.cons_inv
          · exact both
  | cleared taken zero => exact absurd zero (owes.nonzero taken)
  | shared taken => exact owes.silent taken rfl rfl nofun
  | @quiet event process taken quiet =>
      have lasting : event ≠ .lost := fun lost => careful.lasting (congrArg some lost)
      cases event with
      | internal => exact owes.silent taken rfl rfl nofun
      | connected _ => exact owes.silent taken rfl rfl nofun
      | lost => exact absurd rfl lasting
      | _ => cases quiet

/-! ## Copies are not dropped -/

/-- Copies that come in are reported, reports of copies are flooded, and what is
flooded is sent out. -/
structure Site.Conserves (ports : List UInt16) (site : Site) (incoming : Option (UInt16 × Frame))
    (out : List (UInt16 × Frame)) (event : Option Event) (next : Site) : Prop where
  worked : ∀ port, site.waiting port + incoming.toList.countP (asking port) ≤
    next.waiting port + (eventFloods event).count port
  sent : ∀ port ∈ ports, site.pending port + (eventFloods event).countP (· ≠ port) ≤
    out.countP (asking port) + next.pending port

/-- A copy goes out of each port that a flooding message is for. -/
theorem Sent.Kind.le_countP_emitted {sent : Sent} (kind : sent.Kind enters) {out : UInt16}
    (port : out ∈ ports) :
    (if sent.pends out then 1 else 0) ≤ (sent.emitted ports).countP (asking out) := by
  cases flooding : floodPort sent.bytes with
  | none =>
      have silent : sent.pends out = false := by
        unfold Sent.pends
        rw [flooding]
        rfl
      simp [silent]
  | some inPort =>
      obtain ⟨packet, frame, flood, rfl, about, asks⟩ := kind.of_flood flooding
      split
      · rename_i pends
        have other : packet.inPort ≠ out := by
          simpa [Sent.pends, flooding] using pends
        rw [emitted_flood flood about]
        apply List.countP_pos_iff.mpr
        refine ⟨(out, frame), List.mem_map_of_mem ?_, by simp [asking, asks]⟩
        exact List.mem_filter.mpr ⟨port, by simpa using other.symm⟩
      · exact Nat.zero_le _

/-- No report is left in the chunk of a controller that reads. -/
theorem Site.Owes.done (owes : site.Owes todo)
    (valid : ∀ message ∈ site.chunk, message.Valid) (reading : site.controller.place = .reading) :
    ∀ message ∈ site.chunk, message.about = none := by
  have faces := owes.facing.faces
  unfold Process.Faces at faces
  rw [reading] at faces
  have reports := owes.reports
  rw [show todo = [] from faces] at reports
  intro message member
  cases about : message.about with
  | none => rfl
  | some copy =>
      have type := ((valid message member).report about).type
      have left : message.bytes ∈ (site.chunk.map Message.bytes).filter isReport :=
        List.mem_filter.mpr ⟨List.mem_map_of_mem member, decide_eq_true type⟩
      rw [reports.eq_nil] at left
      cases left

/-- A controller reads when it has worked on all reports of its last chunk. -/
theorem Site.Owes.received (owes : site.Owes todo)
    (valid : ∀ message ∈ site.chunk, message.Valid) {chunk : List UInt8} {process : Process}
    (taken : Process.Step site.controller (.received chunk) process) :
    ∀ message ∈ site.chunk, message.about = none := by
  apply owes.done valid
  generalize site.controller = p at taken
  cases taken
  rfl

theorem Site.Step.conserves (step : Site.Step ports site incoming out event next)
    (sound : site.Sound enters) (owes : site.Owes todo) :
    site.Conserves ports incoming out event next := by
  cases step with
  | @reported inPort frame bytes _ =>
      refine ⟨fun port => ?_, fun port _ => by simp [eventFloods, Site.pending]⟩
      have told : Message.asks port (.report inPort frame bytes) = asking port (inPort, frame) :=
        rfl
      simp only [Site.waiting, eventFloods, Option.elim_none, List.count_nil, List.countP_append,
        List.countP_cons, List.countP_nil, told, Option.toList_some]
      omega
  | @forwarded inPort frame flow entry covers =>
      refine ⟨fun port => ?_, fun port _ => by simp [eventFloods]⟩
      have unasked : ¬ AsksAll frame := fun asks =>
        sound.entries flow entry (covers.dlDst.trans asks.2)
      simp [asking, unasked]
  | spoke _ =>
      refine ⟨fun port => ?_, fun port _ => by simp [eventFloods, Site.pending]⟩
      simp [Site.waiting, eventFloods, Message.asks, Message.about]
  | @executed before after sent split =>
      refine ⟨fun port => by simp [Site.waiting, eventFloods], fun port inPorts => ?_⟩
      have kind := sound.outbox sent (split ▸ List.mem_append_right _ List.mem_cons_self)
      have copies := kind.le_countP_emitted inPorts
      simp only [Site.pending, split, eventFloods, Option.elim_none, List.countP_append,
        List.countP_cons, List.countP_nil]
      omega
  | @received chunk group rest process taken split _ =>
      refine ⟨fun port => ?_, fun port _ => by simp [eventFloods, Site.pending, Event.floods,
        Event.sent]⟩
      have valid : ∀ message ∈ site.chunk, message.Valid := fun message member =>
        (sound.messages message (List.mem_append_right _ member)).valid
      have done : site.chunk.countP (Message.asks port) = 0 := by
        rw [List.countP_eq_zero]
        intro message member asks
        unfold Message.asks at asks
        rw [owes.received valid taken message member] at asks
        cases asks
      simp only [Site.waiting, split, List.countP_append, Option.toList_none, List.countP_nil]
      omega
  | @handled call before after message process taken split takes =>
      have kept := sound.of_chunk split
      refine ⟨fun port => ?_, fun port _ => ?_⟩
      · have answered := kept.count_floods takes sound.numbered taken port
        simp only [Site.waiting, split, eventFloods, Option.elim_some, List.countP_append,
          List.countP_cons, Option.toList_none, List.countP_nil]
        omega
      · simp only [Site.pending, eventFloods, Option.elim_some, List.countP_append,
          countP_answers, Event.floods, Event.sent, List.countP_nil]
        omega
  | @cleared call process taken zero =>
      have none := cleared_floods taken sound.numbered zero
      refine ⟨fun port => by simp [Site.waiting], fun port _ => ?_⟩
      simp [Site.pending, eventFloods, none]
  | @shared index bytes process taken =>
      have none := shared_floods taken sound.numbered
      refine ⟨fun port => by simp [Site.waiting], fun port _ => ?_⟩
      simp [Site.pending, eventFloods, none]
  | @quiet event process taken quiet =>
      refine ⟨fun port => by simp [Site.waiting], fun port _ => ?_⟩
      simp [Site.pending, eventFloods, quiet.floods]

end Sites

end DAIM.Network
