import DAIM.Ani41.Ports
import DAIM.Ani41.Returns

/-!
# Calls that are about to be made

Where the main loop is when it calls a handler, and what the call finds: the
cursor of the ports is at rest in front of every call, also when allocations
have failed before.
-/

namespace DAIM.Ani41

open DAIM.Library DAIM.OpenFlow DAIM.Linked

/-! ## The calls -/

/-- The main loop is about to call a handler, with the message at an offset of
the buffer. -/
inductive Process.Calling (p : Process) : Handler → Nat → Ani → Prop where
  | answered {next : Ani} {handler : Handler} : p.place = .sending → p.ani.cbench = false →
      normalHandler { p.ani with readBufferp := 0 } = (next, some handler) →
      Calling p handler next.readBufferp next
  | scanAnswered {next : Ani} {handler : Handler} {counter : Int} :
      p.place = .scanning counter → counter > 0 →
      checkOpenflow p.ani.readBufferp p.ani = (next, 0) →
      dispatch (next.view next.pheader OfpHeader.type) = some handler →
      Calling p handler next.readBufferp next

/-- The handlers are called while there is a connection, and find the globals
as they are but for the two that point at the message. -/
theorem Process.Calling.spec {p : Process} {handler : Handler} {ofBuffer : Nat} {s : Ani}
    (calling : p.Calling handler ofBuffer s) :
    p.place.Online ∧
      s = { p.ani with readBufferp := s.readBufferp, pheader := s.pheader } := by
  cases calling with
  | answered place _ chosen =>
      obtain ⟨rfl, -⟩ := normalHandler_eq chosen
      exact ⟨place ▸ trivial, rfl⟩
  | scanAnswered place _ check _ =>
      obtain ⟨rfl, -⟩ := checkOpenflow_eq check
      exact ⟨place ▸ trivial, rfl⟩

theorem Process.Calling.shows {p : Process} {handler : Handler} {ofBuffer : Nat} {s : Ani}
    {tables : Tables} (calling : p.Calling handler ofBuffer s) (shows : p.ani.Shows tables) :
    s.Shows tables := by
  rw [calling.spec.2]
  exact ⟨shows.hosts, shows.ports, shows.links, shows.swReplys⟩

/-- Every call of a run was about to be made in this way. -/
theorem Process.Step.calling {p q : Process} {call : Call}
    (step : Process.Step p (.handled call) q) :
    ∃ ofBuffer s outcome, p.Calling call.handler ofBuffer s ∧
      handle call.handler call.env ofBuffer s = some outcome ∧
      call = .of call.handler ofBuffer s call.env outcome := by
  cases step with
  | answered normal chosen run => exact ⟨_, _, _, .answered rfl normal chosen, run, rfl⟩
  | scanAnswered more check type run =>
      exact ⟨_, _, _, .scanAnswered rfl more check type, run, rfl⟩

/-- Outside of the benchmark mode, the call that a chunk leads to. -/
def Process.hearing (p : Process) (chunk : List UInt8) : Ani × Option Handler :=
  normalHandler { p.ani with
    readBuffer := Memory.ofList chunk Memory.zero
    readBufferLen := chunk.length
    readBufferp := 0 }

theorem Process.hearing_eq (p : Process) (chunk : List UInt8) :
    (p.hearing chunk).1 = { p.ani with
      readBuffer := Memory.ofList chunk Memory.zero
      readBufferLen := chunk.length
      readBufferp := 0
      pheader := .read 0 } :=
  (normalHandler_eq rfl).1

theorem Process.hearing_calling {p : Process} {chunk : List UInt8} {handler : Handler}
    (reading : p.place = .reading) (normal : p.ani.cbench = false) (some : chunk ≠ [])
    (fits : chunk.length ≤ readBufferSize) (chosen : (p.hearing chunk).2 = .some handler) :
    ∃ q, Process.Step p (.received chunk) q ∧
      q.Calling handler (p.hearing chunk).1.readBufferp (p.hearing chunk).1 := by
  obtain ⟨s, place, threads⟩ := p
  simp only at reading
  subst reading
  exact ⟨_, .received some fits, .answered rfl normal (Prod.ext rfl chosen)⟩

/-! ## The cursor of the ports -/

section Cursor

variable {env : Env} {s : Ani} {outcome : Outcome}

theorem stable_ports (env : Env) (ports : ObjectList SwitchPort) :
    Stable env fun s => s.ports = ports where
  learnt := fun _ _ _ same => same
  looked := fun _ _ same => same
  sent := fun _ _ same => same

theorem packoutBranch_ports {message : Memory} {packet : PacketIn} {sending : Sending}
    (run : packoutBranch env message packet s = some sending) : sending.1.ports = s.ports :=
  (stable_ports env s.ports).packoutBranch rfl
    (fun _ discovery => by rw [packoutLldp_frame discovery]) run

theorem actionPackout_ports {ofBuffer : Nat} (run : actionPackout env ofBuffer s = some outcome) :
    outcome.ani.ports = s.ports := by
  unfold actionPackout at run
  simp only at run
  split at run
  · cases run
  · rename_i ended sent branch
    have kept : ended.ports = s.ports := packoutBranch_ports branch
    split at run <;> cases run <;> exact kept

/-- The loop that shows the ports rewinds behind itself. -/
theorem actionFeaturesReply_atRest {ofBuffer : Nat} (atRest : s.ports.current = none)
    (run : actionFeaturesReply env ofBuffer s = some outcome) :
    outcome.ani.ports.current = none := by
  unfold actionFeaturesReply at run
  simp only at run
  split at run
  · cases run
  · split at run
    · cases run
      exact atRest
    · split at run
      · cases run
      · split at run
        · cases run
        · rename_i shown printed print
          cases run
          rw [sendSwitchConfig_frame]
          exact (ObjectList.showAll_same print).2

theorem handle_atRest {handler : Handler} {ofBuffer : Nat} (atRest : s.ports.current = none)
    (run : handle handler env ofBuffer s = some outcome) : outcome.ani.ports.current = none := by
  cases handler with
  | hello =>
      cases run
      rw [actionHello_frame]
      exact atRest
  | echo =>
      cases run
      rw [actionEcho_frame]
      exact atRest
  | featuresReply => exact actionFeaturesReply_atRest atRest run
  | packout => exact (congrArg ObjectList.current (actionPackout_ports run)).trans atRest

end Cursor

theorem Process.Step.atRest {p q : Process} {event : Event} (step : Process.Step p event q)
    (atRest : p.ani.ports.current = none) : q.ani.ports.current = none := by
  cases event with
  | handled call =>
      obtain ⟨started, ofBuffer, outcome, called⟩ := step.called
      have before : started.ports.current = none := by
        rw [called.pointers]
        exact atRest
      rw [called.ended]
      exact handle_atRest before called.run
  | shared _ _ =>
      cases step with
      | shared _ share =>
          rw [share.frame]
          exact atRest
  | internal =>
      cases step with
      | freePorts freed => exact (ObjectList.freeList_current freed).trans atRest
      | ignored _ chosen =>
          obtain ⟨rfl, -⟩ := normalHandler_eq chosen
          exact atRest
      | unknown _ check =>
          obtain ⟨rfl, -⟩ := checkOpenflow_eq check
          exact atRest
      | skipped _ check _ =>
          obtain ⟨rfl, -⟩ := checkOpenflow_eq check
          exact atRest
      | thread _ share =>
          rw [share.frame]
          exact atRest
      | _ => exact atRest
  | _ =>
      cases step
      exact atRest

/-- Nobody is going through the ports between two calls, whatever allocations
have failed. -/
theorem Process.Reaches.atRest {cbench : Bool} {events : List Event} {p : Process}
    (run : Process.Reaches cbench events p) : p.ani.ports.current = none := by
  induction run with
  | refl => rfl
  | snoc _ step inductionHypothesis => exact step.atRest inductionHypothesis

end DAIM.Ani41
