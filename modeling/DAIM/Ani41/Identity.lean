import DAIM.Ani41.Tables

/-!
# The datapath id of a controller

`switch_id` is set by the features replies that name ports and by nothing else;
a reply that names no port makes the process exit.
-/

namespace DAIM.Ani41

open DAIM.Library DAIM.OpenFlow DAIM.Linked DAIM.Com

variable {p q : Process} {event : Event} {call : Call} {tables : Tables}

/-- Only the discovery threads go on after the main thread has exited. -/
theorem Process.Step.after_exit (step : Process.Step p event q) (exited : p.place = .exited) :
    q.place = .exited ∧ ∀ call, event ≠ .handled call := by
  cases step with
  | thread _ _ => exact ⟨exited, fun call => nofun⟩
  | shared _ _ => exact ⟨exited, fun call => nofun⟩
  | _ => cases exited

theorem Process.Step.exits (step : Process.Step p (.handled call) q) (failed : call.result = -1) :
    q.place = .exited := by
  cases step with
  | answered _ _ _ => exact if_pos failed
  | scanAnswered _ _ _ _ => exact if_pos failed

theorem Process.Step.switchId_kept (step : Process.Step p event q)
    (silent : ∀ call, event ≠ .handled call) : q.ani.switchId = p.ani.switchId :=
  (step.frame silent).2.1

/-- What a call does to the datapath id. -/
theorem Process.Step.switchId_call (step : Process.Step p (.handled call) q)
    (shows : p.ani.Shows tables) :
    if call.handler = .featuresReply then
      q.ani.switchId = p.ani.switchId ∧ q.place = .exited ∨
        q.ani.switchId = be64toh (call.message.load64 OfpSwitchFeatures.datapathId)
    else q.ani.switchId = p.ani.switchId := by
  obtain ⟨started, ofBuffer, outcome, called⟩ := step.called
  have startedShows := called.shows shows
  have run := called.run
  have ended : q.ani.switchId = outcome.ani.switchId := by rw [called.ended]
  have kept (keeps : started.Keeps outcome.ani) : q.ani.switchId = p.ani.switchId :=
    ended.trans ((congrArg Ani.Fixed.switchId keeps).trans called.switchId)
  cases handler : call.handler with
  | hello =>
      rw [handler] at run
      rw [if_neg (by decide)]
      exact kept (actionHello_spec startedShows (Option.some.inj run)).2.1
  | echo =>
      rw [handler] at run
      rw [if_neg (by decide)]
      exact kept (actionEcho_spec startedShows (Option.some.inj run)).2.1
  | packout =>
      rw [handler] at run
      rw [if_neg (by decide)]
      exact kept (actionPackout_spec startedShows run).1.keeps
  | featuresReply =>
      rw [handler] at run
      rw [if_pos rfl]
      obtain ⟨-, -, -, -, -, result⟩ := actionFeaturesReply_spec startedShows run
      split at result
      · obtain ⟨-, same, -, -, failed⟩ := result
        have exits : call.result = -1 := by
          rw [called.made]
          exact failed
        exact .inl ⟨ended.trans (same.trans called.switchId), step.exits exits⟩
      · obtain ⟨-, named, -, -⟩ := result
        rw [← called.message] at named
        exact .inr (ended.trans named)

end DAIM.Ani41
