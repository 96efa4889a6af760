import DAIM.Ani41.Answers
import DAIM.Ani41.Process

/-!
# The tables over whole runs

What one step of the process can do to the four tables, and that the object
lists represent tables in every reachable state, whatever the allocations, the
switch and the discovery threads do.
-/

namespace DAIM.Ani41

open DAIM.Library DAIM.OpenFlow DAIM.Linked DAIM.Com

/-! ## Calls of handlers -/

theorem checkOpenflow_eq {ofBuffer : Nat} {s next : Ani} {checked : Int}
    (check : checkOpenflow ofBuffer s = (next, checked)) :
    next = { s with pheader := .read ofBuffer } ∧
      (checked = 0 ↔ (s.readBuffer.shift ofBuffer) OfpHeader.version = ofpVersion) := by
  unfold checkOpenflow Ani.view at check
  simp only at check
  split at check
  · rename_i version
    cases check
    exact ⟨rfl, by simp [version]⟩
  · rename_i version
    cases check
    exact ⟨rfl, by simp [version]⟩

theorem checkOpenflow_known {s : Ani} {ofBuffer : Nat}
    (version : (s.readBuffer.shift ofBuffer) OfpHeader.version = ofpVersion) :
    checkOpenflow ofBuffer s = ({ s with pheader := .read ofBuffer }, 0) := by
  unfold checkOpenflow Ani.view
  simp only
  rw [if_pos version]

theorem normalHandler_eq {s next : Ani} {handler : Option Handler}
    (chosen : normalHandler s = (next, handler)) :
    next = { s with pheader := .read s.readBufferp } ∧
      ∀ h, handler = some h →
        dispatch ((s.readBuffer.shift s.readBufferp) OfpHeader.type) = some h := by
  unfold normalHandler at chosen
  split at chosen
  rename_i checked result check
  obtain ⟨rfl, -⟩ := checkOpenflow_eq check
  simp only at chosen
  split at chosen
  · cases chosen
    refine ⟨rfl, ?_⟩
    intro h isHello
    split at isHello
    · rename_i type
      have named : (s.readBuffer.shift s.readBufferp) OfpHeader.type = ofptHello := type
      cases isHello
      rw [dispatch, if_pos named]
    · cases isHello
  · cases chosen
    exact ⟨rfl, fun h found => found⟩

theorem normalHandler_known {s : Ani}
    (version : (s.readBuffer.shift s.readBufferp) OfpHeader.version = ofpVersion) :
    normalHandler s = ({ s with pheader := .read s.readBufferp },
      dispatch ((s.readBuffer.shift s.readBufferp) OfpHeader.type)) := by
  unfold normalHandler
  rw [checkOpenflow_known version]
  rfl

/-- How a step calls a handler: on the globals with the two pointers set, with
a message of the type that the handler is for. -/
structure Called (p : Process) (call : Call) (q : Process) (started : Ani) (ofBuffer : Nat)
    (outcome : Outcome) : Prop where
  pointers : started = { p.ani with
    readBufferp := started.readBufferp, pheader := started.pheader }
  run : handle call.handler call.env ofBuffer started = some outcome
  made : call = .of call.handler ofBuffer started call.env outcome
  type : dispatch (call.message OfpHeader.type) = some call.handler
  ended : q.ani = { outcome.ani with readBufferp := q.ani.readBufferp }
  threads : q.threads = spawn p.threads outcome.spawned

theorem Process.Step.called {p q : Process} {call : Call}
    (step : Process.Step p (.handled call) q) :
    ∃ started ofBuffer outcome, Called p call q started ofBuffer outcome := by
  cases step with
  | answered _ chosen run =>
      obtain ⟨rfl, type⟩ := normalHandler_eq chosen
      exact ⟨_, _, _, ⟨rfl, run, rfl, type _ rfl, rfl, rfl⟩⟩
  | scanAnswered _ check type run =>
      obtain ⟨rfl, -⟩ := checkOpenflow_eq check
      exact ⟨_, _, _, ⟨rfl, run, rfl, type, rfl, rfl⟩⟩

/-- The globals that a step without a call leaves alone. -/
theorem Process.Step.frame {p q : Process} {event : Event} (step : Process.Step p event q)
    (silent : ∀ call, event ≠ .handled call) :
    q.ani.cbench = p.ani.cbench ∧ q.ani.switchId = p.ani.switchId ∧
      q.ani.noOfPorts = p.ani.noOfPorts ∧
      ((∀ chunk, event ≠ .received chunk) → event ≠ .lost →
        q.ani.readBuffer = p.ani.readBuffer) := by
  cases step with
  | received _ _ => exact ⟨rfl, rfl, rfl, fun unread => absurd rfl (unread _)⟩
  | lost _ => exact ⟨rfl, rfl, rfl, fun _ lasting => absurd rfl lasting⟩
  | ignored _ chosen =>
      obtain ⟨rfl, -⟩ := normalHandler_eq chosen
      exact ⟨rfl, rfl, rfl, fun _ _ => rfl⟩
  | unknown _ check =>
      obtain ⟨rfl, -⟩ := checkOpenflow_eq check
      exact ⟨rfl, rfl, rfl, fun _ _ => rfl⟩
  | skipped _ check _ =>
      obtain ⟨rfl, -⟩ := checkOpenflow_eq check
      exact ⟨rfl, rfl, rfl, fun _ _ => rfl⟩
  | answered _ _ _ => exact absurd rfl (silent _)
  | scanAnswered _ _ _ _ => exact absurd rfl (silent _)
  | thread _ share =>
      rw [share.frame]
      exact ⟨rfl, rfl, rfl, fun _ _ => rfl⟩
  | shared _ share =>
      rw [share.frame]
      exact ⟨rfl, rfl, rfl, fun _ _ => rfl⟩
  | _ => exact ⟨rfl, rfl, rfl, fun _ _ => rfl⟩

namespace Called

variable {p q : Process} {call : Call} {started : Ani} {ofBuffer : Nat} {outcome : Outcome}
variable {tables : Tables}

theorem shows (called : Called p call q started ofBuffer outcome) (shows : p.ani.Shows tables) :
    started.Shows tables := by
  rw [called.pointers]
  exact ⟨shows.hosts, shows.ports, shows.links, shows.swReplys⟩

theorem ended_shows (called : Called p call q started ofBuffer outcome)
    (shows : outcome.ani.Shows tables) : q.ani.Shows tables := by
  rw [called.ended]
  exact ⟨shows.hosts, shows.ports, shows.links, shows.swReplys⟩

theorem message (called : Called p call q started ofBuffer outcome) :
    call.message = started.readBuffer.shift ofBuffer := by
  rw [called.made]
  rfl

theorem sent (called : Called p call q started ofBuffer outcome) : call.sent = outcome.sent := by
  rw [called.made]
  rfl

theorem switchId (called : Called p call q started ofBuffer outcome) :
    started.switchId = p.ani.switchId := by
  rw [called.pointers]

theorem cbench (called : Called p call q started ofBuffer outcome) :
    started.cbench = p.ani.cbench := by
  rw [called.pointers]

/-- A call of `action_packout`, on the tables. -/
theorem packout (called : Called p call q started ofBuffer outcome) (shows : p.ani.Shows tables)
    (handler : call.handler = .packout) :
    q.ani.Shows (tables.packout (call.env.allocated 0) p.ani.switchId call.message) ∧
      call.sent = (answer p.ani.cbench
        (tables.packout (call.env.allocated 0) p.ani.switchId call.message).hosts
        call.message).bytes := by
  have run := called.run
  rw [handler] at run
  have spec := (actionPackout_spec (called.shows shows) run).1
  rw [called.switchId, called.cbench, ← called.message] at spec
  exact ⟨called.ended_shows spec.shows, called.sent.trans spec.sent⟩

end Called

/-! ## Changes of the tables -/

/-- What one step can do to the tables. -/
inductive Tables.Change (p : Process) (tables : Tables) : Event → Tables → Prop where
  | packout {call : Call} : call.handler = .packout →
      Change p tables (.handled call)
        (tables.packout (call.env.allocated 0) p.ani.switchId call.message)
  | ports {call : Call} {ports : List SwitchPort} : call.handler = .featuresReply →
      Change p tables (.handled call) { tables with ports := ports }
  | kept {event : Event} : (∀ call, event = .handled call → call.handler ≠ .packout) →
      Change p tables event tables
  | freeHosts : p.place = .freeHosts → Change p tables .internal { tables with hosts := [] }
  | freePorts : p.place = .freePorts → Change p tables .internal { tables with ports := [] }
  | freeLinks : Change p tables .internal { tables with links := [] }
  | freeReplys : Change p tables .internal { tables with swReplys := [] }

theorem Called.change {p q : Process} {call : Call} {started : Ani} {ofBuffer : Nat}
    {outcome : Outcome} {tables : Tables} (called : Called p call q started ofBuffer outcome)
    (shows : p.ani.Shows tables) :
    ∃ after, q.ani.Shows after ∧ tables.Change p (.handled call) after := by
  have startedShows := called.shows shows
  have run := called.run
  cases handler : call.handler with
  | hello =>
      rw [handler] at run
      have spec := actionHello_spec startedShows (Option.some.inj run)
      refine ⟨tables, called.ended_shows spec.1, .kept ?_⟩
      intro other same
      cases same
      simp [handler]
  | echo =>
      rw [handler] at run
      have spec := actionEcho_spec startedShows (Option.some.inj run)
      refine ⟨tables, called.ended_shows spec.1, .kept ?_⟩
      intro other same
      cases same
      simp [handler]
  | featuresReply =>
      rw [handler] at run
      obtain ⟨-, -, -, -, -, result⟩ := actionFeaturesReply_spec startedShows run
      split at result
      · refine ⟨tables, called.ended_shows result.1, .kept ?_⟩
        intro other same
        cases same
        simp [handler]
      · exact ⟨_, called.ended_shows result.1, .ports handler⟩
  | packout => exact ⟨_, (called.packout shows handler).1, .packout handler⟩

/-- A discovery thread only ever empties the tables of links and replies. -/
theorem ShareStep.change {index : Nat} {s next : Ani} {thread after : Thread}
    {sent : Option (List UInt8)} {tables : Tables}
    (step : ShareStep index s thread sent next after) (shows : s.Shows tables) :
    ∃ changed, next.Shows changed ∧
      (changed = tables ∨ sent = none ∧
        (changed = { tables with links := [] } ∨ changed = { tables with swReplys := [] })) := by
  cases step with
  | nextReply _ found =>
      exact ⟨tables, ⟨shows.hosts, shows.ports, shows.links, shows.swReplys.getObject found⟩,
        .inl rfl⟩
  | noReply _ found =>
      exact ⟨tables, ⟨shows.hosts, shows.ports, shows.links, shows.swReplys.getObject found⟩,
        .inl rfl⟩
  | rewindReplys _ =>
      exact ⟨tables, ⟨shows.hosts, shows.ports, shows.links, shows.swReplys.rewind⟩, .inl rfl⟩
  | nextLink _ found =>
      exact ⟨tables, ⟨shows.hosts, shows.ports, shows.links.getObject found, shows.swReplys⟩,
        .inl rfl⟩
  | noLink _ found =>
      exact ⟨tables, ⟨shows.hosts, shows.ports, shows.links.getObject found, shows.swReplys⟩,
        .inl rfl⟩
  | rewindLinks _ =>
      exact ⟨tables, ⟨shows.hosts, shows.ports, shows.links.rewind, shows.swReplys⟩, .inl rfl⟩
  | freeReplys _ freed =>
      have sound := shows.swReplys.freed freed
      exact ⟨{ tables with swReplys := [] },
        ⟨shows.hosts, shows.ports, shows.links, sound⟩, .inr ⟨rfl, .inr rfl⟩⟩
  | freeLinks _ freed =>
      have sound := shows.links.freed freed
      exact ⟨{ tables with links := [] },
        ⟨shows.hosts, shows.ports, sound, shows.swReplys⟩, .inr ⟨rfl, .inl rfl⟩⟩
  | _ => exact ⟨tables, ⟨shows.hosts, shows.ports, shows.links, shows.swReplys⟩, .inl rfl⟩

/-- Every step leaves lists that represent tables, changed in one of the ways
of `Tables.Change`. -/
theorem Process.Step.change {p q : Process} {event : Event} {tables : Tables}
    (step : Process.Step p event q) (shows : p.ani.Shows tables) :
    ∃ after, q.ani.Shows after ∧ tables.Change p event after := by
  cases event with
  | handled call =>
      obtain ⟨started, ofBuffer, outcome, called⟩ := step.called
      exact called.change shows
  | received chunk =>
      cases step with
      | received _ _ =>
          exact ⟨tables, ⟨shows.hosts, shows.ports, shows.links, shows.swReplys⟩,
            .kept (by simp)⟩
  | lost =>
      cases step with
      | lost _ =>
          exact ⟨tables, ⟨shows.hosts, shows.ports, shows.links, shows.swReplys⟩,
            .kept (by simp)⟩
  | connected connection =>
      cases step with
      | connected =>
          exact ⟨tables, ⟨shows.hosts, shows.ports, shows.links, shows.swReplys⟩,
            .kept (by simp)⟩
  | shared index bytes =>
      cases step with
      | shared _ share =>
          obtain ⟨changed, kept, rfl | ⟨impossible, -⟩⟩ := share.change shows
          · exact ⟨_, kept, .kept (by simp)⟩
          · cases impossible
  | internal =>
      cases step with
      | closed =>
          exact ⟨tables, ⟨shows.hosts, shows.ports, shows.links, shows.swReplys⟩,
            .kept (by simp)⟩
      | freeHosts freed =>
          exact ⟨{ tables with hosts := [] }, ⟨shows.hosts.freed freed, shows.ports,
            shows.links, shows.swReplys⟩, .freeHosts rfl⟩
      | freePorts freed =>
          exact ⟨{ tables with ports := [] }, ⟨shows.hosts, shows.ports.freed freed,
            shows.links, shows.swReplys⟩, .freePorts rfl⟩
      | freeLinks freed =>
          exact ⟨{ tables with links := [] }, ⟨shows.hosts, shows.ports,
            shows.links.freed freed, shows.swReplys⟩, .freeLinks⟩
      | freeReplys freed =>
          exact ⟨{ tables with swReplys := [] },
            ⟨shows.hosts, shows.ports, shows.links, shows.swReplys.freed freed⟩,
            .freeReplys⟩
      | ignored _ chosen =>
          obtain ⟨rfl, -⟩ := normalHandler_eq chosen
          exact ⟨tables, ⟨shows.hosts, shows.ports, shows.links, shows.swReplys⟩,
            .kept (by simp)⟩
      | unknown _ check =>
          obtain ⟨rfl, -⟩ := checkOpenflow_eq check
          exact ⟨tables, ⟨shows.hosts, shows.ports, shows.links, shows.swReplys⟩,
            .kept (by simp)⟩
      | skipped _ check _ =>
          obtain ⟨rfl, -⟩ := checkOpenflow_eq check
          exact ⟨tables, ⟨shows.hosts, shows.ports, shows.links, shows.swReplys⟩,
            .kept (by simp)⟩
      | thread _ share =>
          obtain ⟨changed, kept, rfl | ⟨-, rfl | rfl⟩⟩ := share.change shows
          · exact ⟨_, kept, .kept (by simp)⟩
          · exact ⟨_, kept, .freeLinks⟩
          · exact ⟨_, kept, .freeReplys⟩
      | _ =>
          exact ⟨tables, ⟨shows.hosts, shows.ports, shows.links, shows.swReplys⟩,
            .kept (by simp)⟩

/-- The processes that a run from the start leads to. -/
abbrev Process.Reaches (cbench : Bool) (events : List Event) (p : Process) : Prop :=
  Run Process.Step (Process.initial cbench) events p

theorem Tables.Change.nodup {p : Process} {event : Event} {tables after : Tables}
    (change : tables.Change p event after)
    (distinct : (tables.hosts.map SwitchHost.macAddr).Nodup) :
    (after.hosts.map SwitchHost.macAddr).Nodup := by
  cases change with
  | packout _ =>
      unfold Tables.packout
      split
      · exact distinct
      · simp only
        split
        · exact nodup_keys_insertNew _ distinct _
        · exact distinct
  | freeHosts _ => exact List.nodup_nil
  | _ => exact distinct

/-- A reply comes into its table from an `ECHO_REPLY`. -/
theorem Tables.Change.swReplys {p : Process} {event : Event} {tables after : Tables}
    (change : tables.Change p event after) {reply : SwitchReply}
    (member : reply ∈ after.swReplys) :
    reply ∈ tables.swReplys ∨ ∃ call, event = .handled call ∧ call.handler = .packout ∧
      IsDiscovery call.message animEchoReply ∧
      reply.portNo = (parsePacketIn call.message).inPort := by
  cases change with
  | @packout call handler =>
      unfold Tables.packout at member
      split at member
      · exact .inl member
      · simp only at member
        split at member
        · rename_i isReply
          rcases List.mem_append.mp member with old | new
          · exact .inl old
          · cases List.mem_singleton.mp new
            exact .inr ⟨call, rfl, handler, isReply, rfl⟩
        · exact .inl member
  | freeReplys => cases member
  | _ => exact .inl member

/-- The table of links is kept or emptied, or a `NODE` adds one link to it. -/
theorem Tables.Change.links_cases {p : Process} {event : Event} {tables after : Tables}
    (change : tables.Change p event after) :
    after.links = tables.links ∨ after.links = [] ∨
      ∃ call, event = .handled call ∧ call.handler = .packout ∧
        IsDiscovery call.message animNode ∧ call.env.allocated 0 = true ∧
        after.links = tables.links ++ [linkEntry p.ani.switchId call.message] := by
  cases change with
  | @packout call handler =>
      unfold Tables.packout
      split
      · exact .inl rfl
      · rename_i allocated
        simp only
        split
        · rename_i isNode
          exact .inr (.inr ⟨call, rfl, handler, isNode, by simpa using allocated, rfl⟩)
        · exact .inl rfl
  | freeLinks => exact .inr (.inl rfl)
  | _ => exact .inl rfl

/-- A link comes into its table from a `NODE`. -/
theorem Tables.Change.links {p : Process} {event : Event} {tables after : Tables}
    (change : tables.Change p event after) {link : SwitchLink} (member : link ∈ after.links) :
    link ∈ tables.links ∨ ∃ call, event = .handled call ∧ call.handler = .packout ∧
      IsDiscovery call.message animNode ∧ link = linkEntry p.ani.switchId call.message := by
  rcases change.links_cases with kept | empty | ⟨call, handled, handler, isNode, -, added⟩
  · exact .inl (kept ▸ member)
  · rw [empty] at member
    cases member
  · rw [added] at member
    rcases List.mem_append.mp member with old | new
    · exact .inl old
    · exact .inr ⟨call, handled, handler, isNode, List.mem_singleton.mp new⟩

/-- In every reachable state the object lists represent tables, and no address
has two entries in the hosts table. -/
theorem Process.Reaches.tables {cbench : Bool} {events : List Event} {p : Process}
    (run : Process.Reaches cbench events p) :
    ∃ tables, p.ani.Shows tables ∧ (tables.hosts.map SwitchHost.macAddr).Nodup := by
  apply Run.invariant
    (fun _ p => ∃ tables, p.ani.Shows tables ∧ (tables.hosts.map SwitchHost.macAddr).Nodup)
    ⟨Tables.empty, Ani.initial_shows cbench, List.nodup_nil⟩ _ run
  rintro earlier state event next _ ⟨tables, shows, distinct⟩ step
  obtain ⟨after, kept, change⟩ := step.change shows
  exact ⟨after, kept, change.nodup distinct⟩

end DAIM.Ani41
