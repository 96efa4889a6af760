import DAIM.Ani41.Identity
import DAIM.Ani41.Reconnect

/-!
# What the handled messages have told

The datapath id, the number of ports and the tables of hosts and ports as a
function of the messages that were handled on a connection; and the ports table
after several features replies.
-/

namespace DAIM.Ani41

open DAIM.Library DAIM.OpenFlow DAIM.Linked

/-- What remains of the messages, if nothing is ever freed. -/
structure Told where
  switchId : UInt64
  noOfPorts : Int
  tables : Tables

namespace Told

/-- The datapath id of a features reply. -/
def datapathId (message : Memory) : UInt64 :=
  be64toh (message.load64 OfpSwitchFeatures.datapathId)

/-- The records of a features reply for which table entries could be allocated. -/
def portsOf (call : Call) : List SwitchPort :=
  portEntries call.env call.message (datapathId call.message) (featuresCount call.message).toNat 0

/-- One more message was handled. -/
def take (told : Told) (call : Call) : Told :=
  match call.handler with
  | .featuresReply =>
      if featuresCount call.message = 0 then
        { told with noOfPorts := 0 }
      else
        { switchId := datapathId call.message
          noOfPorts := featuresCount call.message
          tables := { told.tables with ports := told.tables.ports ++ portsOf call } }
  | .packout =>
      { told with
        tables := told.tables.packout (call.env.allocated 0) told.switchId call.message }
  | _ => told

theorem take_packout (told : Told) {call : Call} (handler : call.handler = .packout) :
    told.take call = { told with
      tables := told.tables.packout (call.env.allocated 0) told.switchId call.message } := by
  rw [take, handler]

def takeAll (told : Told) (calls : List Call) : Told := calls.foldl take told

theorem takeAll_append (told : Told) (first second : List Call) :
    told.takeAll (first ++ second) = (told.takeAll first).takeAll second :=
  List.foldl_append

end Told

/-- The process knows what it was told, apart from the links and the replies. -/
structure Process.Knows (p : Process) (told : Told) : Prop where
  switchId : p.ani.switchId = told.switchId
  noOfPorts : p.ani.noOfPorts = told.noOfPorts
  tables : ∃ tables, p.ani.Shows tables ∧ tables.hosts = told.tables.hosts ∧
    tables.ports = told.tables.ports

theorem packout_hosts {tables other : Tables} {allocated : Bool} {switchId : UInt64}
    {message : Memory} (hosts : tables.hosts = other.hosts) (ports : tables.ports = other.ports) :
    (tables.packout allocated switchId message).hosts =
        (other.packout allocated switchId message).hosts ∧
      (tables.packout allocated switchId message).ports =
        (other.packout allocated switchId message).ports := by
  unfold Tables.packout
  rw [hosts]
  split <;> exact ⟨by simp [hosts], by simp [ports]⟩

/-- What a call tells. -/
theorem Called.knows {p q : Process} {call : Call} {started : Ani} {ofBuffer : Nat}
    {outcome : Outcome} {told : Told} (called : Called p call q started ofBuffer outcome)
    (knows : p.Knows told) : q.Knows (told.take call) := by
  obtain ⟨tables, shows, hosts, ports⟩ := knows.tables
  have startedShows := called.shows shows
  have run := called.run
  have message := called.message
  have switchId : q.ani.switchId = outcome.ani.switchId := by rw [called.ended]
  have noOfPorts : q.ani.noOfPorts = outcome.ani.noOfPorts := by rw [called.ended]
  have before : started.noOfPorts = p.ani.noOfPorts := by rw [called.pointers]
  have kept (keeps : started.Keeps outcome.ani) :
      q.ani.switchId = told.switchId ∧ q.ani.noOfPorts = told.noOfPorts := by
    rw [switchId, noOfPorts, ← knows.switchId, ← knows.noOfPorts, ← called.switchId, ← before]
    exact ⟨congrArg Ani.Fixed.switchId keeps, congrArg Ani.Fixed.noOfPorts keeps⟩
  unfold Told.take
  cases handler : call.handler with
  | hello =>
      rw [handler] at run
      obtain ⟨shown, keeps, -⟩ := actionHello_spec startedShows (Option.some.inj run)
      exact ⟨(kept keeps).1, (kept keeps).2, tables, called.ended_shows shown, hosts, ports⟩
  | echo =>
      rw [handler] at run
      obtain ⟨shown, keeps, -⟩ := actionEcho_spec startedShows (Option.some.inj run)
      exact ⟨(kept keeps).1, (kept keeps).2, tables, called.ended_shows shown, hosts, ports⟩
  | packout =>
      rw [handler] at run
      have keeps := (actionPackout_spec startedShows run).1.keeps
      have shown := (called.packout shows handler).1
      rw [knows.switchId] at shown
      obtain ⟨sameHosts, samePorts⟩ := packout_hosts hosts ports
      exact ⟨(kept keeps).1, (kept keeps).2, _, shown, sameHosts, samePorts⟩
  | featuresReply =>
      rw [handler] at run
      obtain ⟨-, -, -, -, count, result⟩ := actionFeaturesReply_spec startedShows run
      rw [← message] at count result
      simp only
      split at result
      · rename_i zero
        have noPorts : featuresCount call.message = 0 := zero
        obtain ⟨shown, same, -⟩ := result
        rw [if_pos noPorts]
        refine ⟨?_, ?_, tables, called.ended_shows shown, hosts, ports⟩
        · rw [switchId, same, called.switchId, knows.switchId]
        · rw [noOfPorts, count]
          exact noPorts
      · rename_i nonzero
        have somePorts : featuresCount call.message ≠ 0 := nonzero
        obtain ⟨shown, named, -⟩ := result
        rw [if_neg somePorts]
        exact ⟨switchId.trans named, noOfPorts.trans count, _, called.ended_shows shown, hosts,
          congrArg (· ++ Told.portsOf call) ports⟩

theorem Process.Step.noOfPorts_kept {p q : Process} {event : Event}
    (step : Process.Step p event q) (silent : ∀ call, event ≠ .handled call) :
    q.ani.noOfPorts = p.ani.noOfPorts :=
  (step.frame silent).2.2.1

/-- While the connection lasts, only calls change the tables of hosts and ports. -/
theorem Tables.Change.silent {p : Process} {event : Event} {tables after : Tables}
    (change : tables.Change p event after) (online : p.place.Online)
    (silent : ∀ call, event ≠ .handled call) :
    after.hosts = tables.hosts ∧ after.ports = tables.ports := by
  cases change with
  | packout _ => exact absurd rfl (silent _)
  | ports _ => exact absurd rfl (silent _)
  | freeHosts place =>
      rw [place] at online
      cases online
  | freePorts place =>
      rw [place] at online
      cases online
  | _ => exact ⟨rfl, rfl⟩

/-- While the connection lasts, only calls tell anything. -/
theorem Process.Step.knows {p q : Process} {event : Event} {told : Told}
    (step : Process.Step p event q) (knows : p.Knows told) (online : p.place.Online) :
    q.Knows (told.takeAll (calls [event])) := by
  cases event with
  | handled call =>
      obtain ⟨started, ofBuffer, outcome, called⟩ := step.called
      exact called.knows knows
  | _ =>
      obtain ⟨tables, shows, hosts, ports⟩ := knows.tables
      obtain ⟨after, kept, change⟩ := step.change shows
      refine ⟨?_, ?_, after, kept, ?_⟩
      · exact (step.switchId_kept fun call => nofun).trans knows.switchId
      · exact (step.noOfPorts_kept fun call => nofun).trans knows.noOfPorts
      · obtain ⟨sameHosts, samePorts⟩ := change.silent online fun call => nofun
        exact ⟨sameHosts.trans hosts, samePorts.trans ports⟩

/-! ## The start of a connection -/

/-- The ports were freed and no connection was accepted since. -/
def MainPlace.PortsFreed : MainPlace → Prop
  | .freeLinks | .freeReplys | .accepting => True
  | _ => False

theorem Process.Step.portsFreed {p q : Process} {event : Event} {ports : List SwitchPort}
    (step : Process.Step p event q) (sound : p.ani.ports.Sound ports)
    (empty : p.place.PortsFreed → ports = []) (freed : q.place.PortsFreed) :
    q.ani.ports.Sound [] := by
  cases step with
  | freePorts emptied => exact sound.freed emptied
  | freeLinks _ => exact empty trivial ▸ sound
  | freeReplys _ => exact empty trivial ▸ sound
  | answered _ _ _ =>
      unfold afterCall at freed
      split at freed <;> cases freed
  | scanAnswered _ _ _ _ =>
      unfold afterCall at freed
      split at freed <;> cases freed
  | thread _ share =>
      have same := congrArg Ani.ports share.frame
      exact same ▸ empty freed ▸ sound
  | shared _ share =>
      have same := congrArg Ani.ports share.frame
      exact same ▸ empty freed ▸ sound
  | _ => cases freed

theorem Process.Reaches.portsFreed {cbench : Bool} {events : List Event} {p : Process}
    (run : Process.Reaches cbench events p) (freed : p.place.PortsFreed) :
    p.ani.ports.Sound [] := by
  induction run with
  | refl => cases freed
  | @snoc events middle finish event earlier step inductionHypothesis =>
      obtain ⟨tables, shows, -⟩ := Process.Reaches.tables earlier
      by_cases before : middle.place.PortsFreed
      · exact step.portsFreed (inductionHypothesis before) (fun _ => rfl) freed
      · exact step.portsFreed shows.ports (fun now => absurd now before) freed

/-- What a process knows when a connection begins. -/
def Process.remembers (p : Process) : Told := ⟨p.ani.switchId, p.ani.noOfPorts, Tables.empty⟩

theorem Process.Reaches.remembers {cbench : Bool} {events : List Event} {p : Process}
    (run : Process.Reaches cbench events p) (connected : Connected events) :
    p.Knows p.remembers := by
  obtain ⟨tables, shows, -⟩ := run.tables
  refine ⟨rfl, rfl, tables, shows, ?_⟩
  rcases connected with rfl | ⟨earlier, accepted, rfl⟩
  · generalize none : ([] : List Event) = events at run
    cases run with
    | refl =>
        exact ⟨shows.hosts.contents_eq.symm.trans ObjectList.sound_empty.contents_eq,
          shows.ports.contents_eq.symm.trans ObjectList.sound_empty.contents_eq⟩
    | snoc _ _ => simp at none
  · obtain ⟨last, before, step⟩ := run.snoc_inv
    cases step with
    | connected =>
        have cleared : MainPlace.Cleared .accepting := trivial
        have freed : MainPlace.PortsFreed .accepting := trivial
        have hosts := Process.Reaches.cleared before cleared
        have ports := Process.Reaches.portsFreed before freed
        exact ⟨shows.hosts.contents_eq.symm.trans hosts.contents_eq,
          shows.ports.contents_eq.symm.trans ports.contents_eq⟩

/-- On a connection the process knows what the messages handled on it have
told, besides what it remembers. -/
theorem session_knows {cbench : Bool} {before after : List Event} {start p : Process}
    (earlier : Process.Reaches cbench before start) (connected : Connected before)
    (run : Run Process.Step start after p) (lasts : Event.lost ∉ after) :
    p.place.Online ∧ p.Knows (start.remembers.takeAll (calls after)) := by
  induction run with
  | refl =>
      exact ⟨(Process.Reaches.connected earlier connected).2, earlier.remembers connected⟩
  | @snoc after middle finish event _ step inductionHypothesis =>
      have notNow : event ≠ .lost := by
        rintro rfl
        exact lasts (by simp)
      obtain ⟨online, knows⟩ := inductionHypothesis fun now => lasts (List.mem_append_left _ now)
      refine ⟨step.online online notNow, ?_⟩
      rw [calls_append, Told.takeAll_append]
      exact step.knows knows online

end DAIM.Ani41
