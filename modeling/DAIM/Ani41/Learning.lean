import DAIM.OpenFlow.Frames
import DAIM.Ani41.Tables

/-!
# Learning hosts

The hosts table since the last connection, as a function of the ARP packets
handled since then: it keeps the first sighting of every address.
-/

namespace DAIM.Ani41

open DAIM.Library DAIM.OpenFlow DAIM.Linked

/-- What an ARP packet tells about its sender. -/
structure Sighting where
  mac : Mac
  port : UInt16
  ip : UInt32
  deriving DecidableEq, Repr

def sighting (message : Memory) : Sighting :=
  ⟨(parsePacketIn message).src, (parsePacketIn message).inPort, arpSource message⟩

def Sighting.ofHost (host : SwitchHost) : Sighting :=
  ⟨host.macAddr, host.portNo, host.ipAddr⟩

/-- The sightings of an event: one for each `PACKET_IN` that carries ARP. -/
def Event.sightings : Event → List Sighting
  | .handled call =>
      if call.handler = .packout ∧ IsArp call.message then [sighting call.message] else []
  | _ => []

/-- Those for which a table entry could be allocated. -/
def Event.learned : Event → List Sighting
  | .handled call =>
      if call.env.allocated 0 then (Event.handled call).sightings else []
  | _ => []

def sightings (events : List Event) : List Sighting := events.flatMap Event.sightings

def learned (events : List Event) : List Sighting := events.flatMap Event.learned

/-- Allocation succeeds for every host that is new. -/
def Allocates (events : List Event) : Prop :=
  ∀ call, Event.handled call ∈ events → call.env.allocated 0 = true

theorem learned_eq {events : List Event} (allocates : Allocates events) :
    learned events = sightings events := by
  apply List.flatMap_congr
  intro event member
  cases event with
  | handled call => rw [Event.learned, if_pos (allocates call member)]
  | _ => rfl

/-- The main thread has a connection, or it has stopped while it had one. -/
def MainPlace.Online : MainPlace → Prop
  | .reading | .sending | .scanning _ | .exited => True
  | _ => False

theorem Process.Step.online {p q : Process} {event : Event} (step : Process.Step p event q)
    (online : p.place.Online) (kept : event ≠ .lost) : q.place.Online := by
  cases step with
  | lost _ => exact absurd rfl kept
  | answered _ _ _ =>
      unfold afterCall
      split <;> trivial
  | scanAnswered _ _ _ _ =>
      unfold afterCall
      split <;> trivial
  | thread _ _ => exact online
  | shared _ _ => exact online
  | _ => trivial

/-- Without a new connection nothing is handled after one was lost. -/
theorem Process.Step.offline {p q : Process} {event : Event} (step : Process.Step p event q)
    (offline : ¬ p.place.Online) (unbroken : ∀ connection, event ≠ .connected connection) :
    (¬ q.place.Online ∨ q.place = .exited) ∧ ∀ call, event ≠ .handled call := by
  cases step with
  | closed => exact ⟨.inl id, fun call => nofun⟩
  | freeHosts _ => exact ⟨.inl id, fun call => nofun⟩
  | freePorts _ => exact ⟨.inl id, fun call => nofun⟩
  | freeLinks _ => exact ⟨.inl id, fun call => nofun⟩
  | freeReplys _ => exact ⟨.inl id, fun call => nofun⟩
  | connected => exact absurd rfl (unbroken _)
  | refused => exact ⟨.inr rfl, fun call => nofun⟩
  | thread _ _ => exact ⟨.inl offline, fun call => nofun⟩
  | shared _ _ => exact ⟨.inl offline, fun call => nofun⟩
  | _ => exact absurd trivial offline

/-- The hosts after one event while the connection lasts. -/
theorem Tables.Change.hosts {p : Process} {event : Event} {tables after : Tables}
    (change : tables.Change p event after) (online : p.place.Online) :
    after.hosts.map Sighting.ofHost =
        event.learned.foldl (insertNew Sighting.mac) (tables.hosts.map Sighting.ofHost) ∧
      (event.sightings = [] → after.hosts = tables.hosts) ∧ tables.hosts <+: after.hosts := by
  cases change with
  | @packout call handler =>
      cases allocated : call.env.allocated 0 with
      | false => simp [Tables.packout, Event.learned, allocated]
      | true =>
          by_cases arp : IsArp call.message
          · have entry : Sighting.ofHost (hostEntry p.ani.switchId call.message) =
                Ani41.sighting call.message := rfl
            have mapped := map_insertNew SwitchHost.macAddr Sighting.ofHost Sighting.mac
              (fun _ => rfl) tables.hosts (hostEntry p.ani.switchId call.message)
            rw [entry] at mapped
            simp [Tables.packout, Event.learned, Event.sightings, allocated, arp, handler, mapped,
              prefix_insertNew]
          · simp [Tables.packout, Event.learned, Event.sightings, allocated, arp]
  | @ports call _ handler => simp [Event.learned, Event.sightings, handler]
  | kept other =>
      cases event with
      | handled call => simp [Event.learned, Event.sightings, other call rfl]
      | _ => simp [Event.learned]
  | freeHosts place =>
      rw [place] at online
      cases online
  | freePorts _ => simp [Event.learned]
  | freeLinks => simp [Event.learned]
  | freeReplys => simp [Event.learned]

/-- An event that is no sighting leaves the hosts as they are. -/
theorem Process.Step.hosts_kept {p q : Process} {event : Event} {tables : Tables}
    (step : Process.Step p event q) (shows : p.ani.Shows tables) (online : p.place.Online)
    (silent : event.sightings = []) : q.ani.hosts.contents = p.ani.hosts.contents := by
  obtain ⟨after, kept, change⟩ := step.change shows
  rw [kept.hosts.contents_eq, shows.hosts.contents_eq]
  exact (change.hosts online).2.1 silent

/-- An ARP packet enters its sender, when the entry can be allocated. -/
theorem Process.Step.hosts_learned {p q : Process} {call : Call} {tables : Tables}
    (step : Process.Step p (.handled call) q) (shows : p.ani.Shows tables)
    (handler : call.handler = .packout) (allocated : call.env.allocated 0 = true)
    (arp : IsArp call.message) :
    q.ani.hosts.contents = insertNew SwitchHost.macAddr p.ani.hosts.contents
      (hostEntry p.ani.switchId call.message) := by
  obtain ⟨started, ofBuffer, outcome, called⟩ := step.called
  have after := (called.packout shows handler).1
  rw [allocated, packout_of_arp tables arp, if_pos rfl] at after
  rw [after.hosts.contents_eq, shows.hosts.contents_eq]

/-! ## The table at the start of a connection -/

/-- The hosts were freed and no connection was accepted since. -/
def MainPlace.Cleared : MainPlace → Prop
  | .freePorts | .freeLinks | .freeReplys | .accepting => True
  | _ => False

theorem Process.Step.cleared {p q : Process} {event : Event} {hosts : List SwitchHost}
    (step : Process.Step p event q) (sound : p.ani.hosts.Sound hosts)
    (empty : p.place.Cleared → hosts = []) (cleared : q.place.Cleared) :
    q.ani.hosts.Sound [] := by
  cases step with
  | freeHosts freed => exact sound.freed freed
  | freePorts _ => exact empty trivial ▸ sound
  | freeLinks _ => exact empty trivial ▸ sound
  | freeReplys _ => exact empty trivial ▸ sound
  | answered _ _ _ =>
      unfold afterCall at cleared
      split at cleared <;> cases cleared
  | scanAnswered _ _ _ _ =>
      unfold afterCall at cleared
      split at cleared <;> cases cleared
  | thread _ share =>
      have same := congrArg Ani.hosts share.frame
      exact same ▸ empty cleared ▸ sound
  | shared _ share =>
      have same := congrArg Ani.hosts share.frame
      exact same ▸ empty cleared ▸ sound
  | _ => cases cleared

theorem Process.Reaches.cleared {cbench : Bool} {events : List Event} {p : Process}
    (run : Process.Reaches cbench events p) (cleared : p.place.Cleared) :
    p.ani.hosts.Sound [] := by
  induction run with
  | refl => cases cleared
  | @snoc events middle finish event earlier step inductionHypothesis =>
      obtain ⟨tables, shows, -⟩ := Process.Reaches.tables earlier
      by_cases before : middle.place.Cleared
      · exact step.cleared (inductionHypothesis before) (fun _ => rfl) cleared
      · exact step.cleared shows.hosts (fun now => absurd now before) cleared

/-- The history ends where a connection was just accepted. -/
def Connected (events : List Event) : Prop :=
  events = [] ∨ ∃ earlier connection, events = earlier ++ [.connected connection]

theorem Process.Reaches.connected {cbench : Bool} {events : List Event} {p : Process}
    (run : Process.Reaches cbench events p) (connected : Connected events) :
    p.ani.hosts.Sound [] ∧ p.place.Online := by
  rcases connected with rfl | ⟨earlier, connection, rfl⟩
  · generalize none : ([] : List Event) = events at run
    cases run with
    | refl => exact ⟨ObjectList.sound_empty, trivial⟩
    | snoc _ _ => simp at none
  · obtain ⟨last, before, step⟩ := run.snoc_inv
    cases step with
    | connected =>
        have cleared : MainPlace.Cleared .accepting := trivial
        have sound := Process.Reaches.cleared before cleared
        exact ⟨sound, trivial⟩

/-! ## The table while a connection lasts -/

/-- A run from the start in which the last connection was accepted after the
events `before` and lasts for the events `after`. -/
structure Session (cbench : Bool) (before after : List Event) (p : Process) : Prop where
  run : ∃ start, Process.Reaches cbench before start ∧ Run Process.Step start after p
  connected : Connected before
  lasts : Event.lost ∉ after

/-- The invariant of a session: the hosts are the first sightings in it. -/
theorem Session.hosts {cbench : Bool} {before after : List Event} {p : Process}
    (session : Session cbench before after p) :
    p.place.Online ∧ ∃ tables, p.ani.Shows tables ∧
      tables.hosts.map Sighting.ofHost = firstSeen Sighting.mac (learned after) := by
  obtain ⟨⟨start, earlier, run⟩, connected, lasts⟩ := session
  induction run with
  | refl =>
      obtain ⟨sound, online⟩ := Process.Reaches.connected earlier connected
      obtain ⟨tables, shows, -⟩ := Process.Reaches.tables earlier
      have empty : tables.hosts = [] := shows.hosts.contents_eq.symm.trans sound.contents_eq
      refine ⟨online, tables, shows, ?_⟩
      rw [empty]
      rfl
  | @snoc after middle finish event _ step inductionHypothesis =>
      have notNow : event ≠ .lost := by
        rintro rfl
        exact lasts (by simp)
      obtain ⟨online, tables, shows, hosts⟩ := inductionHypothesis fun now =>
        lasts (List.mem_append_left _ now)
      obtain ⟨changed, kept, change⟩ := step.change shows
      refine ⟨step.online online notNow, changed, kept, ?_⟩
      have split : learned (after ++ [event]) = learned after ++ event.learned := by
        simp [learned]
      rw [(change.hosts online).1, hosts, split, firstSeen_append]

/-- One more part of a session. -/
theorem Session.append {cbench : Bool} {before after more : List Event} {p q : Process}
    (session : Session cbench before after p) (run : Run Process.Step p more q)
    (lasts : Event.lost ∉ more) : Session cbench before (after ++ more) q := by
  obtain ⟨⟨start, earlier, sofar⟩, connected, lasted⟩ := session
  refine ⟨⟨start, earlier, sofar.trans run⟩, connected, ?_⟩
  intro lost
  rcases List.mem_append.mp lost with lost | lost
  · exact lasted lost
  · exact lasts lost

/-- Within a session entries are only appended, and only sightings append them. -/
theorem Session.grows {cbench : Bool} {before after more : List Event} {p q : Process}
    (session : Session cbench before after p) (run : Run Process.Step p more q)
    (lasts : Event.lost ∉ more) :
    p.ani.hosts.contents <+: q.ani.hosts.contents ∧
      (sightings more = [] → q.ani.hosts.contents = p.ani.hosts.contents) := by
  induction run with
  | refl => exact ⟨List.prefix_refl _, fun _ => rfl⟩
  | @snoc more middle finish event earlier step inductionHypothesis =>
      have lasted : Event.lost ∉ more := fun now => lasts (List.mem_append_left _ now)
      obtain ⟨online, tables, shows, -⟩ := (session.append earlier lasted).hosts
      obtain ⟨changed, kept, change⟩ := step.change shows
      obtain ⟨-, same, grown⟩ := change.hosts online
      obtain ⟨before, unchanged⟩ := inductionHypothesis lasted
      rw [shows.hosts.contents_eq] at before unchanged
      rw [kept.hosts.contents_eq]
      refine ⟨before.trans grown, ?_⟩
      intro silent
      rw [sightings, List.flatMap_append] at silent
      obtain ⟨first, last⟩ := List.append_eq_nil_iff.mp silent
      rw [same (by simpa using last), unchanged first]

/-- While a connection lasts and allocations succeed, the hosts table holds the
first sighting of every address, in order of first appearance; its entries are
never changed, and nothing but an ARP packet changes the table. -/
theorem hosts_firstSeen {cbench : Bool} {before after : List Event} {p : Process}
    (session : Session cbench before after p) (allocates : Allocates after) :
    p.ani.hosts.contents.map Sighting.ofHost = firstSeen Sighting.mac (sightings after) ∧
      (p.ani.hosts.contents.map SwitchHost.macAddr).Nodup ∧
      ∀ more q, Run Process.Step p more q → Event.lost ∉ more →
        p.ani.hosts.contents <+: q.ani.hosts.contents ∧
          (sightings more = [] → q.ani.hosts.contents = p.ani.hosts.contents) := by
  obtain ⟨-, tables, shows, hosts⟩ := session.hosts
  rw [learned_eq allocates, ← shows.hosts.contents_eq] at hosts
  have keys : p.ani.hosts.contents.map SwitchHost.macAddr =
      (firstSeen Sighting.mac (sightings after)).map Sighting.mac := by
    rw [← hosts, List.map_map]
    rfl
  refine ⟨hosts, ?_, fun more q run lasts => session.grows run lasts⟩
  rw [keys]
  exact nodup_keys_firstSeen _ _

/-! ## A host that moves -/

/-- Deliveries outside of the benchmark mode are a session. -/
theorem Session.delivered {inputs : List (List UInt8 × Env)} {events : List Event} {p : Process}
    (delivered : (Process.initial false).deliverAll inputs = some (events, p)) :
    Session false [] events p :=
  ⟨⟨_, .refl, Process.deliverAll_run delivered⟩, .inl rfl,
    (Process.deliverAll_events delivered).1⟩

def hostA : Mac := ⟨2, 0, 0, 0, 0, 0xa⟩
def hostB : Mac := ⟨2, 0, 0, 0, 0, 0xb⟩

/-- An ARP request, reported as buffered. -/
def arpReport (port : UInt16) (dst src : Mac) : List UInt8 :=
  PacketInMessage.encode
    { xid := 7, bufferId := 256, totalLen := 42, inPort := port, reason := 0
      data := ethernetFrame dst src arpData (arpPacket 1 src 0x0a000001 dst 0x0a000002) }

/-- One host is seen on port 1 and then on port 2. -/
def movingHost : List (List UInt8 × Env) :=
  [(arpReport 1 Mac.broadcast hostA, .calm), (arpReport 2 Mac.broadcast hostA, .calm)]

theorem hosts_firstSeen_movingHost :
    ∃ events p, (Process.initial false).deliverAll movingHost = some (events, p) ∧
      p.ani.hosts.contents.map Sighting.ofHost = firstSeen Sighting.mac (sightings events) := by
  have runs : ((Process.initial false).deliverAll movingHost).isSome := by decide
  obtain ⟨⟨events, p⟩, delivered⟩ := Option.isSome_iff_exists.mp runs
  have allocates : Allocates events := by
    intro call member
    obtain ⟨chunk, input⟩ := (Process.deliverAll_events delivered).2 call member
    simp only [movingHost, List.mem_cons, Prod.mk.injEq, List.not_mem_nil, or_false] at input
    rcases input with ⟨-, calm⟩ | ⟨-, calm⟩ <;> rw [calm] <;> rfl
  exact ⟨events, p, delivered, (hosts_firstSeen (Session.delivered delivered) allocates).1⟩

end DAIM.Ani41
