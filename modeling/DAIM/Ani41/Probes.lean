import Mathlib.Data.List.Perm.Subperm
import DAIM.Ani41.Ports

/-!
# The ports that a round probes

A round of a discovery thread probes the ports from one up to the number of
records of the features reply, whichever numbers the records have.
-/

namespace DAIM.Ani41

open DAIM.Library DAIM.OpenFlow DAIM.Com

/-! ## Probes -/

/-- The port that an `ECHO_REQUEST` is sent out of. -/
def requestPort (bytes : List UInt8) : Option UInt16 :=
  match PacketOut.decode bytes with
  | none => none
  | some packet =>
      if packet.data.getD (OfEthernet.size + AnimHeader.type) 0 = animEchoRequest then
        packet.actions.head?.map ActionOutput.port
      else none

theorem requestPort_discoveryPacket (port : UInt16) (message : DiscoveryMessage) :
    requestPort (discoveryPacket port message).encode =
      if message.type = animEchoRequest then some port else none := by
  rw [requestPort, discoveryPacket_decode]
  cases message <;> rfl

@[simp]
theorem requestPort_echoRequest (port : UInt16) :
    requestPort (headerBytes (echoRequestPacketOut port)) = some port := by
  rw [echoRequestPacketOut_bytes, requestPort_discoveryPacket]
  rfl

@[simp]
theorem requestPort_node (switchId : UInt64) (port : UInt16) :
    requestPort (headerBytes (nodePacketOut switchId port)) = none := by
  rw [nodePacketOut_bytes, requestPort_discoveryPacket]
  rfl

def Event.requestPort (index : Nat) : Event → Option UInt16
  | .shared sender bytes => if sender = index then Ani41.requestPort bytes else none
  | _ => none

/-- The ports that a thread has sent an `ECHO_REQUEST` out of. -/
def probesOf (index : Nat) (events : List Event) : List UInt16 :=
  events.filterMap (Event.requestPort index)

theorem probesOf_append (index : Nat) (events more : List Event) :
    probesOf index (events ++ more) = probesOf index events ++ probesOf index more :=
  List.filterMap_append

theorem probesOf_sent (index : Nat) (sent : Option (List UInt8)) :
    probesOf index [sent.elim .internal (.shared index)] = (sent.bind requestPort).toList := by
  cases sent with
  | none => rfl
  | some bytes =>
      cases port : requestPort bytes <;> simp [probesOf, Event.requestPort, port]

theorem probesOf_other {index : Nat} {event : Event}
    (other : ∀ bytes, event ≠ .shared index bytes) :
    probesOf index [event] = [] := by
  cases event with
  | shared sender bytes =>
      have different : sender ≠ index := by
        rintro rfl
        exact other bytes rfl
      simp [probesOf, Event.requestPort, different]
  | _ => rfl

/-- The ports with the lowest numbers. -/
def firstPorts (count : Nat) : List UInt16 := (List.range' 1 count).map UInt16.ofNat

@[simp]
theorem firstPorts_length (count : Nat) : (firstPorts count).length = count := by
  simp [firstPorts]

theorem firstPorts_succ (count : Nat) :
    firstPorts (count + 1) = firstPorts count ++ [UInt16.ofNat (count + 1)] := by
  rw [firstPorts, List.range'_concat, List.map_append, Nat.one_mul, Nat.add_comm 1 count]
  rfl

theorem firstPorts_nodup {count : Nat} (bounded : count < 65536) : (firstPorts count).Nodup := by
  apply List.Nodup.map_on _ List.nodup_range'
  intro first firstMember second secondMember same
  rw [List.mem_range'_1] at firstMember secondMember
  have small {number : Nat} (within : 1 ≤ number ∧ number < 1 + count) :
      (UInt16.ofNat number).toNat = number :=
    UInt16.toNat_ofNat_of_lt' (show number < 65536 by omega)
  rw [← small firstMember, ← small secondMember, same]

/-- The numbers of the ports that a features reply lists. -/
def listedPorts (message : Memory) : List UInt16 := (portRecords message).map SwitchPort.portNo

theorem portRecords_ne_nil {message : Memory} {port : UInt16} {ports : List UInt16}
    (listed : listedPorts message = port :: ports) : portRecords message ≠ [] := by
  intro none
  rw [listedPorts, none] at listed
  cases listed

/-! ## One step of a round -/

/-- What a thread in a round has probed so far, when there were so many ports
at the start of the round. -/
def Probed (count : Nat) (s : Ani) (thread : Thread) (probes : List UInt16) : Prop :=
  match thread.place with
  | .resetRound => s.noOfPorts = count ∧ probes = []
  | .probe portno =>
      thread.portsCount = count ∧ ∃ done ≤ count, portno = done + 1 ∧ probes = firstPorts done
  | _ => probes = firstPorts count

theorem ShareStep.probes {index count : Nat} {s next : Ani} {thread after : Thread}
    {sent : Option (List UInt8)} {probes : List UInt16}
    (step : ShareStep index s thread sent next after) (probed : Probed count s thread probes)
    (inside : thread.place ≠ .lockRound) :
    Probed count next after (probes ++ (sent.bind requestPort).toList) := by
  obtain ⟨place, portsCount⟩ := thread
  cases step with
  | lock locking free =>
      cases place <;> cases locking
      · exact absurd rfl inside
      all_goals exact (List.append_nil _).trans probed
  | resetRound here =>
      cases here
      obtain ⟨ports, none⟩ := probed
      exact ⟨ports, 0, Nat.zero_le _, rfl, by simp [none, firstPorts]⟩
  | @probe portno here more =>
      cases here
      obtain ⟨ports, done, within, rfl, sent⟩ := probed
      have left : ((done + 1 : Nat) : Int) < portsCount + 1 := more
      have total : portsCount = count := ports
      refine ⟨ports, done + 1, by omega, rfl, ?_⟩
      rw [sent, firstPorts_succ]
      simp
  | @probed portno here finished =>
      cases here
      obtain ⟨ports, done, within, rfl, sent⟩ := probed
      have past : ¬ ((done + 1 : Nat) : Int) < portsCount + 1 := finished
      have total : portsCount = count := ports
      have all : done = count := by omega
      show probes ++ [] = firstPorts count
      rw [List.append_nil, sent, all]
  | shareNode here _ =>
      cases here
      rw [Option.bind_some, requestPort_node]
      exact (List.append_nil _).trans probed
  | rewindReplys here =>
      cases here
      exact (List.append_nil _).trans probed
  | rewindLinks here =>
      cases here
      exact (List.append_nil _).trans probed
  | unlockWait here =>
      cases here
      exact (List.append_nil _).trans probed
  | unlockLinks here =>
      cases here
      exact (List.append_nil _).trans probed
  | _ here _ =>
      cases here
      exact (List.append_nil _).trans probed

/-! ## Whole rounds -/

/-- The number of ports is that of the last features reply. -/
theorem Process.Step.noOfPorts_call {p q : Process} {call : Call} {tables : Tables}
    (step : Process.Step p (.handled call) q) (shows : p.ani.Shows tables) :
    q.ani.noOfPorts =
      if call.handler = .featuresReply then featuresCount call.message else p.ani.noOfPorts := by
  obtain ⟨started, ofBuffer, outcome, called⟩ := step.called
  have knows : p.Knows ⟨p.ani.switchId, p.ani.noOfPorts, tables⟩ :=
    ⟨rfl, rfl, tables, shows, rfl, rfl⟩
  exact (called.knows knows).noOfPorts.trans (Told.take_noOfPorts _ call)

/-- A features reply is handled only while nobody holds the mutex. -/
theorem Call.Touches.features_free {call : Call} {switchId : UInt64} {s next : Shared}
    {spawned : Bool} (touches : call.Touches switchId s next spawned)
    (features : call.handler = .featuresReply) : s.linksMutex = none := by
  cases touches with
  | nothing _ _ other => exact absurd features other
  | reply _ free _ => exact free
  | node _ free _ => exact free
  | started _ _ free => exact free
  | jammed _ _ free _ => exact free

/-- While one of the threads holds the mutex, the number of ports stays. -/
theorem Process.Step.noOfPorts_locked {p q : Process} {event : Event} {tables : Tables}
    {owner : Owner} (step : Process.Step p event q) (shows : p.ani.Shows tables)
    (locked : p.ani.linksMutex = some owner) : q.ani.noOfPorts = p.ani.noOfPorts := by
  by_cases silent : ∀ call, event ≠ .handled call
  · exact step.noOfPorts_kept silent
  · obtain ⟨call, handled⟩ := not_forall_not.mp silent
    subst handled
    obtain ⟨started, ofBuffer, outcome, called⟩ := step.called
    have other : call.handler ≠ .featuresReply := fun features =>
      nomatch locked.symm.trans (called.touches.features_free features)
    rw [step.noOfPorts_call shows, if_neg other]

/-- The number of ports stays until the next features reply. -/
theorem Process.Reaches.noOfPorts_kept {cbench : Bool} {before more : List Event} {p q : Process}
    (reached : Process.Reaches cbench before p) (rest : Run Process.Step p more q)
    (last : replies more = []) : q.ani.noOfPorts = p.ani.noOfPorts := by
  induction rest with
  | refl => rfl
  | @snoc events middle finish event run step inductionHypothesis =>
      rw [replies_append] at last
      obtain ⟨earlier, now⟩ := List.append_eq_nil_iff.mp last
      rw [← inductionHypothesis earlier]
      by_cases silent : ∀ call, event ≠ .handled call
      · exact step.noOfPorts_kept silent
      · obtain ⟨call, handled⟩ := not_forall_not.mp silent
        subst handled
        obtain ⟨tables, shows, -⟩ := Process.Reaches.tables (reached.trans run)
        have other : call.handler ≠ .featuresReply := by
          intro features
          simp [replies, calls, Event.call?, features] at now
        rw [step.noOfPorts_call shows, if_neg other]

/-- Where the thread with the given index is. -/
def Process.At (index : Nat) (place : SharePlace) (p : Process) : Prop :=
  p.threads[index]?.map Thread.place = some place

instance (index : Nat) (place : SharePlace) (p : Process) : Decidable (p.At index place) :=
  inferInstanceAs (Decidable (_ = _))

theorem Process.At.thread {index : Nat} {place : SharePlace} {p : Process}
    (here : p.At index place) :
    ∃ thread, p.threads[index]? = some thread ∧ thread.place = place :=
  Option.map_eq_some_iff.mp here

/-- A round of a thread, from the place where it reads the number of ports to
the place where it goes back to, with any steps of the others in between. -/
structure FullRound (index : Nat) (p : Process) (events : List Event) (q : Process) : Prop where
  begins : p.At index .resetRound
  steps : Guarded Process.Step (fun _ state _ => ¬ state.At index .lockRound) p events q
  ends : q.At index .lockRound

/-- The loop over the ports, with the steps of the other threads and of the
main loop between its steps. -/
theorem Process.Reaches.probed {cbench : Bool} {before events : List Event} {p q : Process}
    {index count : Nat} (reached : Process.Reaches cbench before p)
    (begins : p.At index .resetRound) (ports : p.ani.noOfPorts = count)
    (steps : Guarded Process.Step (fun _ state _ => ¬ state.At index .lockRound) p events q) :
    ∃ thread, q.threads[index]? = some thread ∧
      Probed count q.ani thread (probesOf index events) := by
  induction steps with
  | refl =>
      obtain ⟨thread, found, place⟩ := begins.thread
      refine ⟨thread, found, ?_⟩
      rw [Probed, place]
      exact ⟨ports, rfl⟩
  | @snoc events middle finish event earlier inside step inductionHypothesis =>
      obtain ⟨thread, found, probed⟩ := inductionHypothesis
      have arrived := reached.trans earlier.run
      rw [probesOf_append]
      rcases step.touches.thread_cases found with ⟨sent, after, share, now, rfl⟩ | ⟨now, other⟩
      · refine ⟨after, now, ?_⟩
        rw [probesOf_sent]
        apply share.probes probed
        intro atStart
        exact inside (by rw [Process.At, found, Option.map_some, atStart])
      · refine ⟨thread, now, ?_⟩
        rw [probesOf_other other, List.append_nil]
        cases place : thread.place with
        | resetRound =>
            -- the thread has the mutex, so that no features reply is handled
            have held : middle.ani.linksMutex = some (.thread index) :=
              (Process.Reaches.exclusive arrived index).mpr ⟨thread, found, place ▸ trivial⟩
            obtain ⟨tables, shows, -⟩ := Process.Reaches.tables arrived
            rw [Probed, place] at probed ⊢
            rw [step.noOfPorts_locked shows held]
            exact probed
        | _ =>
            rw [Probed, place] at probed ⊢
            exact probed

/-- What a round has probed. -/
theorem FullRound.probes {cbench : Bool} {before events : List Event} {p q : Process}
    {index count : Nat} (round : FullRound index p events q)
    (reached : Process.Reaches cbench before p) (ports : p.ani.noOfPorts = count) :
    probesOf index events = firstPorts count := by
  obtain ⟨thread, found, probed⟩ := reached.probed round.begins ports round.steps
  obtain ⟨same, here, place⟩ := round.ends.thread
  cases found.symm.trans here
  rw [Probed, place] at probed
  exact probed

/-- The ports that a features reply has room for can be numbered. -/
theorem portRecords_bounded (message : Memory) : (portRecords message).length < 65536 := by
  have bounded : (ntohs (message.load16 OfpHeader.length)).toNat < 65536 := UInt16.toNat_lt _
  rw [portRecords, List.length_map, List.length_range']
  exact Nat.lt_of_le_of_lt (Nat.div_le_self _ _) (by omega)

/-- Records that list the same ports as the first ones, as many of them, list
each of them once. -/
theorem listed_perm_iff (message : Memory) :
    (∀ port, port ∈ firstPorts (portRecords message).length ↔ port ∈ listedPorts message) ↔
      (listedPorts message).Perm (firstPorts (portRecords message).length) := by
  constructor
  · intro same
    have distinct := firstPorts_nodup (portRecords_bounded message)
    have inside := List.subperm_of_subset distinct fun port member => (same port).mp member
    apply List.Perm.symm
    apply inside.perm_of_length_le
    rw [firstPorts_length, listedPorts, List.length_map]
  · intro ordered port
    exact ordered.mem_iff.symm

/-- In a round that begins after a features reply with records, and before the
next one, a discovery thread probes the ports that the reply lists exactly if
their numbers are the first ones, each of them listed once. -/
theorem probed_eq_listed_iff {cbench : Bool} {before middle events : List Event}
    {p answered start q : Process} {call : Call} {index : Nat}
    (reached : Process.Reaches cbench before p)
    (handled : Process.Step p (.handled call) answered)
    (features : call.handler = .featuresReply) (lists : portRecords call.message ≠ [])
    (rest : Run Process.Step answered middle start) (last : replies middle = [])
    (round : FullRound index start events q) :
    (∀ port, port ∈ probesOf index events ↔ port ∈ listedPorts call.message) ↔
      (listedPorts call.message).Perm (firstPorts (portRecords call.message).length) := by
  have after : Process.Reaches cbench (before ++ [.handled call]) answered := reached.snoc handled
  have whole : WholeReply call.message := by
    by_contra short
    apply lists
    rw [portRecords, Nat.sub_eq_zero_of_le (Nat.le_of_lt (Nat.lt_of_not_le short))]
    rfl
  obtain ⟨tables, shows, -⟩ := Process.Reaches.tables reached
  have ports : start.ani.noOfPorts = (portRecords call.message).length := by
    rw [Process.Reaches.noOfPorts_kept after rest last, handled.noOfPorts_call shows,
      if_pos features, featuresCount_whole whole]
  rw [round.probes (after.trans rest) ports]
  exact listed_perm_iff call.message

/-! ## Running a round -/

/-- The steps of a thread up to where it begins its next round. -/
def Process.roundOf (index : Nat) : Nat → Process → Option (List Event × Process)
  | 0, _ => none
  | fuel + 1, p =>
      if p.At index .lockRound then some ([], p)
      else
        match p.share index with
        | none => none
        | some (sent, middle) =>
            (middle.roundOf index fuel).map fun (events, q) =>
              (sent.elim .internal (.shared index) :: events, q)

theorem Process.roundOf_steps {index fuel : Nat} {p q : Process} {events : List Event}
    (ran : p.roundOf index fuel = some (events, q)) :
    Guarded Process.Step (fun _ state _ => ¬ state.At index .lockRound) p events q ∧
      q.At index .lockRound := by
  induction fuel generalizing p events with
  | zero => cases ran
  | succ fuel inductionHypothesis =>
      unfold Process.roundOf at ran
      split at ran
      · rename_i ended
        cases ran
        exact ⟨.refl, ended⟩
      · rename_i inside
        split at ran
        · cases ran
        · rename_i sent middle shared
          obtain ⟨⟨more, last⟩, rest, same⟩ := Option.map_eq_some_iff.mp ran
          cases same
          obtain ⟨steps, ends⟩ := inductionHypothesis rest
          exact ⟨Guarded.cons inside (Process.share_step shared) steps, ends⟩

/-- A features reply is answered, and the thread that it starts goes through a round. -/
def probingRound (chunk : List UInt8) : Option (Call × Process × List Event × Process) := do
  let (call, answered) ← (Process.initial false).deliver chunk .calm
  let (_, start) ← answered.share 0
  let (events, q) ← start.roundOf 0 64
  some (call, start, events, q)

theorem probingRound_spec {chunk : List UInt8} {call : Call} {start q : Process}
    {events : List Event} (ran : probingRound chunk = some (call, start, events, q))
    (begins : start.At 0 .resetRound) :
    ∃ before middle p answered, Process.Reaches false before p ∧
      Process.Step p (.handled call) answered ∧ Run Process.Step answered middle start ∧
      replies middle = [] ∧ FullRound 0 start events q := by
  obtain ⟨⟨made, answered⟩, delivered, ran⟩ := Option.bind_eq_some_iff.mp ran
  obtain ⟨⟨sent, locked⟩, shared, ran⟩ := Option.bind_eq_some_iff.mp ran
  obtain ⟨⟨taken, last⟩, round, same⟩ := Option.bind_eq_some_iff.mp ran
  cases same
  obtain ⟨p, received, handled⟩ := (Process.deliver_run delivered).cons_inv
  obtain ⟨steps, ends⟩ := Process.roundOf_steps round
  refine ⟨[.received chunk], [sent.elim .internal (.shared 0)], p, answered, .single received,
    handled.single_inv, .single (Process.share_step shared), ?_, begins, steps, ends⟩
  cases sent <;> rfl

/-- The switch lists a port and its local port; the round probes the ports one
and two. -/
theorem unlisted_port_probed :
    ¬ ∀ (cbench : Bool) (before middle events : List Event) (p answered start q : Process)
      (call : Call) (index : Nat), Process.Reaches cbench before p →
      Process.Step p (.handled call) answered → call.handler = .featuresReply →
      portRecords call.message ≠ [] → Run Process.Step answered middle start →
      replies middle = [] → FullRound index start events q →
      ∀ port, port ∈ probesOf index events ↔ port ∈ listedPorts call.message := by
  intro always
  have computed : (probingRound (featuresMessage 11 [1, 65534])).map
      (fun (call, start, events, _) => (call.handler, listedPorts call.message,
        probesOf 0 events, decide (start.At 0 .resetRound))) =
      some (.featuresReply, [1, 65534], [1, 2], true) := by decide +kernel
  obtain ⟨⟨call, start, events, q⟩, ran, same⟩ := Option.map_eq_some_iff.mp computed
  simp only [Prod.mk.injEq, decide_eq_true_eq] at same
  obtain ⟨features, listed, probed, begins⟩ := same
  obtain ⟨before, middle, p, answered, reached, handled, rest, last, round⟩ :=
    probingRound_spec ran begins
  have lists := portRecords_ne_nil listed
  have same := always false before middle events p answered start q call 0 reached handled
    features lists rest last round 2
  rw [listed, probed] at same
  exact absurd same (by decide)

/-- A switch whose only port is the first one. -/
theorem probed_eq_listed_one :
    ∃ (call : Call) (events : List Event), listedPorts call.message = [1] ∧
      ((∀ port, port ∈ probesOf 0 events ↔ port ∈ listedPorts call.message) ↔
        (listedPorts call.message).Perm (firstPorts (portRecords call.message).length)) := by
  have computed : (probingRound (featuresMessage 11 [1])).map
      (fun (call, start, _, _) => (call.handler, listedPorts call.message,
        decide (start.At 0 .resetRound))) =
      some (.featuresReply, [1], true) := by decide +kernel
  obtain ⟨⟨call, start, events, q⟩, ran, same⟩ := Option.map_eq_some_iff.mp computed
  simp only [Prod.mk.injEq, decide_eq_true_eq] at same
  obtain ⟨features, listed, begins⟩ := same
  obtain ⟨before, middle, p, answered, reached, handled, rest, last, round⟩ :=
    probingRound_spec ran begins
  have lists := portRecords_ne_nil listed
  exact ⟨call, events, listed,
    probed_eq_listed_iff reached handled features lists rest last round⟩

end DAIM.Ani41
