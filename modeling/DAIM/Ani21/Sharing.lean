import Mathlib.Data.List.Basic
import DAIM.Library.History
import DAIM.Ani21.Effects
import DAIM.Ani21.Greetings
import DAIM.Ani41.Reconnect

/-!
# What the threads are told

`action_features_reply` stores the datapath of a switch before its number of
ports, and a thread reads the number of ports before the datapath.  Without a
lock a thread can get the two from different replies, but never an older
datapath with a newer number of ports.
-/

namespace DAIM.Ani21

open DAIM.Library DAIM.OpenFlow DAIM.Linked DAIM.Com
open DAIM.Ani41 (Handler framePacket)

def Event.info? : Event → Option SwitchInfo
  | .described info => some info
  | _ => none

/-- The values of the features replies that the threads were told about. -/
def infos (events : List Event) : List SwitchInfo := events.filterMap Event.info?

/-! ## The steps that leave `sw_in` as it is -/

section Frame

variable {env : Env} {ofBuffer : Nat} {s next : Ani}

theorem handle_swIn {handler : Handler} {outcome : Outcome}
    (run : handle handler env ofBuffer s = some outcome) : outcome.ani.swIn = s.swIn :=
  congrArg Fixed.swIn (handle_answers run).fixed

theorem configureSwitch_swIn {outcome : Outcome}
    (run : configureSwitch env ofBuffer s = some outcome) : outcome.ani.swIn = s.swIn :=
  congrArg Fixed.swIn (configureSwitch_answers s.readBuffer run).fixed

theorem checkOpenflow_swIn {checked : Int} (called : checkOpenflow ofBuffer s = (next, checked)) :
    next.swIn = s.swIn :=
  congrArg Fixed.swIn (checkOpenflow_silent called).fixed

theorem normalHandler_swIn {found : Option Handler} (chosen : normalHandler s = (next, found)) :
    next.swIn = s.swIn :=
  congrArg Fixed.swIn (normalHandler_silent chosen).fixed

theorem Calls.swIn {place : MainPlace} {caller : Caller} {handler : Handler}
    (calls : Calls s place next caller handler) : next.swIn = s.swIn :=
  congrArg Fixed.swIn calls.silent.fixed

theorem returned_swIn (caller : Caller) (threads : List Thread) (outcome : Outcome) :
    (Process.returned caller threads outcome).ani.swIn = outcome.ani.swIn := by
  cases caller <;> rfl

end Frame

/-! ## What a step does to `sw_in` and to the threads -/

/-- The main thread is in `action_features_reply`. -/
def MainPlace.Replying : MainPlace → Prop
  | .storePorts _ | .createThread _ | .addPorts _ _ => True
  | _ => False

/-- It has stored the datapath, but not the number of ports. -/
def MainPlace.Storing : MainPlace → Prop
  | .storePorts _ => True
  | _ => False

theorem MainPlace.Storing.replying {place : MainPlace} (storing : place.Storing) :
    place.Replying := by
  cases place <;> trivial

inductive Tells (p q : Process) : Event → Prop where
  | described {info : SwitchInfo} : ¬ p.place.Replying → q.place.Storing →
      q.threads = p.threads → q.ani.swIn = ⟨info.datapathId, p.ani.swIn.noOfPorts⟩ →
      q.ani.noOfPorts = info.noOfPorts → Tells p q (.described info)
  | stored : p.place.Storing → ¬ q.place.Storing → q.threads = p.threads →
      q.ani.swIn = ⟨p.ani.swIn.datapathId, p.ani.noOfPorts⟩ → Tells p q .internal
  | created : p.place.Replying → ¬ p.place.Storing → ¬ q.place.Storing → q.ani = p.ani →
      q.threads = p.threads ++ [.readPorts] → Tells p q (.created p.threads.length)
  | share {index : Nat} {thread after : Thread} {sent : Option (List UInt8)} :
      p.threads[index]? = some thread → share p.ani.swIn thread = (sent, after) →
      q.ani = p.ani → q.place = p.place → q.threads = p.threads.set index after →
      Tells p q (sent.elim .internal (.shared index))
  | other {event : Event} : event.info? = none → event.thread? = none →
      q.ani.swIn = p.ani.swIn →
      q.threads = p.threads → ¬ p.place.Storing → ¬ q.place.Storing →
      (q.place.Replying → p.place.Replying) → Tells p q event

theorem Calls.not_replying {s next : Ani} {place : MainPlace} {caller : Caller}
    {handler : Handler} (calls : Calls s place next caller handler) : ¬ place.Replying := by
  cases calls <;> exact id

theorem returned_not_replying (caller : Caller) (threads : List Thread) (outcome : Outcome) :
    ¬ (Process.returned caller threads outcome).place.Replying := by
  have after {place : MainPlace} (outside : ¬ place.Replying) :
      ¬ (if outcome.result = -1 then MainPlace.exited else place).Replying := by
    split
    · exact id
    · exact outside
  cases caller with
  | single => exact after id
  | loop counter size => exact after id

theorem Tells.call {s : Ani} {place : MainPlace} {threads : List Thread} {caller : Caller}
    {outcome : Outcome} {call : Ani41.Call} (same : outcome.ani.swIn = s.swIn)
    (notStoring : ¬ place.Storing) :
    Tells ⟨s, place, threads⟩ (Process.returned caller threads outcome) (.handled call) := by
  have outside := returned_not_replying caller threads outcome
  exact .other rfl rfl ((returned_swIn caller threads outcome).trans same)
    (by cases caller <;> rfl) notStoring (fun storing => outside storing.replying)
    fun replying => absurd replying outside

theorem Process.Step.tells {p q : Process} {event : Event} (step : Process.Step p event q) :
    Tells p q event := by
  cases step with
  | answered calls run =>
      exact .call ((handle_swIn run).trans calls.swIn)
        fun storing => calls.not_replying storing.replying
  | noPorts calls none =>
      exact .call calls.swIn fun storing => calls.not_replying storing.replying
  | @described s next place threads caller calls ports =>
      have same : (storeDatapath next.readBufferp (countPorts next.readBufferp next)).swIn =
          ⟨(switchInfo (next.readBuffer.shift next.readBufferp)).datapathId,
            s.swIn.noOfPorts⟩ := by
        rw [← calls.swIn]
        simp only [storeDatapath, countPorts]
      have count : (storeDatapath next.readBufferp (countPorts next.readBufferp next)).noOfPorts =
          (switchInfo (next.readBuffer.shift next.readBufferp)).noOfPorts := by
        simp only [storeDatapath, countPorts]
      exact .described calls.not_replying trivial rfl same count
  | storedPorts => exact .stored trivial id rfl rfl
  | created => exact .created trivial id id rfl rfl
  | notCreated => exact .other rfl rfl rfl rfl id id fun _ => trivial
  | configured thread run => exact .call (configureSwitch_swIn run) id
  | @thread s place threads index thread after running shared =>
      have told : Tells ⟨s, place, threads⟩ ⟨s, place, threads.set index after⟩
          ((none : Option (List UInt8)).elim .internal (.shared index)) :=
        .share running shared rfl rfl rfl
      exact told
  | @shared s place threads index thread after bytes running shared =>
      have told : Tells ⟨s, place, threads⟩ ⟨s, place, threads.set index after⟩
          ((some bytes).elim .internal (.shared index)) := .share running shared rfl rfl rfl
      exact told
  | @ignored s next threads _ chosen =>
      have same : next.swIn = s.swIn := by
        have := normalHandler_swIn chosen
        exact this
      exact .other rfl rfl same rfl id id id
  | @unknown s next threads counter _ checked =>
      have same : next.swIn = s.swIn := checkOpenflow_swIn checked
      exact .other rfl rfl same rfl id id id
  | @skipped s next threads counter _ checked _ =>
      have same : next.swIn = s.swIn := checkOpenflow_swIn checked
      exact .other rfl rfl same rfl id id id
  | _ => exact .other rfl rfl rfl rfl id id id

/-! ## What the threads have read -/

/-- The values that were stored last. -/
def latest (infos : List SwitchInfo) : SwitchInfo := infos.getLastD ⟨0, 0⟩

/-- A reply has the number of ports, or the datapath. -/
def PortsAt (infos : List SwitchInfo) (position : Nat) (ports : Int) : Prop :=
  ∃ info, infos[position]? = some info ∧ info.noOfPorts = ports

def DatapathAt (infos : List SwitchInfo) (position : Nat) (datapath : UInt64) : Prop :=
  ∃ info, infos[position]? = some info ∧ info.datapathId = datapath

/-- What a thread has read, when as many replies as given were there at its
start, comes from the last of them and later ones: the datapath from no earlier
one than the number of ports. -/
def Thread.HasRead (given : Nat) (infos : List SwitchInfo) : Thread → Prop
  | .readPorts => True
  | .readDatapath ports => ∃ first, given ≤ first + 1 ∧ PortsAt infos first ports
  | .sending ports datapath portno =>
      1 ≤ portno ∧ ∃ first second, given ≤ first + 1 ∧ first ≤ second ∧
        PortsAt infos first ports ∧ DatapathAt infos second datapath

section Positions

variable {infos more : List SwitchInfo}

theorem PortsAt.later {position : Nat} {ports : Int} (there : PortsAt infos position ports)
    (more : List SwitchInfo) : PortsAt (infos ++ more) position ports := by
  obtain ⟨info, found, same⟩ := there
  obtain ⟨inside, -⟩ := List.getElem?_eq_some_iff.mp found
  exact ⟨info, by rwa [List.getElem?_append_left inside], same⟩

theorem DatapathAt.later {position : Nat} {datapath : UInt64}
    (there : DatapathAt infos position datapath) (more : List SwitchInfo) :
    DatapathAt (infos ++ more) position datapath := by
  obtain ⟨info, found, same⟩ := there
  obtain ⟨inside, -⟩ := List.getElem?_eq_some_iff.mp found
  exact ⟨info, by rwa [List.getElem?_append_left inside], same⟩

theorem Thread.HasRead.later {given : Nat} {thread : Thread} (read : thread.HasRead given infos)
    (more : List SwitchInfo) : thread.HasRead given (infos ++ more) := by
  cases thread with
  | readPorts => trivial
  | readDatapath ports =>
      obtain ⟨first, since, there⟩ := read
      exact ⟨first, since, there.later more⟩
  | sending ports datapath portno =>
      obtain ⟨positive, first, second, since, order, portsThere, datapathThere⟩ := read
      exact ⟨positive, first, second, since, order, portsThere.later more,
        datapathThere.later more⟩

theorem getElem?_latest (filled : infos ≠ []) :
    infos[infos.length - 1]? = some (latest infos) := by
  rw [← List.getLast?_eq_getElem?, latest, List.getLastD_eq_getLast?]
  cases last : infos.getLast? with
  | none => exact absurd (List.getLast?_eq_none_iff.mp last) filled
  | some info => rfl

end Positions

/-- The replies whose number of ports is stored, and those whose datapath is. -/
structure Told (events : List Event) (p : Process) (counted : List SwitchInfo) : Prop where
  part : counted <+: infos events
  complete : ¬ p.place.Storing → counted = infos events
  replying : p.place.Replying → infos events ≠ []
  datapath : p.ani.swIn.datapathId = (latest (infos events)).datapathId
  ports : p.ani.swIn.noOfPorts = (latest counted).noOfPorts
  storing : p.place.Storing → p.ani.noOfPorts = (latest (infos events)).noOfPorts
  threads : ∀ earlier index later, events = earlier ++ .created index :: later →
    infos earlier ≠ [] ∧ (infos earlier).length ≤ counted.length ∧
      ∃ thread, p.threads[index]? = some thread ∧
        thread.HasRead (infos earlier).length (infos events)

theorem infos_snoc (events : List Event) {event : Event} (silent : event.info? = none) :
    infos (events ++ [event]) = infos events := by
  simp [infos, silent]

theorem infos_described (events : List Event) (info : SwitchInfo) :
    infos (events ++ [.described info]) = infos events ++ [info] := by
  simp [infos, Event.info?]

theorem latest_snoc (infos : List SwitchInfo) (info : SwitchInfo) :
    latest (infos ++ [info]) = info := by
  simp [latest]

section Told

variable {events : List Event} {p q : Process} {event : Event} {counted : List SwitchInfo}

/-- A step of a thread reads from the last reply that is there. -/
theorem Told.share (told : Told events p counted) {given : Nat} {thread after : Thread}
    {sent : Option (List UInt8)} (read : thread.HasRead given (infos events))
    (filled : counted ≠ []) (since : given ≤ counted.length)
    (step : Ani21.share p.ani.swIn thread = (sent, after)) :
    after.HasRead given (infos events) := by
  obtain ⟨more, whole⟩ := told.part
  cases thread with
  | readPorts =>
      cases step
      refine ⟨counted.length - 1, by omega, latest counted, ?_, told.ports.symm⟩
      rw [← whole, List.getElem?_append_left]
      · exact getElem?_latest filled
      · have := List.length_pos_iff.mpr filled
        omega
  | readDatapath ports =>
      obtain ⟨first, later, there⟩ := read
      cases step
      have some : infos events ≠ [] := by
        rw [← whole]
        exact List.append_ne_nil_of_left_ne_nil filled more
      obtain ⟨info, found, same⟩ := there
      obtain ⟨inside, -⟩ := List.getElem?_eq_some_iff.mp found
      exact ⟨Nat.le_refl 1, first, (infos events).length - 1, later, by omega,
        ⟨info, found, same⟩, latest (infos events), getElem?_latest some, told.datapath.symm⟩
  | sending ports datapath portno =>
      obtain ⟨positive, reads⟩ := read
      simp only [Ani21.share] at step
      split at step
      · cases step
        exact ⟨by omega, reads⟩
      · cases step
        exact ⟨Nat.le_refl 1, reads⟩

theorem Told.initial (cbench : Bool) : Told [] (Process.initial cbench) [] where
  part := List.prefix_rfl
  complete _ := rfl
  replying := False.elim
  datapath := rfl
  ports := rfl
  storing := False.elim
  threads := by
    intro earlier index later cut
    simp at cut

/-- What is known of the threads stays so while more replies are stored. -/
theorem Told.kept (told : Told events p counted) {more : List SwitchInfo}
    {after : List SwitchInfo} (others : ∀ index, event ≠ .created index)
    (grows : infos (events ++ [event]) = infos events ++ more)
    (counts : counted.length ≤ after.length)
    (threads : ∀ index, index < p.threads.length → ∀ thread, p.threads[index]? = some thread →
      ∀ given, thread.HasRead given (infos events) → given ≠ 0 → given ≤ counted.length →
      ∃ next, q.threads[index]? = some next ∧ next.HasRead given (infos events)) :
    ∀ earlier index later, events ++ [event] = earlier ++ .created index :: later →
      infos earlier ≠ [] ∧ (infos earlier).length ≤ after.length ∧
        ∃ thread, q.threads[index]? = some thread ∧
          thread.HasRead (infos earlier).length (infos (events ++ [event])) := by
  intro earlier index later cut
  rcases cut_snoc cut with ⟨-, -, same⟩ | ⟨before, -, cut⟩
  · exact absurd same (others index)
  · obtain ⟨filled, since, thread, found, read⟩ := told.threads earlier index before cut
    obtain ⟨inside, -⟩ := List.getElem?_eq_some_iff.mp found
    obtain ⟨next, still, reads⟩ := threads index inside thread found _ read
      (by simpa using filled) since
    refine ⟨filled, since.trans counts, next, still, ?_⟩
    rw [grows]
    exact reads.later more

theorem Told.step (told : Told events p counted) (step : Process.Step p event q) :
    ∃ after, Told (events ++ [event]) q after := by
  have whole : counted.length ≤ (infos events).length := told.part.length_le
  cases step.tells with
  | @described info outside storing threads swIn ports =>
      have complete := told.complete fun storing => outside storing.replying
      have grows := infos_described events info
      refine ⟨counted, ?_, absurd storing, fun _ => ?_, ?_, ?_, fun _ => ?_, ?_⟩
      · rw [grows, complete]
        exact List.prefix_append _ _
      · simp [grows]
      · rw [grows, swIn, latest_snoc]
      · rw [swIn, told.ports]
      · rw [grows, ports, latest_snoc]
      · have others (index : Nat) : Event.described info ≠ .created index := by
          intro impossible
          cases impossible
        apply told.kept others grows (Nat.le_refl _)
        intro index _ thread found given read _ _
        exact ⟨thread, threads ▸ found, read⟩
  | stored storing stopped threads swIn =>
      have same : infos (events ++ [.internal]) = infos events := infos_snoc events rfl
      refine ⟨infos events, ?_, fun _ => same.symm, fun _ => ?_, ?_, ?_, (absurd · stopped), ?_⟩
      · rw [same]
      · rw [same]
        exact told.replying storing.replying
      · rw [same, swIn]
        exact told.datapath
      · rw [swIn]
        exact told.storing storing
      · have others (index : Nat) : Event.internal ≠ .created index := by
          intro impossible
          cases impossible
        apply told.kept others (same.trans (List.append_nil _).symm) whole
        intro index _ thread found given read _ _
        exact ⟨thread, threads ▸ found, read⟩
  | created replying notStoring stopped ani threads =>
      have complete := told.complete notStoring
      have same : infos (events ++ [.created p.threads.length]) = infos events :=
        infos_snoc events rfl
      refine ⟨counted, ?_, fun _ => ?_, fun _ => ?_, ?_, ?_, (absurd · stopped), ?_⟩
      · rw [same]
        exact told.part
      · rw [same, complete]
      · rw [same]
        exact told.replying replying
      · rw [same, ani]
        exact told.datapath
      · rw [ani]
        exact told.ports
      · intro earlier index later cut
        rcases cut_snoc cut with ⟨-, rfl, new⟩ | ⟨before, -, cut⟩
        · cases new
          refine ⟨told.replying replying, Nat.le_of_eq (by rw [complete]), .readPorts, ?_, trivial⟩
          rw [threads]
          simp
        · obtain ⟨filled, since, thread, found, read⟩ := told.threads earlier index before cut
          obtain ⟨inside, -⟩ := List.getElem?_eq_some_iff.mp found
          refine ⟨filled, since, thread, ?_, by rwa [same]⟩
          rw [threads, List.getElem?_append_left inside, found]
  | @share index thread after sent running shared ani place threads =>
      have silent : (sent.elim Event.internal (.shared index)).info? = none := by
        cases sent <;> rfl
      have others (other : Nat) : sent.elim Event.internal (.shared index) ≠ .created other := by
        cases sent <;> (intro impossible; cases impossible)
      have same := infos_snoc events silent
      refine ⟨counted, ?_, fun outside => ?_, fun replying => ?_, ?_, ?_, fun storing => ?_, ?_⟩
      · rw [same]
        exact told.part
      · rw [same]
        exact told.complete (place ▸ outside)
      · rw [same]
        exact told.replying (place ▸ replying)
      · rw [same, ani]
        exact told.datapath
      · rw [ani]
        exact told.ports
      · rw [same, ani]
        exact told.storing (place ▸ storing)
      · apply told.kept others (same.trans (List.append_nil _).symm) (Nat.le_refl _)
        intro other inside other_thread found given read positive since
        rw [threads]
        by_cases isSame : index = other
        · subst isSame
          cases running.symm.trans found
          have filled : counted ≠ [] := by
            rintro rfl
            exact positive (Nat.le_zero.mp since)
          refine ⟨after, by simp [inside], ?_⟩
          exact told.share read filled since shared
        · exact ⟨other_thread, by rw [List.getElem?_set_ne isSame, found], read⟩
  | other silent noThread swIn threads notStoring stopped replying =>
      have same := infos_snoc events silent
      refine ⟨counted, ?_, fun _ => ?_, fun now => ?_, ?_, ?_, (absurd · stopped), ?_⟩
      · rw [same]
        exact told.part
      · rw [same]
        exact told.complete notStoring
      · rw [same]
        exact told.replying (replying now)
      · rw [same, swIn]
        exact told.datapath
      · rw [swIn]
        exact told.ports
      · have others (index : Nat) : event ≠ .created index := by
          rintro rfl
          cases noThread
        apply told.kept others (same.trans (List.append_nil _).symm) (Nat.le_refl _)
        intro index _ thread found given read _ _
        exact ⟨thread, threads ▸ found, read⟩

theorem Process.Reaches.told {cbench : Bool} (run : Process.Reaches cbench events p) :
    ∃ counted, Told events p counted := by
  induction run with
  | refl => exact ⟨[], .initial cbench⟩
  | snoc _ last inductionHypothesis =>
      obtain ⟨counted, told⟩ := inductionHypothesis
      exact told.step last

end Told

/-! ## What the threads send -/

theorem share_sent {swIn : SwitchInfo} {thread after : Thread} {bytes : List UInt8}
    (step : share swIn thread = (some bytes, after)) :
    ∃ ports datapath portno, thread = .sending ports datapath portno ∧
      (portno : Int) < ports + 1 ∧
      bytes = (framePacket (UInt16.ofNat portno) (greetingFrame datapath)).encode := by
  cases thread with
  | readPorts => cases step
  | readDatapath ports => cases step
  | sending ports datapath portno =>
      simp only [share] at step
      split at step
      · rename_i more
        obtain ⟨sent, -⟩ := Prod.mk.inj step
        refine ⟨ports, datapath, portno, rfl, more, ?_⟩
        rw [← greetingPacketOut_bytes]
        exact (Option.some.inj sent).symm
      · cases step

/-- The octets are the announcement of the second reply's datapath on a port of
the first one, which is not the later of the two; so many replies were there
when the thread was created. -/
def Announces (infos : List SwitchInfo) (given : Nat) (bytes : List UInt8) : Prop :=
  ∃ (first second : Nat) (older newer : SwitchInfo) (portno : Nat),
    given ≤ first + 1 ∧ first ≤ second ∧ infos[first]? = some older ∧
    infos[second]? = some newer ∧ 1 ≤ portno ∧ (portno : Int) ≤ older.noOfPorts ∧
    bytes = (framePacket (UInt16.ofNat portno) (greetingFrame newer.datapathId)).encode

/-- Every thread was created. -/
theorem Process.Reaches.created {cbench : Bool} {events : List Event} {p : Process}
    (run : Process.Reaches cbench events p) {index : Nat} (inside : index < p.threads.length) :
    ∃ earlier later, events = earlier ++ .created index :: later := by
  induction run with
  | refl => cases inside
  | @snoc events middle p event earlier step inductionHypothesis =>
      have before (old : index < middle.threads.length) :
          ∃ first later, events ++ [event] = first ++ .created index :: later := by
        obtain ⟨first, later, rfl⟩ := inductionHypothesis old
        exact ⟨first, later ++ [event], by simp⟩
      cases step.tells with
      | described _ _ threads _ _ =>
          rw [threads] at inside
          exact before inside
      | stored _ _ threads _ =>
          rw [threads] at inside
          exact before inside
      | created _ _ _ _ threads =>
          rw [threads, List.length_append, List.length_singleton] at inside
          rcases Nat.lt_succ_iff_lt_or_eq.mp inside with old | rfl
          · exact before old
          · exact ⟨events, [], rfl⟩
      | share _ _ _ _ threads =>
          rw [threads, List.length_set] at inside
          exact before inside
      | other _ _ _ threads _ _ _ =>
          rw [threads] at inside
          exact before inside

/-- What a thread sends in the next step. -/
theorem Process.Reaches.announces {cbench : Bool} {earlier middle : List Event} {index : Nat}
    {bytes : List UInt8} {p q : Process}
    (past : Process.Reaches cbench (earlier ++ .created index :: middle) p)
    (last : Process.Step p (.shared index bytes) q) :
    Announces (infos (earlier ++ .created index :: middle)) (infos earlier).length bytes := by
  obtain ⟨counted, told⟩ := Process.Reaches.told past
  obtain ⟨-, -, thread, found, read⟩ := told.threads earlier index middle rfl
  generalize shown : Event.shared index bytes = event at last
  cases last.tells with
  | @share other running after sent there shared _ _ _ =>
      cases sent with
      | none => cases shown
      | some octets =>
          cases shown
          cases there.symm.trans found
          obtain ⟨ports, datapath, portno, rfl, more, encoded⟩ := share_sent shared
          obtain ⟨positive, first, second, since, order, ⟨older, oldAt, rfl⟩, newer, newAt, rfl⟩ :=
            read
          exact ⟨first, second, older, newer, portno, since, order, oldAt, newAt, positive,
            by omega, encoded⟩
  | other _ noThread _ _ _ _ _ =>
      subst shown
      cases noThread
  | _ => cases shown

theorem Process.Step.shared_inside {p q : Process} {index : Nat} {bytes : List UInt8}
    (step : Process.Step p (.shared index bytes) q) : index < p.threads.length := by
  cases step with
  | shared found _ =>
      obtain ⟨inside, -⟩ := List.getElem?_eq_some_iff.mp found
      exact inside

/-- A thread announces the datapath of a features reply on a port that the same
reply or an earlier one has; neither of the two is older than the reply for
which the thread was created. -/
theorem announces_told_datapath {cbench : Bool} {earlier middle : List Event} {index : Nat}
    {bytes : List UInt8} {p : Process}
    (run : Process.Reaches cbench
      (earlier ++ .created index :: middle ++ [.shared index bytes]) p) :
    Announces (infos (earlier ++ .created index :: middle)) (infos earlier).length bytes := by
  obtain ⟨before, past, last⟩ := run.snoc_inv
  exact Process.Reaches.announces past last

/-- The thread of a first switch reads its number of ports, and the datapath of
a second one. -/
def mixedReplies : List Choice :=
  [.deliver (Ani41.featuresMessage 11 [1]), .call .calm, .storePorts, .createThread true, .share 0,
    .configure .calm, .deliver (Ani41.featuresMessage 12 [1, 2]), .call .calm, .share 0, .share 0]

/-- A history that creates the first thread and ends with what it sends. -/
def EndsWithShare : List Event → Bool
  | [_, _, _, .created 0, _, _, _, _, _, .shared 0 _] => true
  | _ => false

theorem announces_told_datapath_mixed :
    ∃ earlier middle bytes p, Process.Reaches false
        (earlier ++ .created 0 :: middle ++ [.shared 0 bytes]) p ∧
      infos (earlier ++ .created 0 :: middle) = [⟨11, 1⟩, ⟨12, 2⟩] ∧
      p.threads = [.sending 1 12 2] ∧
      Announces (infos (earlier ++ .created 0 :: middle)) (infos earlier).length bytes := by
  have computed : ((Process.initial false).play mixedReplies).map
      (fun run => (EndsWithShare run.1, infos run.1, run.2.threads)) =
      some (true, [⟨11, 1⟩, ⟨12, 2⟩], [.sending 1 12 2]) := by decide
  obtain ⟨⟨events, p⟩, played, same⟩ := Option.map_eq_some_iff.mp computed
  obtain ⟨ends, told, threads⟩ : EndsWithShare events = true ∧ infos events = [⟨11, 1⟩, ⟨12, 2⟩] ∧
      p.threads = [.sending 1 12 2] := by simpa using same
  have run := Process.play_run played
  unfold EndsWithShare at ends
  split at ends
  · rename_i a b c d e f g h bytes
    have reaches : Process.Reaches false
        ([a, b, c] ++ .created 0 :: [d, e, f, g, h] ++ [.shared 0 bytes]) p := run
    refine ⟨_, _, _, p, reaches, ?_, threads, announces_told_datapath reaches⟩
    rw [← told]
    exact (infos_snoc _ rfl).symm
  · cases ends

end DAIM.Ani21
