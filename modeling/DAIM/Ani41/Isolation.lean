import DAIM.Ani41.Ports

/-!
# One connection after the other

The chunks received on a connection determine which handlers are called with
which messages.  So a connection can be compared with the first connection of a
process that receives the same chunks: the tables differ in what was learned
under the datapath id of an earlier connection.
-/

namespace DAIM.Ani41

open DAIM.Library DAIM.OpenFlow DAIM.Linked

/-! ## What the chunks ask for -/

/-- What a handler is called with. -/
structure Request where
  handler : Handler
  message : Memory

def Call.request (call : Call) : Request := ⟨call.handler, call.message⟩

/-- The handler that is chosen for a chunk outside of the benchmark mode. -/
def normalChoice (memory : Memory) : Option Handler :=
  if memory OfpHeader.version = ofpVersion then dispatch (memory OfpHeader.type)
  else if memory OfpHeader.type = ofptHello then some .hello
  else none

/-- The length field of the message at an offset. -/
def lengthAt (memory : Memory) (pointer : Nat) : Nat :=
  (ntohs ((memory.shift pointer).load16 OfpHeader.length)).toNat

/-- The requests of the loop of `send_information` over the messages from an
offset on. -/
inductive Scans (memory : Memory) : Nat → Int → List Request → Prop where
  | finished {pointer : Nat} {counter : Int} : ¬ counter > 0 → Scans memory pointer counter []
  | unknown {pointer : Nat} {counter : Int} : counter > 0 →
      (memory.shift pointer) OfpHeader.version ≠ ofpVersion → Scans memory pointer counter []
  | skipped {pointer : Nat} {counter : Int} {rest : List Request} : counter > 0 →
      (memory.shift pointer) OfpHeader.version = ofpVersion →
      dispatch ((memory.shift pointer) OfpHeader.type) = none →
      Scans memory (pointer + lengthAt memory pointer) (counter - lengthAt memory pointer) rest →
      Scans memory pointer counter rest
  | answered {pointer : Nat} {counter : Int} {handler : Handler} {rest : List Request} :
      counter > 0 → (memory.shift pointer) OfpHeader.version = ofpVersion →
      dispatch ((memory.shift pointer) OfpHeader.type) = some handler →
      Scans memory (pointer + lengthAt memory pointer) (counter - lengthAt memory pointer) rest →
      Scans memory pointer counter (⟨handler, memory.shift pointer⟩ :: rest)

/-- The requests of one call of `send_information`. -/
inductive Serves (cbench : Bool) (memory : Memory) (length : Int) : List Request → Prop where
  | scanned {requests : List Request} : cbench = true → Scans memory 0 length requests →
      Serves cbench memory length requests
  | ignored : cbench = false → normalChoice memory = none → Serves cbench memory length []
  | answered {handler : Handler} : cbench = false → normalChoice memory = some handler →
      Serves cbench memory length [⟨handler, memory⟩]

theorem Scans.unique {memory : Memory} {pointer : Nat} {counter : Int}
    {first second : List Request} (left : Scans memory pointer counter first)
    (right : Scans memory pointer counter second) : first = second := by
  induction left generalizing second with
  | finished done =>
      cases right with
      | finished _ => rfl
      | _ => contradiction
  | unknown more version =>
      cases right with
      | skipped _ known _ _ => exact absurd known version
      | answered _ known _ _ => exact absurd known version
      | _ => rfl
  | skipped more version unhandled _ inductionHypothesis =>
      cases right with
      | finished done => exact absurd more done
      | unknown _ other => exact absurd version other
      | skipped _ _ _ rest => exact inductionHypothesis rest
      | answered _ _ handled _ => exact nomatch unhandled.symm.trans handled
  | answered more version handled _ inductionHypothesis =>
      cases right with
      | finished done => exact absurd more done
      | unknown _ other => exact absurd version other
      | skipped _ _ unhandled _ => exact nomatch unhandled.symm.trans handled
      | answered _ _ same rest =>
          cases handled.symm.trans same
          rw [inductionHypothesis rest]

theorem Serves.unique {cbench : Bool} {memory : Memory} {length : Int}
    {first second : List Request} (left : Serves cbench memory length first)
    (right : Serves cbench memory length second) : first = second := by
  cases left with
  | scanned bench scans =>
      cases right with
      | scanned _ other => exact scans.unique other
      | _ normal _ => exact nomatch bench.symm.trans normal
  | ignored normal unhandled =>
      cases right with
      | scanned bench _ => exact nomatch normal.symm.trans bench
      | ignored _ _ => rfl
      | answered _ handled => exact nomatch unhandled.symm.trans handled
  | answered normal handled =>
      cases right with
      | scanned bench _ => exact nomatch normal.symm.trans bench
      | ignored _ unhandled => exact nomatch unhandled.symm.trans handled
      | answered _ same =>
          cases handled.symm.trans same
          rfl

theorem normalHandler_choice {s next : Ani} {handler : Option Handler}
    (chosen : normalHandler s = (next, handler)) :
    handler = normalChoice (s.readBuffer.shift s.readBufferp) := by
  unfold normalHandler at chosen
  split at chosen
  rename_i checked result check
  obtain ⟨rfl, known⟩ := checkOpenflow_eq check
  have either : result = 0 ∨ result = -1 := by
    unfold checkOpenflow at check
    simp only at check
    split at check <;> cases check
    · exact .inl rfl
    · exact .inr rfl
  unfold normalChoice
  rcases either with rfl | rfl
  · rw [if_pos (known.mp rfl)]
    cases chosen
    rfl
  · have foreign : (s.readBuffer.shift s.readBufferp) OfpHeader.version ≠ ofpVersion :=
      fun version => absurd (known.mpr version) (by decide)
    rw [if_neg foreign]
    cases chosen
    rfl

/-- The requests that the main thread has yet to serve before it reads again. -/
def Process.Remains (p : Process) (requests : List Request) : Prop :=
  match p.place with
  | .reading => requests = []
  | .sending => Serves p.ani.cbench p.ani.readBuffer p.ani.readBufferLen requests
  | .scanning counter => Scans p.ani.readBuffer p.ani.readBufferp counter requests
  | _ => False

theorem ShareStep.remains {s next : Ani} {place : MainPlace} {threads others : List Thread}
    {index : Nat} {thread after : Thread} {sent : Option (List UInt8)} {requests : List Request}
    (share : ShareStep index s thread sent next after)
    (remains : Process.Remains ⟨next, place, others⟩ requests) :
    Process.Remains ⟨s, place, threads⟩ requests := by
  obtain ⟨bench, buffer, pointer, length⟩ := share.keeps_buffer
  unfold Process.Remains at *
  simpa only [bench, buffer, pointer, length] using remains

/-- Nothing remains to be served by a process that has exited. -/
theorem remains_afterCall {s : Ani} {threads : List Thread} {result : Int} {place : MainPlace}
    {requests : List Request}
    (remains : Process.Remains ⟨s, afterCall result place, threads⟩ requests) :
    Process.Remains ⟨s, place, threads⟩ requests := by
  by_cases failed : result = -1
  · rw [afterCall, if_pos failed] at remains
    exact False.elim remains
  · rwa [afterCall, if_neg failed] at remains

/-- What remains after a step was preceded by what the step serves. -/
theorem Process.Step.remains {p q : Process} {event : Event} {tables : Tables}
    {todo : List Request} (step : Process.Step p event q) (shows : p.ani.Shows tables)
    (online : p.place.Online) (unread : event.chunk? = none) (lasting : event ≠ .lost)
    (remains : q.Remains todo) : p.Remains ((calls [event]).map Call.request ++ todo) := by
  cases step with
  | received _ _ => cases unread
  | lost _ => exact absurd rfl lasting
  | closed => cases online
  | freeHosts _ => cases online
  | freePorts _ => cases online
  | freeLinks _ => cases online
  | freeReplys _ => cases online
  | connected => cases online
  | refused => cases online
  | scan bench => exact .scanned bench remains
  | @ignored s next threads normal chosen =>
      have unhandled := normalHandler_choice chosen
      rw [Memory.shift_zero] at unhandled
      have none : todo = [] := remains
      subst none
      exact .ignored normal unhandled.symm
  | @answered s next threads handler env outcome normal chosen run =>
      have handled := normalHandler_choice chosen
      obtain ⟨rfl, -⟩ := normalHandler_eq chosen
      have none : todo = [] := remains_afterCall remains
      subst none
      rw [Memory.shift_zero] at handled
      have serves : Serves s.cbench s.readBuffer s.readBufferLen [⟨handler, s.readBuffer⟩] :=
        .answered normal handled.symm
      show Serves s.cbench s.readBuffer s.readBufferLen [⟨handler, s.readBuffer.shift 0⟩]
      rwa [Memory.shift_zero]
  | scanned finished =>
      have none : todo = [] := remains
      subst none
      exact .finished finished
  | unknown more check =>
      obtain ⟨rfl, known⟩ := checkOpenflow_eq check
      have none : todo = [] := remains
      subst none
      exact .unknown more fun version => absurd (known.mpr version) (by decide)
  | skipped more check unhandled =>
      obtain ⟨rfl, known⟩ := checkOpenflow_eq check
      exact .skipped more (known.mp rfl) unhandled remains
  | @scanAnswered s next threads counter handler env outcome more check handled run =>
      obtain ⟨rfl, known⟩ := checkOpenflow_eq check
      obtain ⟨-, buffer, pointer⟩ := handle_keeps run
      have rest : Scans outcome.ani.readBuffer _ _ todo := remains_afterCall remains
      rw [buffer, pointer] at rest
      exact .answered more (known.mp rfl) handled rest
  | thread _ share => exact share.remains remains
  | shared _ share => exact share.remains remains

/-- A whole connection up to a read serves what it began with and its chunks. -/
theorem session_serves {cbench : Bool} {before after : List Event} {start p : Process}
    (earlier : Process.Reaches cbench before start) (connected : Connected before)
    (run : Run Process.Step start after p) (lasts : Event.lost ∉ after) :
    ∀ todo, p.Remains todo → ∃ served greeting,
      List.Forall₂ (fun chunk requests =>
        Serves cbench (Memory.ofList chunk Memory.zero) chunk.length requests)
        (chunks after) served ∧
      start.Remains greeting ∧
      (calls after).map Call.request ++ todo = greeting ++ served.flatten := by
  induction run with
  | refl =>
      intro todo remains
      exact ⟨[], todo, .nil, remains, by simp [calls]⟩
  | @snoc after middle finish event sofar step inductionHypothesis =>
      intro todo remains
      have lasted : Event.lost ∉ after := fun now => lasts (List.mem_append_left _ now)
      have notNow : event ≠ .lost := by
        rintro rfl
        exact lasts (by simp)
      have reached : Process.Reaches cbench (before ++ after) middle := earlier.trans sofar
      cases event with
      | received chunk =>
          have bench := reached.cbench
          cases step with
          | @received s threads _ _ _ =>
              obtain ⟨served, greeting, all, begins, same⟩ :=
                inductionHypothesis lasted [] rfl
              refine ⟨served ++ [todo], greeting, ?_, begins, ?_⟩
              · rw [chunks_append]
                refine List.rel_append all (.cons ?_ .nil)
                have serves : Serves s.cbench _ _ todo := remains
                exact bench ▸ serves
              · rw [calls_append, List.flatten_append, ← List.append_assoc, ← same]
                simp [calls, Event.call?]
      | _ =>
          obtain ⟨tables, shows, -⟩ := reached.tables
          obtain ⟨online, -⟩ := session_knows earlier connected sofar lasted
          have yet := step.remains shows online rfl notNow remains
          obtain ⟨served, greeting, all, begins, same⟩ := inductionHypothesis lasted _ yet
          refine ⟨served, greeting, ?_, begins, ?_⟩
          · rw [chunks_append]
            show List.Forall₂ _ (chunks after ++ []) served
            rwa [List.append_nil]
          · rw [calls_append, ← same]
            simp

/-- What a connection begins with: a look at the empty buffer, unless it is the
first one or the loop of the benchmark mode finds nothing to do. -/
def greeting (cbench : Bool) (before : List Event) : List Request :=
  if before = [] ∨ cbench = true then [] else [⟨.hello, Memory.zero⟩]

theorem Process.Reaches.greets {cbench : Bool} {before : List Event} {start : Process}
    (reached : Process.Reaches cbench before start) (connected : Connected before)
    {requests : List Request} (remains : start.Remains requests) :
    requests = greeting cbench before := by
  have bench := reached.cbench
  unfold greeting
  rcases Process.Reaches.begins reached connected with ⟨rfl, rfl⟩ | ⟨again, sending, empty, short⟩
  · have none : requests = [] := remains
    rw [none, if_pos (.inl rfl)]
  · rw [Process.Remains, sending] at remains
    simp only [empty, bench] at remains
    cases remains with
    | scanned scanning scans =>
        rw [if_pos (.inr scanning)]
        exact scans.unique (.finished (by omega))
    | ignored normal unhandled => exact absurd unhandled (by decide)
    | answered normal handled =>
        have hello : normalChoice Memory.zero = some .hello := by decide
        cases handled.symm.trans hello
        rw [if_neg (by simp [again, normal])]

/-- The requests up to a read are those of the chunks behind the greeting. -/
theorem session_requests {cbench : Bool} {before after : List Event} {start p : Process}
    (earlier : Process.Reaches cbench before start) (connected : Connected before)
    (run : Run Process.Step start after p) (lasts : Event.lost ∉ after)
    (reading : p.place = .reading) :
    ∃ served, List.Forall₂ (fun chunk requests =>
        Serves cbench (Memory.ofList chunk Memory.zero) chunk.length requests)
        (chunks after) served ∧
      (calls after).map Call.request = greeting cbench before ++ served.flatten := by
  have nothing : p.Remains [] := by
    rw [Process.Remains, reading]
  obtain ⟨served, begins, all, remains, same⟩ :=
    session_serves earlier connected run lasts [] nothing
  rw [List.append_nil, earlier.greets connected remains] at same
  exact ⟨served, all, same⟩

theorem served_unique {cbench : Bool} {chunks : List (List UInt8)}
    {first second : List (List Request)}
    (left : List.Forall₂ (fun chunk requests =>
      Serves cbench (Memory.ofList chunk Memory.zero) chunk.length requests) chunks first)
    (right : List.Forall₂ (fun chunk requests =>
      Serves cbench (Memory.ofList chunk Memory.zero) chunk.length requests) chunks second) :
    first = second := by
  induction left generalizing second with
  | nil =>
      cases right
      rfl
  | cons here _ inductionHypothesis =>
      cases right with
      | cons there rest => rw [here.unique there, inductionHypothesis rest]

/-! ## What the requests teach -/

/-- The calls that may change a table. -/
def lessons (events : List Event) : List Call :=
  (calls events).filter fun call => decide (call.handler ≠ .hello)

/-- The call with nothing but what the tables depend on. -/
def Call.lesson (call : Call) : Request × (Nat → Bool) := (call.request, call.env.allocated)

theorem take_congr {told : Told} {call other : Call} (same : call.lesson = other.lesson) :
    told.take call = told.take other := by
  obtain ⟨requests, allocated⟩ := Prod.mk.inj same
  obtain ⟨handler, message⟩ := Request.mk.inj requests
  have entries : Told.portsOf call = Told.portsOf other := by
    unfold Told.portsOf portEntries
    rw [message, allocated]
  unfold Told.take
  rw [handler, message, entries, allocated]

theorem takeAll_congr {told : Told} {first second : List Call}
    (same : first.map Call.lesson = second.map Call.lesson) :
    told.takeAll first = told.takeAll second := by
  induction first generalizing told second with
  | nil =>
      rw [List.map_nil, eq_comm, List.map_eq_nil_iff] at same
      rw [same]
  | cons call rest inductionHypothesis =>
      cases second with
      | nil => cases same
      | cons other more =>
          obtain ⟨here, later⟩ := List.cons.inj same
          show (told.take call).takeAll rest = (told.take other).takeAll more
          rw [take_congr here, inductionHypothesis later]

theorem takeAll_lessons (told : Told) (calls : List Call) :
    told.takeAll calls =
      told.takeAll (calls.filter fun call => decide (call.handler ≠ .hello)) := by
  induction calls generalizing told with
  | nil => rfl
  | cons call rest inductionHypothesis =>
      by_cases hello : call.handler = .hello
      · have same : told.take call = told := by
          rw [Told.take, hello]
        rw [List.filter_cons_of_neg (by simp [hello]), ← inductionHypothesis told]
        show (told.take call).takeAll rest = told.takeAll rest
        rw [same]
      · rw [List.filter_cons_of_pos (by simp [hello])]
        exact inductionHypothesis (told.take call)

/-- The call enters the sender of an ARP packet, unless it is known. -/
def Call.Learns (call : Call) : Prop :=
  call.handler = .packout ∧ IsArp call.message ∧ call.env.allocated 0 = true

instance (call : Call) : Decidable call.Learns := inferInstanceAs (Decidable (_ ∧ _ ∧ _))

/-- A host is learned before the first features reply. -/
def EarlyHosts (calls : List Call) : Prop :=
  ∃ earlier call later, calls = earlier ++ call :: later ∧
    (∀ other ∈ earlier, other.handler ≠ .featuresReply) ∧ call.Learns

theorem earlyHosts_cons {call : Call} {rest : List Call} :
    EarlyHosts (call :: rest) ↔
      call.Learns ∨ call.handler ≠ .featuresReply ∧ EarlyHosts rest := by
  constructor
  · rintro ⟨earlier, learning, later, cut, before, learns⟩
    cases earlier with
    | nil =>
        cases cut
        exact .inl learns
    | cons first more =>
        obtain ⟨rfl, same⟩ := List.cons.inj cut
        refine .inr ⟨before call List.mem_cons_self, more, learning, later, same, ?_, learns⟩
        exact fun other member => before other (List.mem_cons_of_mem _ member)
  · rintro (learns | ⟨other, earlier, learning, later, rfl, before, learns⟩)
    · exact ⟨[], call, rest, rfl, fun _ impossible => absurd impossible List.not_mem_nil, learns⟩
    · refine ⟨call :: earlier, learning, later, rfl, ?_, learns⟩
      intro first member
      rcases List.mem_cons.mp member with rfl | more
      · exact other
      · exact before first more

theorem take_hosts (told : Told) (call : Call) :
    (told.take call).tables.hosts =
      if call.Learns then
        insertNew SwitchHost.macAddr told.tables.hosts (hostEntry told.switchId call.message)
      else told.tables.hosts := by
  by_cases packout : call.handler = .packout
  · rw [told.take_packout packout]
    unfold Tables.packout
    split
    · rename_i failed
      have learnsNot : ¬ call.Learns := fun learns =>
        absurd (learns.2.2.symm.trans failed) (by decide)
      rw [if_neg learnsNot]
    · rename_i allocated
      have possible : call.env.allocated 0 = true := by simpa using allocated
      by_cases arp : IsArp call.message
      · have learns : call.Learns := ⟨packout, arp, possible⟩
        simp only [if_pos arp, if_pos learns]
      · have learnsNot : ¬ call.Learns := fun learns => arp learns.2.1
        simp only [if_neg arp, if_neg learnsNot]
  · have learnsNot : ¬ call.Learns := fun learns => packout learns.1
    rw [if_neg learnsNot]
    unfold Told.take
    cases handler : call.handler with
    | packout => exact absurd handler packout
    | featuresReply =>
        simp only
        split <;> rfl
    | _ => rfl

theorem take_switchId (told : Told) {call : Call} (other : call.handler ≠ .featuresReply) :
    (told.take call).switchId = told.switchId := by
  unfold Told.take
  cases handler : call.handler with
  | featuresReply => exact absurd handler other
  | _ => rfl

theorem take_features (told : Told) {call : Call} (features : call.handler = .featuresReply)
    (named : featuresCount call.message ≠ 0) :
    (told.take call).switchId = Told.datapathId call.message ∧
      (told.take call).tables.hosts = told.tables.hosts := by
  have taken : told.take call =
      { switchId := Told.datapathId call.message
        noOfPorts := featuresCount call.message
        tables := { told.tables with ports := told.tables.ports ++ Told.portsOf call } } := by
    unfold Told.take
    rw [features]
    exact if_neg named
  rw [taken]
  exact ⟨rfl, rfl⟩

theorem takeAll_hosts_prefix (told : Told) (calls : List Call) :
    told.tables.hosts <+: (told.takeAll calls).tables.hosts := by
  induction calls generalizing told with
  | nil => exact List.prefix_refl _
  | cons call rest inductionHypothesis =>
      have here : told.tables.hosts <+: (told.take call).tables.hosts := by
        rw [take_hosts]
        split
        · exact prefix_insertNew _ _ _
        · exact List.prefix_refl _
      exact here.trans (inductionHypothesis (told.take call))

/-- The same hosts under the same datapath id stay the same. -/
theorem takeAll_hosts_congr {told other : Told} (switchId : told.switchId = other.switchId)
    (hosts : told.tables.hosts = other.tables.hosts) (calls : List Call) :
    (told.takeAll calls).tables.hosts = (other.takeAll calls).tables.hosts := by
  induction calls generalizing told other with
  | nil => exact hosts
  | cons call rest inductionHypothesis =>
      apply inductionHypothesis
      · unfold Told.take
        cases call.handler with
        | featuresReply =>
            simp only
            split
            · exact switchId
            · rfl
        | _ => exact switchId
      · rw [take_hosts, take_hosts, switchId, hosts]

/-- From empty tables two datapath ids lead to the same hosts exactly if they
are the same or are replaced before a host is learned. -/
theorem takeAll_hosts_iff {told other : Told} {calls : List Call}
    (named : ∀ call ∈ calls, call.handler = .featuresReply → featuresCount call.message ≠ 0)
    (empty : told.tables.hosts = []) (otherEmpty : other.tables.hosts = []) :
    (told.takeAll calls).tables.hosts = (other.takeAll calls).tables.hosts ↔
      told.switchId = other.switchId ∨ ¬ EarlyHosts calls := by
  induction calls generalizing told other with
  | nil =>
      refine ⟨fun _ => .inr ?_, fun _ => empty.trans otherEmpty.symm⟩
      rintro ⟨earlier, call, later, cut, -⟩
      simp at cut
  | cons call rest inductionHypothesis =>
      have later := fun first member => named first (List.mem_cons_of_mem call member)
      by_cases features : call.handler = .featuresReply
      · have early : ¬ EarlyHosts (call :: rest) := by
          rw [earlyHosts_cons]
          rintro (learns | ⟨not, -⟩)
          · exact absurd (learns.1.symm.trans features) (by decide)
          · exact not features
        obtain ⟨id, hosts⟩ := take_features told features
          (named call List.mem_cons_self features)
        obtain ⟨otherId, otherHosts⟩ := take_features other features
          (named call List.mem_cons_self features)
        refine ⟨fun _ => .inr early, fun _ => takeAll_hosts_congr (id.trans otherId.symm) ?_ rest⟩
        rw [hosts, otherHosts, empty, otherEmpty]
      · have id := take_switchId told features
        have otherId := take_switchId other features
        by_cases learns : call.Learns
        · have early : EarlyHosts (call :: rest) := earlyHosts_cons.mpr (.inl learns)
          have first := take_hosts told call
          have second := take_hosts other call
          rw [if_pos learns, empty] at first
          rw [if_pos learns, otherEmpty] at second
          have head := takeAll_hosts_prefix (told.take call) rest
          have otherHead := takeAll_hosts_prefix (other.take call) rest
          rw [first] at head
          rw [second] at otherHead
          constructor
          · intro same
            have whole : ((told.take call).takeAll rest).tables.hosts =
                ((other.take call).takeAll rest).tables.hosts := same
            rw [whole] at head
            -- both lists begin with the entry for the same sender
            obtain ⟨tail, begins⟩ := head
            obtain ⟨otherTail, otherBegins⟩ := otherHead
            have equal := begins.trans otherBegins.symm
            exact .inl (congrArg SwitchHost.datapathId (List.cons.inj equal).1)
          · rintro (same | notEarly)
            · exact takeAll_hosts_congr (by rw [id, otherId, same])
                (by rw [first, second, same]) rest
            · exact absurd early notEarly
        · have hosts := take_hosts told call
          have otherHosts := take_hosts other call
          rw [if_neg learns] at hosts otherHosts
          have smaller :=
            inductionHypothesis later (hosts.trans empty) (otherHosts.trans otherEmpty)
          rw [id, otherId] at smaller
          have shifted : EarlyHosts (call :: rest) ↔ EarlyHosts rest := by
            rw [earlyHosts_cons]
            exact ⟨fun either => (either.resolve_left learns).2,
              fun early => .inr ⟨features, early⟩⟩
          rw [shifted]
          exact smaller

/-! ## The tables of two connections -/

/-- Both are what the lessons teach. -/
theorem session_lessons {cbench : Bool} {before after : List Event} {start p : Process}
    (earlier : Process.Reaches cbench before start) (connected : Connected before)
    (run : Run Process.Step start after p) (lasts : Event.lost ∉ after) :
    p.ani.hosts.contents = (start.remembers.takeAll (lessons after)).tables.hosts ∧
      p.ani.ports.contents = (start.remembers.takeAll (lessons after)).tables.ports := by
  obtain ⟨-, knows⟩ := session_knows earlier connected run lasts
  obtain ⟨tables, shows, hosts, ports⟩ := knows.tables
  rw [takeAll_lessons] at hosts ports
  exact ⟨shows.hosts.contents_eq.trans hosts, shows.ports.contents_eq.trans ports⟩

theorem lessons_requests (events : List Event) :
    (lessons events).map Call.request =
      ((calls events).map Call.request).filter
        fun request => decide (request.handler ≠ .hello) := by
  rw [lessons, List.filter_map]
  rfl

theorem lessons_eq {first second : List Call}
    (requests : first.map Call.request = second.map Call.request)
    (allocated : first.map (fun call => call.env.allocated) =
      second.map (fun call => call.env.allocated)) :
    first.map Call.lesson = second.map Call.lesson := by
  induction first generalizing second with
  | nil =>
      rw [List.map_nil, eq_comm, List.map_eq_nil_iff] at requests
      rw [requests]
  | cons call rest inductionHypothesis =>
      cases second with
      | nil => cases requests
      | cons other more =>
          obtain ⟨request, requests⟩ := List.cons.inj requests
          obtain ⟨here, allocated⟩ := List.cons.inj allocated
          rw [List.map_cons, List.map_cons, inductionHypothesis requests allocated]
          exact congrArg (· :: _) (Prod.ext request here)

/-- A connection that was accepted after `before` and the first connection of
another process have received the same chunks and are both read from again, and
the same allocations failed in both. -/
structure SameChunks (cbench : Bool) (before after fresh : List Event) (old p q : Process) :
    Prop where
  earlier : Process.Reaches cbench before old
  connected : Connected before
  run : Run Process.Step old after p
  lasts : Event.lost ∉ after
  freshRun : Process.Reaches cbench fresh q
  freshLasts : Event.lost ∉ fresh
  chunks : chunks after = chunks fresh
  reading : p.place = .reading
  freshReading : q.place = .reading
  allocated : (lessons after).map (fun call => call.env.allocated) =
    (lessons fresh).map (fun call => call.env.allocated)

/-- The greeting teaches nothing. -/
theorem greeting_filter (cbench : Bool) (before : List Event) :
    ((greeting cbench before).filter fun request => decide (request.handler ≠ .hello)) = [] := by
  unfold greeting
  split <;> rfl

theorem SameChunks.lessons {cbench : Bool} {before after fresh : List Event} {old p q : Process}
    (same : SameChunks cbench before after fresh old p q) :
    (lessons after).map Call.lesson = (lessons fresh).map Call.lesson := by
  obtain ⟨served, all, requests⟩ :=
    session_requests same.earlier same.connected same.run same.lasts same.reading
  obtain ⟨freshServed, freshAll, freshRequests⟩ :=
    session_requests .refl (.inl rfl) same.freshRun same.freshLasts same.freshReading
  rw [same.chunks] at all
  cases served_unique all freshAll
  refine lessons_eq ?_ same.allocated
  rw [lessons_requests, lessons_requests, requests, freshRequests, List.filter_append,
    List.filter_append, greeting_filter, greeting_filter]

/-- The tables of hosts and ports are those of a freshly started controller
exactly if it had no datapath id when the connection was accepted or if no host
is learned before the first features reply. -/
theorem tables_isolated_iff {cbench : Bool} {before after fresh : List Event} {old p q : Process}
    (same : SameChunks cbench before after fresh old p q) :
    (p.ani.hosts.contents = q.ani.hosts.contents ∧ p.ani.ports.contents = q.ani.ports.contents) ↔
      old.ani.switchId = 0 ∨ ¬ EarlyHosts (lessons after) := by
  obtain ⟨hosts, ports⟩ :=
    session_lessons same.earlier same.connected same.run same.lasts
  obtain ⟨freshHosts, freshPorts⟩ :=
    session_lessons .refl (.inl rfl) same.freshRun same.freshLasts
  rw [← takeAll_congr same.lessons] at freshHosts freshPorts
  have samePorts : p.ani.ports.contents = q.ani.ports.contents := by
    rw [ports, freshPorts, Told.takeAll_ports, Told.takeAll_ports]
    rfl
  have running : p.place ≠ .exited := by
    rw [same.reading]
    exact nofun
  have named : ∀ call ∈ Ani41.lessons after, call.handler = .featuresReply →
      featuresCount call.message ≠ 0 := by
    intro call member features
    apply (replies_named same.run).1 running
    exact List.mem_filter.mpr ⟨(List.mem_filter.mp member).1, by simp [features]⟩
  rw [hosts, freshHosts, and_iff_left samePorts]
  exact takeAll_hosts_iff named rfl rfl

/-! ## A host under the datapath id of the last switch -/

theorem connected_reconnection (events : List Event) (accepted : Nat) :
    Connected (events ++ reconnection accepted) := by
  refine .inr ⟨events ++ [.lost, .internal, .internal, .internal, .internal, .internal],
    accepted, ?_⟩
  simp [reconnection]

theorem lessons_calm {events : List Event}
    (calm : ∀ call, Event.handled call ∈ events → call.env = .calm) :
    (lessons events).map (fun call => call.env.allocated) =
      List.replicate (lessons events).length Env.calm.allocated := by
  refine List.eq_replicate_iff.mpr ⟨List.length_map _, ?_⟩
  intro allocated member
  obtain ⟨call, taught, rfl⟩ := List.mem_map.mp member
  rw [calm call (calls_mem (List.mem_filter.mp taught).1)]

/-- Two played connections with the same chunks. -/
theorem played_sameChunks {moves again alone : List Move} {events after fresh : List Event}
    {first old p q : Process} (one : (Process.initial false).play moves = some (events, first))
    (two : first.reconnected 1 = some old) (three : old.play again = some (after, p))
    (four : (Process.initial false).play alone = some (fresh, q))
    (stays : (∀ move ∈ again, move.Stays) ∧ ∀ move ∈ alone, move.Stays)
    (received : chunks after = chunks fresh)
    (reading : p.place = .reading ∧ q.place = .reading)
    (taught : (lessons after).length = (lessons fresh).length) :
    SameChunks false (events ++ reconnection 1) after fresh old p q where
  earlier := Run.trans (Process.play_run one) (Process.reconnected_spec two).1
  connected := connected_reconnection events 1
  run := Process.play_run three
  lasts := (Process.play_events three).2 stays.1
  freshRun := Process.play_run four
  freshLasts := (Process.play_events four).2 stays.2
  chunks := received
  reading := reading.1
  freshReading := reading.2
  allocated := by
    rw [lessons_calm (Process.play_events three).1, lessons_calm (Process.play_events four).1,
      taught]

/-- The connection is lost after the first moves, and on the next one the chunks
are received that the first connection of another process receives. -/
def replay (moves : List Move) (chunks : List (List UInt8)) :
    Option ((List Event × Process) × Process × (List Event × Process) × List Event × Process) := do
  let deliveries := chunks.map Move.deliver
  let first ← (Process.initial false).play moves
  let old ← first.2.reconnected 1
  let second ← old.play (.answer :: deliveries)
  let fresh ← (Process.initial false).play deliveries
  pure (first, old, second, fresh)

/-- All the chunks are handled in both. -/
def replayed (moves : List Move) (chunks : List (List UInt8))
    (check : Process → Process → Process → Bool) : Bool :=
  (replay moves chunks).any fun (_, old, second, fresh) =>
    decide (Ani41.chunks second.1 = Ani41.chunks fresh.1 ∧
      (second.2.place = .reading ∧ fresh.2.place = .reading) ∧
      (lessons second.1).length = (lessons fresh.1).length) && check old second.2 fresh.2

theorem replayed_spec {moves : List Move} {chunks : List (List UInt8)}
    {check : Process → Process → Process → Bool} (holds : replayed moves chunks check = true) :
    ∃ before after fresh old p q, SameChunks false before after fresh old p q ∧
      check old p q = true := by
  obtain ⟨⟨⟨events, first⟩, old, ⟨after, p⟩, fresh, q⟩, computed, same⟩ :=
    (Option.any_eq_true _ _).mp holds
  obtain ⟨⟨_, _⟩, one, computed⟩ := Option.bind_eq_some_iff.mp computed
  obtain ⟨_, two, computed⟩ := Option.bind_eq_some_iff.mp computed
  obtain ⟨⟨_, _⟩, three, computed⟩ := Option.bind_eq_some_iff.mp computed
  obtain ⟨⟨_, _⟩, four, computed⟩ := Option.bind_eq_some_iff.mp computed
  cases computed
  obtain ⟨checked, passed⟩ := Bool.and_eq_true_iff.mp same
  obtain ⟨received, reading, taught⟩ := of_decide_eq_true checked
  refine ⟨_, _, _, _, _, _, played_sameChunks one two three four ?_ received reading taught, passed⟩
  have stays : ∀ move ∈ chunks.map Move.deliver, move.Stays := by
    intro move member
    obtain ⟨chunk, -, rfl⟩ := List.mem_map.mp member
    trivial
  refine ⟨fun move member => ?_, stays⟩
  rcases List.mem_cons.mp member with rfl | later
  · trivial
  · exact stays move later

/-- The next switch reports a host before it names itself. -/
theorem old_datapathId :
    ¬ ∀ cbench before after fresh old p q, SameChunks cbench before after fresh old p q →
      p.ani.hosts.contents = q.ani.hosts.contents ∧
        p.ani.ports.contents = q.ani.ports.contents := by
  intro always
  have computed : replayed [.deliver (featuresMessage 11 [1])]
      [arpReport 1 Mac.broadcast hostA]
      (fun _ p q => decide (p.ani.hosts.contents ≠ q.ani.hosts.contents)) = true := by decide
  obtain ⟨before, after, fresh, old, p, q, same, different⟩ := replayed_spec computed
  exact of_decide_eq_true different (always _ _ _ _ _ _ _ same).1

/-- A switch that names itself first is kept apart. -/
theorem tables_isolated_iff_named :
    ∃ before after fresh old p q, SameChunks false before after fresh old p q ∧
      old.ani.switchId = 11 ∧
      ((p.ani.hosts.contents = q.ani.hosts.contents ∧
          p.ani.ports.contents = q.ani.ports.contents) ↔
        old.ani.switchId = 0 ∨ ¬ EarlyHosts (lessons after)) := by
  have computed : replayed [.deliver (featuresMessage 11 [1])]
      [featuresMessage 12 [1], arpReport 1 Mac.broadcast hostA]
      (fun old _ _ => decide (old.ani.switchId = 11)) = true := by decide
  obtain ⟨before, after, fresh, old, p, q, same, id⟩ := replayed_spec computed
  exact ⟨before, after, fresh, old, p, q, same, of_decide_eq_true id, tables_isolated_iff same⟩

end DAIM.Ani41
