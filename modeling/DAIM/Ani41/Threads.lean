import DAIM.Ani41.Reconnect

/-!
# How many discovery threads there are

Every features reply that names ports starts a thread, no thread ever ends, and
a new connection finds the threads of the earlier ones at work.
-/

namespace DAIM.Ani41

open DAIM.Library DAIM.OpenFlow DAIM.Linked

/-- The call starts a discovery thread. -/
def Call.Starts (call : Call) : Prop :=
  call.handler = .featuresReply ∧ featuresCount call.message ≠ 0 ∧ call.env.threadCreated = true

instance (call : Call) : Decidable call.Starts := inferInstanceAs (Decidable (_ ∧ _ ∧ _))

/-- The calls that started a thread. -/
def starts (events : List Event) : List Call :=
  (calls events).filter fun call => decide call.Starts

theorem starts_append (events more : List Event) :
    starts (events ++ more) = starts events ++ starts more := by
  rw [starts, calls_append, List.filter_append]
  rfl

/-- An event that is no call starts nothing. -/
theorem starts_other {event : Event} (other : ∀ call, event ≠ .handled call) :
    starts [event] = [] := by
  cases event with
  | handled call => exact absurd rfl (other call)
  | _ => rfl

theorem Call.Touches.spawned {call : Call} {switchId : UInt64} {s next : Shared} {spawned : Bool}
    (touches : call.Touches switchId s next spawned) : spawned = decide call.Starts := by
  have no (not : ¬ call.Starts) : false = decide call.Starts := (decide_eq_false not).symm
  cases touches with
  | nothing _ _ other => exact no fun starting => other starting.1
  | reply is _ _ => exact no fun starting => nomatch is.1.symm.trans starting.1
  | node is _ _ => exact no fun starting => nomatch is.1.symm.trans starting.1
  | started handler count _ => simp [Call.Starts, handler, count]
  | jammed _ count _ _ => exact no fun starting => starting.2.1 count

/-- A step adds the threads that it starts. -/
theorem Process.Step.threads_length {p q : Process} {event : Event}
    (step : Process.Step p event q) :
    q.threads.length = p.threads.length + (starts [event]).length := by
  cases step.touches with
  | kept silent _ _ _ _ threads => rw [threads, starts_other silent, List.length_nil, Nat.add_zero]
  | freeLinks _ _ _ _ threads => rw [threads, starts_other (by simp), List.length_nil, Nat.add_zero]
  | freeReplys _ _ _ _ threads =>
      rw [threads, starts_other (by simp), List.length_nil, Nat.add_zero]
  | @called call spawned _ touch threads =>
      rw [threads, touch.spawned]
      by_cases starting : call.Starts <;> simp [spawn, starts, calls, Event.call?, starting]
  | @thread index thread after sent _ found share threads _ =>
      rw [threads, List.length_set]
      cases sent with
      | none => rfl
      | some bytes => rfl

/-- There are as many threads as features replies have started. -/
theorem Process.Reaches.threads_length {cbench : Bool} {events : List Event} {p : Process}
    (run : Process.Reaches cbench events p) : p.threads.length = (starts events).length := by
  induction run with
  | refl => rfl
  | snoc earlier step inductionHypothesis =>
      rw [step.threads_length, inductionHypothesis, starts_append, List.length_append]

/-- At most one discovery thread is running exactly as long as at most one
features reply has started one, over all connections. -/
theorem one_thread_iff {cbench : Bool} {events : List Event} {p : Process}
    (run : Process.Reaches cbench events p) :
    p.threads.length ≤ 1 ↔ (starts events).length ≤ 1 := by
  rw [run.threads_length]

/-- The switch is asked for its features twice, and two threads are running. -/
theorem two_threads :
    ¬ ∀ cbench events p, Process.Reaches cbench events p → p.threads.length ≤ 1 := by
  intro always
  have computed : ((Process.initial false).play
      [.deliver (featuresMessage 11 [1]), .deliver (featuresMessage 11 [1])]).map
      (fun run => run.2.threads.length) = some 2 := by decide
  obtain ⟨events, p, run, two⟩ := Process.play_eq (fun run => run.2.threads.length) computed
  exact absurd (always false events p run) (by rw [two]; decide)

theorem one_thread_iff_first :
    ∃ events p, Process.Reaches false events p ∧ p.threads.length = 1 ∧
      (p.threads.length ≤ 1 ↔ (starts events).length ≤ 1) := by
  have computed : ((Process.initial false).play [.deliver (featuresMessage 11 [1])]).map
      (fun run => run.2.threads.length) = some 1 := by decide
  obtain ⟨events, p, run, one⟩ := Process.play_eq (fun run => run.2.threads.length) computed
  exact ⟨events, p, run, one, one_thread_iff run⟩

/-! ## The thread of an earlier connection -/

/-- A call of `action_features_reply` is given a part of a chunk that was
received on the connection. -/
theorem Process.Step.features_received {cbench : Bool} {events : List Event} {p q : Process}
    {call : Call} (run : Process.Reaches cbench events p) (step : Process.Step p (.handled call) q)
    (features : call.handler = .featuresReply) :
    ∃ chunk offset, .received chunk ∈ connection events ∧
      call.message = (Memory.ofList chunk Memory.zero).shift offset := by
  obtain ⟨started, ofBuffer, outcome, called⟩ := step.called
  have buffer : started.readBuffer = p.ani.readBuffer := by rw [called.pointers]
  have message := called.message
  rw [buffer] at message
  rcases run.buffered with empty | ⟨chunk, received, held⟩
  · -- the type octet of the empty buffer is that of `OFPT_HELLO`
    have type := called.type
    rw [message, empty, features] at type
    have hello : dispatch 0 = some .featuresReply := type
    exact absurd hello (by decide)
  · exact ⟨chunk, ofBuffer, received, by rw [message, held]⟩

/-- A features reply has been received and handled in these events. -/
def FeaturesReceived (events : List Event) : Prop :=
  ∃ chunk call offset, Event.received chunk ∈ events ∧ Event.handled call ∈ events ∧
    call.handler = .featuresReply ∧
    call.message = (Memory.ofList chunk Memory.zero).shift offset

theorem FeaturesReceived.later {events : List Event} (received : FeaturesReceived events)
    (more : List Event) : FeaturesReceived (events ++ more) := by
  obtain ⟨chunk, call, offset, here, handled, features, message⟩ := received
  exact ⟨chunk, call, offset, List.mem_append_left _ here, List.mem_append_left _ handled,
    features, message⟩

/-- Connections are accepted only while no discovery thread has been started. -/
def Unstarted (events : List Event) : Prop :=
  ∀ earlier accepted later, events = earlier ++ .connected accepted :: later → starts earlier = []

theorem Unstarted.of_append {events more : List Event} (unstarted : Unstarted (events ++ more)) :
    Unstarted events := by
  intro earlier accepted later cut
  apply unstarted earlier accepted (later ++ more)
  rw [cut, List.append_assoc, List.cons_append]

/-- The connections accepted in a history. -/
def Event.accepted? : Event → Option Nat
  | .connected accepted => some accepted
  | _ => none

/-- On the first connection nothing was started before it. -/
theorem Unstarted.first {events : List Event} (first : events.filterMap Event.accepted? = []) :
    Unstarted events := by
  intro earlier accepted later cut
  have member : Event.connected accepted ∈ events := cut ▸ by simp
  exact absurd (List.filterMap_eq_nil_iff.mp first _ member) (by simp [Event.accepted?])

/-- While no connection finds a thread, there are threads only after a features
reply on the connection. -/
theorem Process.Reaches.features_received {cbench : Bool} {events : List Event} {p : Process}
    (run : Process.Reaches cbench events p) (unstarted : Unstarted events)
    (running : p.threads ≠ []) : FeaturesReceived (connection events) := by
  induction run with
  | refl => exact absurd rfl running
  | @snoc events middle finish event earlier step inductionHypothesis =>
      have before := inductionHypothesis unstarted.of_append
      have count := Process.Reaches.threads_length earlier
      have grown := step.threads_length
      cases event with
      | connected accepted =>
          have none : starts events = [] := unstarted events accepted [] rfl
          rw [count, none] at grown
          exact absurd (List.eq_nil_of_length_eq_zero grown) running
      | handled call =>
          rw [connection_other _ (by simp)]
          by_cases found : middle.threads = []
          · have starting : call.Starts := by
              by_contra not
              have unchanged : starts [Event.handled call] = [] := by
                simp [starts, calls, Event.call?, not]
              rw [found, unchanged] at grown
              exact running (List.eq_nil_of_length_eq_zero grown)
            obtain ⟨chunk, offset, received, message⟩ :=
              step.features_received earlier starting.1
            exact ⟨chunk, call, offset, List.mem_append_left _ received,
              List.mem_append_right _ List.mem_cons_self, starting.1, message⟩
          · exact (before found).later _
      | _ =>
          rw [connection_other _ (by simp)]
          refine (before ?_).later _
          rintro none
          rw [none] at grown
          exact running (List.eq_nil_of_length_eq_zero grown)

/-- In a run whose connections are all accepted before the first discovery
thread is started, no discovery packet is sent on a connection before a
features reply was received on it. -/
theorem discovery_after_features {cbench : Bool} {events : List Event} {p : Process}
    (run : Process.Reaches cbench events p) (unstarted : Unstarted events)
    {earlier later : List Event} {index : Nat} {bytes : List UInt8}
    (cut : events = earlier ++ .shared index bytes :: later) :
    FeaturesReceived (connection earlier) := by
  rw [cut] at run unstarted
  obtain ⟨middle, before, after⟩ := run.append_inv
  obtain ⟨next, step, -⟩ := after.cons_inv
  apply Process.Reaches.features_received before unstarted.of_append
  intro none
  cases step with
  | @shared s next place threads index thread after bytes found _ =>
      have empty : threads = [] := none
      rw [empty] at found
      cases found

/-- The thread of the first connection has come to its first probe when the
connection is lost, and sends it on the second one before anything is received. -/
theorem probe_before_features :
    ¬ ∀ cbench events p, Process.Reaches cbench events p →
      ∀ earlier later index bytes, events = earlier ++ .shared index bytes :: later →
        FeaturesReceived (connection earlier) := by
  intro always
  have computed : ((Process.initial false).play
      [.deliver (featuresMessage 11 [1]), .share 0, .share 0]).map
      (fun run => (run.2.threads, run.2.place)) = some ([⟨.probe 1, 1⟩], .reading) := by decide
  obtain ⟨events, p, run, here⟩ :=
    Process.play_eq (fun run => (run.2.threads, run.2.place)) computed
  obtain ⟨threads, reading⟩ := Prod.mk.inj here
  obtain ⟨tables, shows, -⟩ := run.tables
  obtain ⟨q, reconnected⟩ :=
    Option.isSome_iff_exists.mp (Process.reconnected_isSome shows reading 1)
  obtain ⟨offline, next⟩ := Process.reconnected_spec reconnected
  obtain ⟨s, place, others⟩ := q
  have kept : others = [⟨.probe 1, 1⟩] := next.threads.trans threads
  have probe : ShareStep 0 s ⟨.probe 1, 1⟩ _ s _ := .probe rfl (by decide)
  have step : Process.Step ⟨s, place, others⟩ (.shared 0 _) _ := .shared (by rw [kept]; rfl) probe
  obtain ⟨chunk, call, offset, received, -⟩ :=
    always false _ _ ((run.trans offline).snoc step) (events ++ reconnection 1) [] 0 _ rfl
  have nothing : connection (events ++ reconnection 1) = [] := by
    have split : events ++ reconnection 1 =
        (events ++ [.lost, .internal, .internal, .internal, .internal, .internal]) ++
          [.connected 1] := by simp [reconnection]
    rw [split, connection_connected]
  rw [nothing] at received
  cases received

theorem discovery_after_features_first :
    ∃ earlier bytes p, Process.Reaches false (earlier ++ .shared 0 bytes :: []) p ∧
      FeaturesReceived (connection earlier) := by
  have computed : ((Process.initial false).play
      [.deliver (featuresMessage 11 [1]), .share 0, .share 0]).map
      (fun run => (run.2.threads, run.1.filterMap Event.accepted?)) =
      some ([⟨.probe 1, 1⟩], []) := by decide
  obtain ⟨events, p, run, here⟩ :=
    Process.play_eq (fun run => (run.2.threads, run.1.filterMap Event.accepted?)) computed
  obtain ⟨threads, first⟩ := Prod.mk.inj here
  obtain ⟨s, place, others⟩ := p
  have kept : others = [⟨.probe 1, 1⟩] := threads
  have probe : ShareStep 0 s ⟨.probe 1, 1⟩ _ s _ := .probe rfl (by decide)
  have step : Process.Step ⟨s, place, others⟩ (.shared 0 _) _ := .shared (by rw [kept]; rfl) probe
  refine ⟨events, _, _, run.snoc step, ?_⟩
  apply discovery_after_features (run.snoc step) _ rfl
  apply Unstarted.first
  rw [List.filterMap_append, show events.filterMap Event.accepted? = [] from first]
  rfl

end DAIM.Ani41
