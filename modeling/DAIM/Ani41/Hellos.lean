import DAIM.Library.Pieces
import DAIM.Ani41.Isolation
import DAIM.Ani41.Sent

/-!
# A `HELLO` for a `HELLO`

Of each connection, the `HELLO` messages and features requests sent against the
`HELLO` messages received.  The controller sends too many only where it calls
`action_hello` off the start of a received `HELLO`: on the zeroed buffer after
a reconnection, whose type is that of a `HELLO`, or inside of a message.
-/

namespace DAIM.Ani41

open DAIM.Library DAIM.OpenFlow DAIM.Linked

/-! ## Messages sent and received -/

/-- The messages of a byte stream, by the lengths in their headers. -/
def messages : Pieces UInt8 where
  least := OfpHeader.size
  positive := by decide
  size stream := (be16 stream OfpHeader.length).toNat
  header front more long := by
    have inside : OfpHeader.length + 2 ≤ front.length := Nat.le_trans (by decide) long
    have reaches : OfpHeader.length ≤ front.length := by omega
    have fills : 2 ≤ (front.drop OfpHeader.length).length := by
      rw [List.length_drop]
      omega
    rw [be16, be16, List.drop_append_of_le_length reaches, List.take_append_of_le_length fills]

def helloCount (pieces : List (List UInt8)) : Nat :=
  pieces.countP fun message => messageType message = ofptHello

/-- The number of whole `HELLO` messages in what was received. -/
def hellos (stream : List UInt8) : Nat := helloCount (messages.cut stream)

/-- The number of messages of a type that were passed to `send`. -/
def sentOf (type : UInt8) (events : List Event) : Nat :=
  (events.flatMap Event.sent).countP fun bytes => messageType bytes = type

/-- A whole `HELLO` begins at the offset, behind other whole messages. -/
def HelloAt (stream : List UInt8) (offset : Nat) : Prop :=
  ∃ (front : List (List UInt8)) (message : List UInt8), (∀ piece ∈ front, messages.Whole piece) ∧
    messages.Whole message ∧ messageType message = ofptHello ∧ front.flatten.length = offset ∧
    front.flatten ++ message <+: stream

/-- How far the main thread has come in what it received. -/
def Process.offset (p : Process) (received : List (List UInt8)) : Nat :=
  match p.place with
  | .sending => received.dropLast.flatten.length
  | .scanning _ => received.dropLast.flatten.length + p.ani.readBufferp
  | _ => received.flatten.length

/-- If the step calls `action_hello`, then at the start of a `HELLO` that was
received on the connection. -/
def Greeted (earlier : List Event) (p : Process) (event : Event) : Prop :=
  ∀ call, event = .handled call → call.handler = .hello →
    HelloAt (chunks (connection earlier)).flatten (p.offset (chunks (connection earlier)))

/-! ## Counting along the stream -/

theorem hellos_mono {front stream : List UInt8} (shorter : front <+: stream) :
    hellos front ≤ hellos stream :=
  (messages.cut_prefix shorter).sublist.countP_le

theorem hellos_flatten {pieces : List (List UInt8)}
    (whole : ∀ piece ∈ pieces, messages.Whole piece) :
    hellos pieces.flatten = helloCount pieces := by
  have cut := messages.cut_flatten whole []
  rw [List.append_nil] at cut
  rw [hellos, cut, Pieces.cut, List.length_nil, Pieces.cutFrom, List.append_nil]

/-- Behind a `HELLO` one more has been received. -/
theorem hellos_behind {front : List (List UInt8)} {message stream : List UInt8}
    (whole : ∀ piece ∈ front, messages.Whole piece) (last : messages.Whole message)
    (type : messageType message = ofptHello) (received : front.flatten ++ message <+: stream) :
    hellos (stream.take front.flatten.length) + 1 ≤ hellos stream := by
  have here : stream.take front.flatten.length = front.flatten := by
    obtain ⟨rest, rfl⟩ := received
    rw [List.append_assoc, List.take_left]
  have all : ∀ piece ∈ front ++ [message], messages.Whole piece := by
    intro piece member
    rcases List.mem_append.mp member with earlier | same
    · exact whole piece earlier
    · exact List.mem_singleton.mp same ▸ last
  have behind : hellos (front.flatten ++ message) = helloCount front + 1 := by
    have counted := hellos_flatten all
    rw [List.flatten_append, List.flatten_singleton] at counted
    rw [counted, helloCount, List.countP_append, List.countP_singleton,
      if_pos (decide_eq_true type)]
    rfl
  rw [here, hellos_flatten whole, ← behind]
  exact hellos_mono received

/-- The number of times that `action_hello` was called. -/
def helloCalls (events : List Event) : Nat :=
  (calls events).countP fun call => call.handler = .hello

theorem helloCalls_hello {call : Call} (hello : call.handler = .hello) :
    helloCalls [.handled call] = 1 := by
  show [call].countP _ = 1
  rw [List.countP_singleton, if_pos (decide_eq_true hello)]

theorem sentOf_append (type : UInt8) (first second : List Event) :
    sentOf type (first ++ second) = sentOf type first + sentOf type second := by
  rw [sentOf, List.flatMap_append, List.countP_append]
  rfl

theorem helloCalls_append (first second : List Event) :
    helloCalls (first ++ second) = helloCalls first + helloCalls second := by
  rw [helloCalls, calls_append, List.countP_append]
  rfl

/-! ## What a step sends -/

theorem answer_type {cbench : Bool} {hosts : List SwitchHost} {message : Memory}
    {bytes : List UInt8} (sent : bytes ∈ (answer cbench hosts message).bytes) :
    messageType bytes = ofptPacketOut ∨ messageType bytes = ofptFlowMod := by
  rcases answer_cases cbench hosts message with silent | ⟨flood, -⟩ | ⟨reply, -⟩ |
    ⟨-, nwSrc, nwDst, tpSrc, tpDst, nwProto, port, flow⟩
  · rw [silent] at sent
    cases sent
  · rw [flood] at sent
    cases List.mem_singleton.mp sent
    exact .inl rfl
  · rw [reply] at sent
    cases List.mem_singleton.mp sent
    exact .inl rfl
  · rw [flow] at sent
    cases List.mem_singleton.mp sent
    exact .inr rfl

/-- A type that only `action_hello` sends. -/
inductive Greeting : UInt8 → Prop where
  | hello : Greeting ofptHello
  | featuresRequest : Greeting ofptFeaturesRequest

theorem Greeting.other {type other : UInt8} (greeting : Greeting type)
    (notHello : other ≠ ofptHello) (notRequest : other ≠ ofptFeaturesRequest) : other ≠ type := by
  cases greeting with
  | hello => exact notHello
  | featuresRequest => exact notRequest

theorem sentOf_none {type : UInt8} {event : Event}
    (other : ∀ bytes ∈ event.sent, messageType bytes ≠ type) : sentOf type [event] = 0 := by
  rw [sentOf, List.flatMap_singleton, List.countP_eq_zero]
  intro bytes sent same
  exact other bytes sent (of_decide_eq_true same)

theorem Called.greeting {p q : Process} {call : Call} {started : Ani} {ofBuffer : Nat}
    {outcome : Outcome} {tables : Tables} {type : UInt8}
    (called : Called p call q started ofBuffer outcome) (shows : p.ani.Shows tables)
    (greeting : Greeting type) :
    sentOf type [.handled call] ≤ helloCalls [.handled call] := by
  have startedShows := called.shows shows
  have run := called.run
  -- the messages of the other handlers are of other types
  have none (other : ∀ bytes ∈ call.sent, messageType bytes ≠ type) :
      sentOf type [.handled call] ≤ helloCalls [.handled call] := by
    have zero : sentOf type [.handled call] = 0 := sentOf_none other
    rw [zero]
    exact Nat.zero_le _
  cases handler : call.handler with
  | hello =>
      rw [handler] at run
      rw [helloCalls_hello handler, sentOf, List.flatMap_singleton]
      show call.sent.countP _ ≤ 1
      rw [called.sent]
      obtain ⟨-, -, -, hello | both⟩ := actionHello_spec startedShows (Option.some.inj run)
      · rw [hello]
        exact List.countP_le_length
      · rw [both]
        cases greeting <;> exact Nat.le_of_eq rfl
  | echo =>
      rw [handler] at run
      obtain ⟨-, -, -, reply⟩ := actionEcho_spec startedShows (Option.some.inj run)
      apply none
      intro bytes sent
      rw [called.sent, reply] at sent
      cases List.mem_singleton.mp sent
      exact greeting.other (show ofptEchoReply ≠ _ by decide) (show ofptEchoReply ≠ _ by decide)
  | featuresReply =>
      rw [handler] at run
      obtain ⟨-, -, -, -, -, result⟩ := actionFeaturesReply_spec startedShows run
      apply none
      intro bytes sent
      split at result
      · rw [called.sent, result.2.2.2.1] at sent
        cases sent
      · rw [called.sent, result.2.2.2] at sent
        cases List.mem_singleton.mp sent
        exact greeting.other (show ofptSetConfig ≠ _ by decide) (show ofptSetConfig ≠ _ by decide)
  | packout =>
      apply none
      intro bytes sent
      rw [(called.packout shows handler).2] at sent
      rcases answer_type sent with packet | flow
      · rw [packet]
        exact greeting.other (by decide) (by decide)
      · rw [flow]
        exact greeting.other (by decide) (by decide)

theorem Process.Step.greeting {p q : Process} {event : Event} {tables : Tables} {type : UInt8}
    (step : Process.Step p event q) (shows : p.ani.Shows tables) (greeting : Greeting type) :
    sentOf type [event] ≤ helloCalls [event] := by
  cases event with
  | handled call =>
      obtain ⟨started, ofBuffer, outcome, called⟩ := step.called
      exact called.greeting shows greeting
  | shared index bytes =>
      have packet : messageType bytes = ofptPacketOut := by
        rcases step.shared_cases with ⟨port, rfl⟩ | ⟨_, reply, -, rfl⟩
        · rfl
        · rfl
      have none : sentOf type [.shared index bytes] = 0 := by
        apply sentOf_none
        intro other sent
        cases List.mem_singleton.mp sent
        rw [packet]
        exact greeting.other (by decide) (by decide)
      rw [none]
      exact Nat.zero_le _
  | _ => exact Nat.le_of_eq rfl

/-! ## The place in the stream -/

/-- The main thread looks at the chunk that it received last. -/
def MainPlace.Looks : MainPlace → Prop
  | .sending | .scanning _ => True
  | _ => False

/-- What has been looked at, of a stream. -/
def Process.seen (p : Process) (received : List (List UInt8)) : List UInt8 :=
  received.flatten.take (p.offset received)

theorem Process.seen_all {p : Process} (received : List (List UInt8)) (idle : ¬ p.place.Looks) :
    p.seen received = received.flatten := by
  have all : p.offset received = received.flatten.length := by
    unfold Process.offset
    split
    · rename_i place
      exact absurd (place ▸ trivial) idle
    · rename_i place
      exact absurd (place ▸ trivial) idle
    · rfl
  rw [Process.seen, all, List.take_length]

/-- A step without a chunk goes on in the stream. -/
theorem Process.Step.seen {p q : Process} {event : Event} {tables : Tables}
    (step : Process.Step p event q) (shows : p.ani.Shows tables) (received : List (List UInt8))
    (unread : event.chunk? = none) (old : ∀ accepted, event ≠ .connected accepted) :
    p.seen received <+: q.seen received := by
  have finishes (idle : ¬ q.place.Looks) : p.seen received <+: q.seen received := by
    rw [Process.seen_all received idle]
    exact List.take_prefix _ _
  cases step with
  | received _ _ => cases unread
  | connected => exact absurd rfl (old _)
  | scan _ => exact List.prefix_refl _
  | skipped _ check _ =>
      obtain ⟨rfl, -⟩ := checkOpenflow_eq check
      exact List.take_prefix_take_left (Nat.add_le_add_left (Nat.le_add_right _ _) _)
  | answered _ _ _ =>
      apply finishes
      unfold afterCall
      split <;> exact id
  | @scanAnswered s next threads counter handler env outcome more check type run =>
      obtain ⟨rfl, -⟩ := checkOpenflow_eq check
      obtain ⟨-, -, pointer⟩ := handle_keeps run
      unfold afterCall at finishes ⊢
      split
      · rename_i negative
        rw [if_pos negative] at finishes
        exact finishes id
      · apply List.take_prefix_take_left
        show _ + _ ≤ _ + (outcome.ani.readBufferp + _)
        rw [pointer]
        exact Nat.add_le_add_left (Nat.le_add_right _ _) _
  | thread _ share =>
      unfold Process.seen Process.offset
      rw [share.frame]
  | shared _ share =>
      unfold Process.seen Process.offset
      rw [share.frame]
  | _ => exact finishes id

/-- What follows in the stream is at the pointer into the last chunk. -/
theorem starts_behind {before last front message : List UInt8} {pointer : Nat}
    (received : front ++ message <+: before ++ last)
    (length : front.length = before.length + pointer) :
    ((Memory.ofList last Memory.zero).shift pointer).Starts message := by
  have inside : before <+: front :=
    List.prefix_of_prefix_length_le (List.prefix_append before last)
      ((List.prefix_append front message).trans received) (by omega)
  obtain ⟨skipped, rfl⟩ := inside
  rw [List.append_assoc, List.prefix_append_right_inj] at received
  obtain ⟨rest, rfl⟩ := received
  have pointed : skipped.length = pointer := by
    rw [List.length_append] at length
    omega
  subst pointed
  exact (Memory.starts_ofList (skipped ++ message ++ rest) Memory.zero).left.right

theorem flatten_dropLast (received : List (List UInt8)) :
    received.flatten = received.dropLast.flatten ++ received.getLastD [] := by
  rcases List.eq_nil_or_concat received with rfl | ⟨before, last, rfl⟩
  · rfl
  · simp

/-- A call at the start of a `HELLO` leaves it behind. -/
theorem Process.Step.passes_hello {p q : Process} {call : Call} {tables : Tables}
    {received : List (List UInt8)} (step : Process.Step p (.handled call) q)
    (shows : p.ani.Shows tables)
    (held : p.ani.readBuffer = Memory.ofList (received.getLastD []) Memory.zero)
    (hello : HelloAt received.flatten (p.offset received)) :
    hellos (p.seen received) + 1 ≤ hellos (q.seen received) := by
  obtain ⟨front, message, whole, last, type, offset, inside⟩ := hello
  have idle (place : ¬ q.place.Looks) :
      hellos (p.seen received) + 1 ≤ hellos (q.seen received) := by
    rw [Process.seen_all received place, Process.seen, ← offset]
    exact hellos_behind whole last type inside
  cases step with
  | answered _ _ _ =>
      apply idle
      unfold afterCall
      split <;> exact id
  | @scanAnswered s next threads counter handler env outcome more check type' run =>
      obtain ⟨rfl, -⟩ := checkOpenflow_eq check
      obtain ⟨-, -, pointer⟩ := handle_keeps run
      unfold afterCall at idle ⊢
      split
      · rename_i negative
        rw [if_pos negative] at idle
        exact idle id
      · have read := inside
        rw [flatten_dropLast received] at read
        have starts := starts_behind read offset
        have field : OfpHeader.length + 2 ≤ message.length :=
          Nat.le_trans (by decide) last.header
        have length : lengthAt s.readBuffer s.readBufferp = message.length := by
          have stored := starts.ntohs_load16 field
          rw [← held] at stored
          rw [lengthAt, stored]
          exact last.length
        have reached : front.flatten ++ message <+: received.flatten.take
            (received.dropLast.flatten.length +
              (outcome.ani.readBufferp + lengthAt s.readBuffer s.readBufferp)) := by
          rw [List.prefix_take_iff]
          refine ⟨inside, ?_⟩
          rw [List.length_append, length, pointer, offset]
          exact Nat.le_of_eq (Nat.add_assoc _ _ _)
        have counted := hellos_behind whole last type reached
        have earlier : (received.flatten.take (received.dropLast.flatten.length +
            (outcome.ani.readBufferp + lengthAt s.readBuffer s.readBufferp))).take
              front.flatten.length = received.flatten.take front.flatten.length := by
          rw [List.take_take, Nat.min_eq_left]
          have all := reached.length_le
          rw [List.length_append, List.length_take] at all
          omega
        rw [earlier, offset] at counted
        exact counted

/-! ## Whole runs -/

/-- Only a chunk and a new connection make the main thread look. -/
theorem Process.Step.looks {p q : Process} {event : Event} (step : Process.Step p event q)
    (unread : event.chunk? = none) (old : ∀ accepted, event ≠ .connected accepted)
    (looks : q.place.Looks) : p.place.Looks ∧ event ≠ .lost := by
  cases step with
  | received _ _ => cases unread
  | connected => exact absurd rfl (old _)
  | answered _ _ _ => exact ⟨trivial, by simp⟩
  | scan _ => exact ⟨trivial, by simp⟩
  | skipped _ _ _ => exact ⟨trivial, by simp⟩
  | scanAnswered _ _ _ _ => exact ⟨trivial, by simp⟩
  | thread _ _ => exact ⟨looks, by simp⟩
  | shared _ _ => exact ⟨looks, by simp⟩
  | _ => exact absurd looks id

/-- What was sent on a connection, against what was looked at. -/
structure Greets (events : List Event) (p : Process) : Prop where
  held : p.place.Looks →
    p.ani.readBuffer = Memory.ofList ((chunks events).getLastD []) Memory.zero
  sent : ∀ type, Greeting type → sentOf type events ≤ helloCalls events
  behind : helloCalls events ≤ hellos (p.seen (chunks events))

theorem Greets.step {events : List Event} {p q : Process} {event : Event} {tables : Tables}
    (greets : Greets events p) (step : Process.Step p event q) (shows : p.ani.Shows tables)
    (old : ∀ accepted, event ≠ .connected accepted)
    (greeted : ∀ call, event = .handled call → call.handler = .hello →
      HelloAt (chunks events).flatten (p.offset (chunks events))) :
    Greets (events ++ [event]) q := by
  have sent : ∀ type, Greeting type →
      sentOf type (events ++ [event]) ≤ helloCalls (events ++ [event]) := by
    intro type greeting
    rw [sentOf_append, helloCalls_append]
    exact Nat.add_le_add (greets.sent type greeting) (step.greeting shows greeting)
  cases unread : event.chunk? with
  | some chunk =>
      cases event with
      | received chunk =>
          cases step with
          | received _ _ =>
              have behind := greets.behind
              rw [Process.seen_all _ id] at behind
              have last : chunks (events ++ [.received chunk]) = chunks events ++ [chunk] :=
                chunks_append _ _
              refine ⟨fun _ => ?_, sent, ?_⟩
              · rw [last, List.getLastD_concat]
              · rw [helloCalls_append, last, Process.seen]
                unfold Process.offset
                simp only
                rw [List.dropLast_concat, List.flatten_append, List.take_left]
                exact behind
      | _ => cases unread
  | none =>
      have same := chunks_silent unread events
      refine ⟨fun looks => ?_, sent, ?_⟩
      · obtain ⟨looked, lasting⟩ := step.looks unread old looks
        rw [step.readBuffer unread lasting, same]
        exact greets.held looked
      · rw [helloCalls_append, same]
        by_cases hello : ∃ call, event = .handled call ∧ call.handler = .hello
        · obtain ⟨call, rfl, handler⟩ := hello
          have looked : p.place.Looks := by
            cases step <;> trivial
          rw [helloCalls_hello handler]
          exact Nat.le_trans (Nat.add_le_add_right greets.behind 1)
            (step.passes_hello shows (greets.held looked) (greeted call rfl handler))
        · have none : helloCalls [event] = 0 := by
            rw [helloCalls, List.countP_eq_zero]
            intro call member handler
            exact hello ⟨call, (List.mem_singleton.mp (calls_mem member)).symm,
              of_decide_eq_true handler⟩
          rw [none]
          exact Nat.le_trans greets.behind (hellos_mono (step.seen shows _ unread old))

theorem greets_run {cbench : Bool} {events : List Event} {p : Process}
    (run : Guarded Process.Step Greeted (Process.initial cbench) events p) :
    Greets (connection events) p := by
  induction run with
  | refl => exact ⟨fun looks => absurd looks id, fun _ _ => Nat.le_refl 0, Nat.le_refl 0⟩
  | @snoc events middle finish event earlier greeted step inductionHypothesis =>
      have reached : Process.Reaches cbench events middle := earlier.run
      by_cases new : ∃ accepted, event = .connected accepted
      · obtain ⟨accepted, rfl⟩ := new
        have unread := (step.unread (Process.Reaches.unread reached)).2 accepted rfl
        rw [connection_connected]
        exact ⟨fun _ => unread.buffer, fun _ _ => Nat.le_refl 0, Nat.zero_le _⟩
      · have old : ∀ accepted, event ≠ .connected accepted :=
          fun accepted same => new ⟨accepted, same⟩
        obtain ⟨tables, shows, -⟩ := Process.Reaches.tables reached
        rw [connection_other events old]
        exact inductionHypothesis.step step shows old greeted

/-- On no connection of a run are more `HELLO` messages or features requests
sent than `HELLO` messages were received on it, when `action_hello` is only
called at the start of a received `HELLO`. -/
theorem hellos_answered {cbench : Bool} {events : List Event} {p : Process}
    (run : Guarded Process.Step Greeted (Process.initial cbench) events p) :
    sentOf ofptHello (connection events) ≤ hellos (chunks (connection events)).flatten ∧
      sentOf ofptFeaturesRequest (connection events) ≤
        hellos (chunks (connection events)).flatten := by
  have greets := greets_run run
  have received : helloCalls (connection events) ≤
      hellos (chunks (connection events)).flatten :=
    Nat.le_trans greets.behind (hellos_mono (List.take_prefix _ _))
  exact ⟨Nat.le_trans (greets.sent _ .hello) received,
    Nat.le_trans (greets.sent _ .featuresRequest) received⟩

/-- Outside of the benchmark mode a reconnection is followed by a `HELLO` and a
features request that nothing was received for. -/
theorem hello_unasked :
    ¬ ∀ cbench events p, Process.Reaches cbench events p →
      sentOf ofptHello (connection events) ≤ hellos (chunks (connection events)).flatten ∧
        sentOf ofptFeaturesRequest (connection events) ≤
          hellos (chunks (connection events)).flatten := by
  intro always
  have computed : ((Process.initial false).play [.reconnect 1, .answer]).map
      (fun run => (sentOf ofptHello (connection run.1),
        sentOf ofptFeaturesRequest (connection run.1),
        hellos (chunks (connection run.1)).flatten)) = some (1, 1, 0) := by decide
  obtain ⟨events, p, reached, counts⟩ := Process.play_eq _ computed
  simp only [Prod.mk.injEq] at counts
  obtain ⟨sent, -, received⟩ := counts
  have few := (always _ _ _ reached).1
  rw [sent, received] at few
  exact absurd few (by decide)

theorem hellos_answered_hello :
    ∃ call p, Process.Reaches false [.received helloMessage, .handled call] p ∧
      sentOf ofptHello (connection [.received helloMessage, .handled call]) ≤
        hellos (chunks (connection [.received helloMessage, .handled call])).flatten ∧
      sentOf ofptFeaturesRequest (connection [.received helloMessage, .handled call]) ≤
        hellos (chunks (connection [.received helloMessage, .handled call])).flatten := by
  have delivers : ((Process.initial false).deliver helloMessage .calm).isSome := by decide
  obtain ⟨⟨call, p⟩, delivered⟩ := Option.isSome_iff_exists.mp delivers
  have run := Process.deliver_run delivered
  obtain ⟨middle, first, rest⟩ := run.cons_inv
  have sending : middle.place = .sending := by
    cases first
    rfl
  have hello : HelloAt helloMessage 0 :=
    ⟨[], helloMessage, by simp, ⟨by decide, by decide⟩, rfl, rfl, List.prefix_refl _⟩
  have silent : Guarded Process.Step Greeted (Process.initial false)
      ([] ++ [.received helloMessage]) middle := .snoc .refl nofun first
  have guarded : Guarded Process.Step Greeted (Process.initial false)
      ([] ++ [.received helloMessage] ++ [.handled call]) p := by
    refine .snoc silent (fun _ _ _ => ?_) rest.single_inv
    unfold Process.offset
    rw [sending]
    exact hello
  exact ⟨call, p, run, hellos_answered guarded⟩

end DAIM.Ani41
