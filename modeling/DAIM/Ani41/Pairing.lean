import Mathlib.Data.List.Forall2
import DAIM.Ani41.Hellos
import DAIM.Ani41.Loop

/-!
# Requests and their replies

Which messages answer the `HELLO` messages and the echo requests that are
handled in a run, in the order in which they are handled.
-/

namespace DAIM.Ani41

open DAIM.Library DAIM.OpenFlow DAIM.Linked DAIM.Com

def Call.xid (call : Call) : UInt32 := ntohl (call.message.load32 OfpHeader.xid)

/-- What follows the header of the message, as far as its length says. -/
def Call.body (call : Call) : List UInt8 :=
  call.message.slice OfpHeader.size (statedLength call.message - OfpHeader.size)

/-- The calls of one handler in a history. -/
def callsOf (handler : Handler) (events : List Event) : List Call :=
  (calls events).filter fun call => call.handler = handler

/-- The messages of some types that were passed to `send`. -/
def sentAmong (types : List UInt8) (events : List Event) : List (List UInt8) :=
  (events.flatMap Event.sent).filter fun bytes => messageType bytes ∈ types

/-- A reply with the number and the body of the request. -/
structure Echoes (call : Call) (reply : List UInt8) : Prop where
  xid : be32 reply OfpHeader.xid = call.xid
  body : reply.drop OfpHeader.size = call.body

/-- The answer to a `HELLO`. -/
def helloAnswer (call : Call) : List (List UInt8) :=
  [headerMessage ofptHello call.xid, headerMessage ofptFeaturesRequest (call.xid + 1)]

/-- The echo replies echo the echo requests, one after the other, and the
`HELLO` messages and features requests answer the `HELLO` messages. -/
structure Paired (events : List Event) : Prop where
  echoes : List.Forall₂ Echoes (callsOf .echo events) (sentAmong [ofptEchoReply] events)
  greetings : sentAmong [ofptHello, ofptFeaturesRequest] events =
    (callsOf .hello events).flatMap helloAnswer

/-- Every `send` of the call succeeds. -/
def Call.Succeeds (call : Call) : Prop := ∀ index, 0 < call.env.sendResult index

theorem callsOf_append (handler : Handler) (before after : List Event) :
    callsOf handler (before ++ after) = callsOf handler before ++ callsOf handler after := by
  rw [callsOf, calls_append, List.filter_append]
  rfl

theorem sentAmong_append (types : List UInt8) (before after : List Event) :
    sentAmong types (before ++ after) = sentAmong types before ++ sentAmong types after := by
  rw [sentAmong, List.flatMap_append, List.filter_append]
  rfl

theorem sentAmong_none {types : List UInt8} {event : Event}
    (other : ∀ bytes ∈ event.sent, messageType bytes ∉ types) : sentAmong types [event] = [] := by
  rw [sentAmong, List.flatMap_singleton, List.filter_eq_nil_iff]
  intro bytes sent
  simpa using other bytes sent

theorem callsOf_one (call : Call) (handler : Handler) :
    callsOf handler [.handled call] = if call.handler = handler then [call] else [] := by
  show [call].filter _ = _
  rw [List.filter_singleton]
  by_cases same : call.handler = handler <;> simp [same]

/-! ## What one call sends -/

theorem actionHello_sends {env : Env} (succeeds : 0 < env.sendResult 0) (ofBuffer : Nat)
    (s : Ani) :
    let xid := ntohl ((s.readBuffer.shift ofBuffer).load32 OfpHeader.xid)
    (actionHello env ofBuffer s).sent =
      [headerMessage ofptHello xid, headerMessage ofptFeaturesRequest (xid + 1)] := by
  have nonzero : env.sendResult 0 ≠ 0 := by omega
  unfold actionHello Ani.outgoing Ani.send
  simp only [createOfHello_bytes, createOfFeaturesRequest_bytes, if_neg nonzero, if_pos succeeds]
  split
  · rfl
  · split <;> rfl

/-- What the steps of a history send in answer to the calls in it. -/
structure Replies (events : List Event) : Prop where
  echoes : sentAmong [ofptEchoReply] events =
    (callsOf .echo events).map fun call => headerMessage ofptEchoReply call.xid
  greetings : sentAmong [ofptHello, ofptFeaturesRequest] events =
    (callsOf .hello events).flatMap helloAnswer

theorem Replies.append {before after : List Event} (left : Replies before)
    (right : Replies after) : Replies (before ++ after) where
  echoes := by
    rw [sentAmong_append, callsOf_append, left.echoes, right.echoes, List.map_append]
  greetings := by
    rw [sentAmong_append, callsOf_append, left.greetings, right.greetings, List.flatMap_append]

/-- A step that sends nothing of these types and calls neither of the handlers. -/
theorem Replies.silent {event : Event}
    (other : ∀ bytes ∈ event.sent,
      messageType bytes ∉ [ofptEchoReply, ofptHello, ofptFeaturesRequest])
    (uncalled : ∀ call, event = .handled call → call.handler ≠ .echo ∧ call.handler ≠ .hello) :
    Replies [event] := by
  have none (handler : Handler) (named : handler = .echo ∨ handler = .hello) :
      callsOf handler [event] = [] := by
    cases event with
    | handled call =>
        obtain ⟨notEcho, notHello⟩ := uncalled call rfl
        rw [callsOf_one, if_neg]
        rcases named with rfl | rfl
        · exact notEcho
        · exact notHello
    | _ => rfl
  constructor
  · rw [none .echo (.inl rfl)]
    exact sentAmong_none fun bytes sent type => other bytes sent (by simp_all)
  · rw [none .hello (.inr rfl)]
    exact sentAmong_none fun bytes sent type => other bytes sent (by simp_all)

theorem Called.replies {p q : Process} {call : Call} {started : Ani} {ofBuffer : Nat}
    {outcome : Outcome} {tables : Tables} (called : Called p call q started ofBuffer outcome)
    (shows : p.ani.Shows tables) (succeeds : call.Succeeds) : Replies [.handled call] := by
  have run := called.run
  have xid : call.xid = ntohl ((started.readBuffer.shift ofBuffer).load32 OfpHeader.xid) := by
    rw [Call.xid, called.message]
  have sentOnly (types : List UInt8) : sentAmong types [.handled call] =
      call.sent.filter fun bytes => messageType bytes ∈ types := by
    rw [sentAmong, List.flatMap_singleton]
    rfl
  cases handler : call.handler with
  | hello =>
      rw [handler] at run
      have sends := actionHello_sends (succeeds 0) ofBuffer started
      rw [Option.some.inj run, ← called.sent, ← xid] at sends
      constructor
      · rw [sentOnly, sends, callsOf_one, if_neg (by rw [handler]; decide)]
        rfl
      · rw [sentOnly, sends, callsOf_one, if_pos handler]
        rfl
  | echo =>
      rw [handler] at run
      obtain ⟨-, -, -, sends⟩ := actionEcho_spec (called.shows shows) (Option.some.inj run)
      rw [← called.sent, ← xid] at sends
      constructor
      · rw [sentOnly, sends, callsOf_one, if_pos handler]
        rfl
      · rw [sentOnly, sends, callsOf_one, if_neg (by rw [handler]; decide)]
        rfl
  | featuresReply =>
      rw [handler] at run
      obtain ⟨-, -, -, -, -, result⟩ := actionFeaturesReply_spec (called.shows shows) run
      refine .silent (fun bytes sent => ?_) ?_
      · have sentToo : bytes ∈ outcome.sent := called.sent ▸ sent
        split at result
        · rw [result.2.2.2.1] at sentToo
          cases sentToo
        · rw [result.2.2.2] at sentToo
          cases List.mem_singleton.mp sentToo
          exact show ofptSetConfig ∉ _ by decide
      · rintro other same
        cases same
        rw [handler]
        exact ⟨by decide, by decide⟩
  | packout =>
      refine .silent (fun bytes sent => ?_) ?_
      · have sentToo : bytes ∈ call.sent := sent
        rw [(called.packout shows handler).2] at sentToo
        rcases answer_type sentToo with packet | flow
        · rw [packet]
          decide
        · rw [flow]
          decide
      · rintro other same
        cases same
        rw [handler]
        exact ⟨by decide, by decide⟩

theorem Process.Step.replies {p q : Process} {event : Event} {tables : Tables}
    (step : Process.Step p event q) (shows : p.ani.Shows tables)
    (succeeds : ∀ call, event = .handled call → call.Succeeds) : Replies [event] := by
  cases event with
  | handled call =>
      obtain ⟨started, ofBuffer, outcome, called⟩ := step.called
      exact called.replies shows (succeeds call rfl)
  | shared index bytes =>
      refine .silent (fun other sent => ?_) nofun
      have packet : messageType bytes = ofptPacketOut := by
        rcases step.shared_cases with ⟨port, rfl⟩ | ⟨_, reply, -, rfl⟩
        · rfl
        · rfl
      cases List.mem_singleton.mp sent
      rw [packet]
      decide
  | _ => exact .silent nofun nofun

/-- Over a whole run every request is answered under its own number. -/
theorem replies_run {cbench : Bool} {events : List Event} {p : Process}
    (run : Process.Reaches cbench events p)
    (succeed : ∀ call, .handled call ∈ events → call.Succeeds) : Replies events := by
  induction run with
  | refl => exact ⟨rfl, rfl⟩
  | @snoc events middle finish event earlier step inductionHypothesis =>
      obtain ⟨tables, shows, -⟩ := Process.Reaches.tables earlier
      refine (inductionHypothesis fun call happened =>
        succeed call (List.mem_append_left _ happened)).append (step.replies shows ?_)
      rintro call rfl
      exact succeed call (List.mem_append_right _ (List.mem_singleton_self _))

/-! ## Bodies -/

/-- The reply has no body. -/
theorem echoes_iff (call : Call) :
    Echoes call (headerMessage ofptEchoReply call.xid) ↔
      statedLength call.message ≤ OfpHeader.size := by
  have xid : be32 (headerMessage ofptEchoReply call.xid) OfpHeader.xid = call.xid := be32_eq rfl
  have bare : (headerMessage ofptEchoReply call.xid).drop OfpHeader.size = [] := rfl
  have length : call.body.length = statedLength call.message - OfpHeader.size :=
    Memory.length_slice _ _ _
  constructor
  · intro echoes
    rw [← echoes.body, bare, List.length_nil] at length
    exact Nat.le_of_sub_eq_zero length.symm
  · intro short
    rw [Nat.sub_eq_zero_of_le short] at length
    exact ⟨xid, bare.trans (List.eq_nil_of_length_eq_zero length).symm⟩

theorem Replies.echoed_iff {events : List Event} (replies : Replies events) :
    List.Forall₂ Echoes (callsOf .echo events) (sentAmong [ofptEchoReply] events) ↔
      ∀ call ∈ callsOf .echo events, statedLength call.message ≤ OfpHeader.size := by
  rw [replies.echoes, List.forall₂_map_right_iff, List.forall₂_same]
  exact forall₂_congr fun call _ => echoes_iff call

/-- When its sends succeed, every run pairs replies with requests exactly as
long as no echo request that is handled in it has a body. -/
theorem paired_iff {cbench : Bool} {events : List Event} {p : Process}
    (run : Process.Reaches cbench events p)
    (succeed : ∀ call, .handled call ∈ events → call.Succeeds) :
    Paired events ↔ ∀ call ∈ callsOf .echo events, statedLength call.message ≤ OfpHeader.size := by
  have replies := replies_run run succeed
  exact ⟨fun paired => replies.echoed_iff.mp paired.echoes,
    fun bodiless => ⟨replies.echoed_iff.mpr bodiless, replies.greetings⟩⟩

/-- An echo request with a body of the given octets. -/
def echoWithBody (body : List UInt8) : List UInt8 :=
  List.flatten [[ofpVersion, ofptEchoRequest], network 2 (OfpHeader.size + body.length),
    network 4 5, body]

/-- A delivery, after which the echo requests have the given lengths. -/
theorem deliver_echo {body : List UInt8} {lengths : List Nat}
    (computed : ((Process.initial false).deliverAll [(echoWithBody body, .calm)]).map
      (fun run => (callsOf .echo run.1).map fun call => statedLength call.message) =
        some lengths) :
    ∃ events p, (Process.initial false).deliverAll [(echoWithBody body, .calm)] = some (events, p) ∧
      Process.Reaches false events p ∧
      (∀ call, .handled call ∈ events → call.Succeeds) ∧
      (callsOf .echo events).map (fun call => statedLength call.message) = lengths := by
  obtain ⟨⟨events, p⟩, delivered, same⟩ := Option.map_eq_some_iff.mp computed
  refine ⟨events, p, delivered, Process.deliverAll_run delivered,
    fun call happened index => ?_, same⟩
  obtain ⟨chunk, given⟩ := (Process.deliverAll_events delivered).2 call happened
  rw [(Prod.mk.inj (List.mem_singleton.mp given)).2]
  exact Int.one_pos

/-- A request with a body is answered without it. -/
theorem echo_body_dropped :
    ¬ ∀ cbench events p, Process.Reaches cbench events p →
      (∀ call, .handled call ∈ events → call.Succeeds) → Paired events := by
  intro always
  have computed : ((Process.initial false).deliverAll [(echoWithBody [1, 2, 3, 4], .calm)]).map
      (fun run => (callsOf .echo run.1).map fun call => statedLength call.message) =
        some [12] := by decide
  obtain ⟨events, p, -, run, succeed, lengths⟩ := deliver_echo computed
  have short := (replies_run run succeed).echoed_iff.mp (always _ _ _ run succeed).echoes
  have member : 12 ∈ (callsOf .echo events).map fun call => statedLength call.message := by
    rw [lengths]
    exact List.mem_singleton_self 12
  obtain ⟨call, called, long⟩ := List.mem_map.mp member
  exact absurd (long ▸ short call called) (by decide)

theorem paired_iff_bodiless :
    ∃ events p, (Process.initial false).deliverAll [(echoWithBody [], .calm)] = some (events, p) ∧
      Paired events ∧ (callsOf .echo events).length = 1 := by
  have computed : ((Process.initial false).deliverAll [(echoWithBody [], .calm)]).map
      (fun run => (callsOf .echo run.1).map fun call => statedLength call.message) =
        some [8] := by decide
  obtain ⟨events, p, delivered, run, succeed, lengths⟩ := deliver_echo computed
  refine ⟨events, p, delivered, (paired_iff run succeed).mpr fun call called => ?_, ?_⟩
  · have member : statedLength call.message ∈
        (callsOf .echo events).map fun call => statedLength call.message :=
      List.mem_map_of_mem called
    rw [lengths] at member
    exact Nat.le_of_eq (List.mem_singleton.mp member)
  · simpa using congrArg List.length lengths

end DAIM.Ani41
