import DAIM.Ani41.Rounds

/-!
# The replies of a round

A reply that is recorded before the discovery thread goes through `sw_replys`
is answered in that round.  One that is recorded later is freed with the
others, and its port is probed again.
-/

namespace DAIM.Ani41

open DAIM.Library DAIM.OpenFlow DAIM.Linked DAIM.Com

/-! ## One step of a discovery thread -/

/-- What one step of a thread does to the replies that are still to be answered. -/
inductive Uses (s : Ani) (thread : Thread) (sent : Option (List UInt8))
    (before after : List SwitchReply) : Prop where
  | kept : after = before → Uses s thread sent before after
  | answered {reply : SwitchReply} : before = reply :: after →
      sent = some (headerBytes (nodePacketOut s.switchId reply.portNo)) →
      Uses s thread sent before after
  | rewound : before = [] → Uses s thread sent before after
  | freed : thread.place = .freeReplys → Uses s thread sent before after

theorem ShareStep.replys {index : Nat} {s next : Ani} {thread after : Thread}
    {sent : Option (List UInt8)} (step : ShareStep index s thread sent next after)
    (replys : s.swReplys.Steady thread.place.replysPhase) :
    next.swReplys.Steady after.place.replysPhase ∧
      Uses s thread sent (s.swReplys.remaining thread.place.replysPhase)
        (next.swReplys.remaining after.place.replysPhase) := by
  obtain ⟨place, portsCount⟩ := thread
  cases step with
  | lock locking free =>
      cases place <;> cases locking
      · exact ⟨replys, .kept rfl⟩
      · exact ⟨replys.start.1, .kept replys.start.2⟩
      · exact ⟨replys, .kept rfl⟩
      · exact ⟨replys, .kept rfl⟩
  | nextReply here got =>
      cases here
      obtain ⟨moved, remaining⟩ := replys.get got
      exact ⟨moved, .kept remaining⟩
  | noReply here got =>
      cases here
      obtain ⟨moved, remaining⟩ := replys.get got
      exact ⟨moved, .kept remaining⟩
  | shareNode here read =>
      cases here
      obtain ⟨moved, remaining⟩ := replys.used read
      exact ⟨moved, .answered remaining rfl⟩
  | rewindReplys here =>
      cases here
      exact ⟨replys.rewind, .rewound rfl⟩
  | freeReplys here freed =>
      cases here
      exact ⟨replys.free freed, .freed rfl⟩
  | resetRound here =>
      cases here
      exact ⟨replys, .kept rfl⟩
  | rewindLinks here =>
      cases here
      exact ⟨replys, .kept rfl⟩
  | unlockWait here =>
      cases here
      exact ⟨replys, .kept rfl⟩
  | unlockLinks here =>
      cases here
      exact ⟨replys, .kept rfl⟩
  | _ here _ =>
      cases here
      exact ⟨replys, .kept rfl⟩

/-! ## Calls -/

/-- A call records a reply while nobody holds the mutex, or leaves the replies alone. -/
theorem Call.Touches.replys {call : Call} {switchId : UInt64} {s next : Shared} {spawned : Bool}
    (touches : call.Touches switchId s next spawned) :
    call.IsReply ∧ s.linksMutex = none ∧
        s.swReplys.addFilled (call.env.objectAllocated 0) (call.env.blockAllocated 0)
          (replyEntry call.message) = some next.swReplys ∨
      ¬ call.IsReply ∧ next.swReplys = s.swReplys := by
  have notFeatures (handler : call.handler = .featuresReply) : ¬ call.IsReply :=
    fun reply => absurd (handler.symm.trans reply.1) (by decide)
  cases touches with
  | nothing _ notReply _ => exact .inr ⟨notReply, rfl⟩
  | reply reply free added => exact .inl ⟨reply, free, added⟩
  | node node _ _ => exact .inr ⟨node.not_isReply, rfl⟩
  | started handler _ _ => exact .inr ⟨notFeatures handler, rfl⟩
  | jammed handler _ _ _ => exact .inr ⟨notFeatures handler, rfl⟩

/-! ## The list of replies along a run -/

/-- The list of replies is where the traversal by the thread that holds the
mutex has left it. -/
def Process.SteadyReplys (p : Process) : Prop :=
  p.ani.swReplys.Steady (p.phase SharePlace.replysPhase)

theorem Process.Step.steadyReplys {p q : Process} {event : Event}
    (step : Process.Step p event q) (exclusive : p.Exclusive) (online : p.place.Online)
    (steady : p.SteadyReplys) : q.SteadyReplys := by
  have touches := step.touches
  unfold Process.SteadyReplys at steady ⊢
  cases touches with
  | kept _ _ _ _ shared threads =>
      rw [Process.phase_congr (congrArg Shared.linksMutex shared) threads,
        show q.ani.swReplys = p.ani.swReplys from congrArg Shared.swReplys shared]
      exact steady
  | freeLinks place _ _ _ _ =>
      rw [place] at online
      cases online
  | freeReplys place _ _ _ _ =>
      rw [place] at online
      cases online
  | called touch threads =>
      rw [touch.phase exclusive threads]
      rcases touch.replys with ⟨-, free, added⟩ | ⟨-, same⟩
      · rw [Process.phase_free free] at steady ⊢
        exact (steady.add added).1
      · rw [show q.ani.swReplys = p.ani.swReplys from same]
        exact steady
  | thread found share threads _ =>
      rcases share.phase replysPhase_guards exclusive found threads with
        ⟨before, now⟩ | ⟨same, phase⟩
      · rw [before] at steady
        rw [now]
        exact (share.replys steady).1
      · rw [phase, same]
        exact steady

theorem Process.Reaches.steadyReplys {cbench : Bool} {events : List Event} {p : Process}
    (run : Process.Reaches cbench events p) (lasts : Event.lost ∉ events) : p.SteadyReplys := by
  induction run with
  | refl => exact .inl ObjectList.AtPhase.empty
  | @snoc events middle finish event earlier step inductionHypothesis =>
      have before : Event.lost ∉ events := fun lost => lasts (List.mem_append_left _ lost)
      have online := (session_knows .refl (.inl rfl) earlier before).1
      exact step.steadyReplys (Process.Reaches.exclusive earlier) online
        (inductionHypothesis before)

/-! ## Answers -/

/-- The port that a `NODE` is sent out of. -/
def nodePort (bytes : List UInt8) : Option UInt16 :=
  match PacketOut.decode bytes with
  | none => none
  | some packet =>
      if packet.data.getD (OfEthernet.size + AnimHeader.type) 0 = animNode then
        packet.actions.head?.map ActionOutput.port
      else none

theorem nodePort_discoveryPacket (port : UInt16) (message : DiscoveryMessage) :
    nodePort (discoveryPacket port message).encode =
      if message.type = animNode then some port else none := by
  rw [nodePort, discoveryPacket_decode]
  cases message <;> rfl

def Event.nodePort : Event → Option UInt16
  | .shared _ bytes => Ani41.nodePort bytes
  | _ => none

/-- The number of `NODE` messages that were sent out of the port. -/
def nodesTo (port : UInt16) (events : List Event) : Nat :=
  events.countP fun event => event.nodePort = some port

/-- The number of replies that came in on the port. -/
def replysTo (port : UInt16) (replys : List SwitchReply) : Nat :=
  replys.countP fun reply => reply.portNo = port

theorem nodesTo_append (port : UInt16) (first second : List Event) :
    nodesTo port (first ++ second) = nodesTo port first + nodesTo port second :=
  List.countP_append

theorem replysTo_append (port : UInt16) (first second : List SwitchReply) :
    replysTo port (first ++ second) = replysTo port first + replysTo port second :=
  List.countP_append

/-- One reply, one node. -/
theorem nodesTo_node (port : UInt16) (index : Nat) (switchId : UInt64) (reply : SwitchReply) :
    nodesTo port [.shared index (headerBytes (nodePacketOut switchId reply.portNo))] =
      replysTo port [reply] := by
  have sent : (Event.shared index (headerBytes (nodePacketOut switchId reply.portNo))).nodePort =
      some reply.portNo := by
    rw [Event.nodePort, nodePacketOut_bytes, nodePort_discoveryPacket]
    rfl
  rw [nodesTo, replysTo, List.countP_singleton, List.countP_singleton, sent]
  simp

/-- The places of a round up to the traversal of the replies. -/
def SharePlace.Early : SharePlace → Prop
  | .lockRound | .resetRound | .probe _ | .lockReplys => True
  | _ => False

/-- The places of a round before the wait for links. -/
def SharePlace.BeforeWait : SharePlace → Prop
  | .lockRound | .resetRound | .probe _ | .lockReplys | .nextReply | .shareNode _
  | .rewindReplys => True
  | _ => False

theorem SharePlace.Early.beforeWait {place : SharePlace} (early : place.Early) :
    place.BeforeWait := by
  cases place <;> first | exact early | trivial

/-- The replies of the port that were owed an answer have been answered, or are
still to come in the traversal. -/
def Pending (port : UInt16) (owed : Nat) (events : List Event) (p : Process) : Prop :=
  owed ≤ nodesTo port events ∨
    (∀ thread ∈ p.threads, thread.place.BeforeWait) ∧
      owed ≤ nodesTo port events +
        replysTo port (p.ani.swReplys.remaining (p.phase SharePlace.replysPhase))

/-- A thread leaves the places before the wait where it has rewound the replies. -/
theorem ShareStep.beforeWait {index : Nat} {s next : Ani} {thread after : Thread}
    {sent : Option (List UInt8)} (step : ShareStep index s thread sent next after)
    (before : thread.place.BeforeWait) (notEnd : thread.place ≠ .rewindReplys) :
    after.place.BeforeWait := by
  obtain ⟨place, portsCount⟩ := thread
  cases step with
  | lock locking free =>
      cases place <;> cases locking
      · trivial
      · trivial
      · exact absurd before id
      · exact absurd before id
  | resetRound here => trivial
  | rewindReplys here => exact absurd here notEnd
  | rewindLinks here =>
      cases here
      exact absurd before id
  | unlockWait here =>
      cases here
      exact absurd before id
  | unlockLinks here => trivial
  | probe here _ => trivial
  | probed here _ => trivial
  | nextReply here _ => trivial
  | noReply here _ => trivial
  | shareNode here _ => trivial
  | _ here _ =>
      cases here
      exact absurd before id

/-- The thread that steps is at a place before the wait, and goes on to another
such place while there is something to answer. -/
theorem ShareStep.alone {index : Nat} {p q : Process} {thread after : Thread}
    {sent : Option (List UInt8)} (share : ShareStep index p.ani thread sent q.ani after)
    (found : p.threads[index]? = some thread) (threads : q.threads = p.threads.set index after)
    (single : q.threads.length ≤ 1) (waits : thread.place.BeforeWait)
    (notEnd : thread.place ≠ .rewindReplys) : ∀ other ∈ q.threads, other.place.BeforeWait := by
  intro other running
  have only : p.threads = [thread] := by
    have running := List.mem_of_getElem? found
    have some := List.length_pos_of_mem running
    rw [threads, List.length_set] at single
    obtain ⟨one, same⟩ := List.length_eq_one_iff.mp (Nat.le_antisymm single some)
    rw [same] at running ⊢
    rw [List.mem_singleton.mp running]
  rw [threads, only] at running
  rcases List.mem_or_eq_of_mem_set running with old | rfl
  · cases List.mem_singleton.mp old
    exact waits
  · exact share.beforeWait waits notEnd

theorem Pending.step {port : UInt16} {owed : Nat} {events : List Event} {p q : Process}
    {event : Event} (pending : Pending port owed events p) (step : Process.Step p event q)
    (exclusive : p.Exclusive) (online : p.place.Online) (steady : p.SteadyReplys)
    (single : q.threads.length ≤ 1) : Pending port owed (events ++ [event]) q := by
  unfold Pending at pending ⊢
  rw [nodesTo_append]
  rcases pending with done | ⟨before, still⟩
  · exact .inl (Nat.le_trans done (Nat.le_add_right _ _))
  have kept (alone : ∀ thread ∈ q.threads, thread.place.BeforeWait)
      (remaining : replysTo port (p.ani.swReplys.remaining (p.phase SharePlace.replysPhase)) ≤
        nodesTo port [event] +
          replysTo port (q.ani.swReplys.remaining (q.phase SharePlace.replysPhase))) :
      owed ≤ nodesTo port events + nodesTo port [event] ∨
        (∀ thread ∈ q.threads, thread.place.BeforeWait) ∧
          owed ≤ nodesTo port events + nodesTo port [event] +
            replysTo port (q.ani.swReplys.remaining (q.phase SharePlace.replysPhase)) :=
    .inr ⟨alone, by omega⟩
  have touches := step.touches
  unfold Process.SteadyReplys at steady
  cases touches with
  | kept _ _ _ _ shared threads =>
      apply kept (threads ▸ before)
      rw [Process.phase_congr (congrArg Shared.linksMutex shared) threads,
        show q.ani.swReplys = p.ani.swReplys from congrArg Shared.swReplys shared]
      exact Nat.le_add_left _ _
  | freeLinks place _ _ _ _ =>
      rw [place] at online
      cases online
  | freeReplys place _ _ _ _ =>
      rw [place] at online
      cases online
  | @called call spawned _ touch threads =>
      apply kept
      · intro thread running
        rw [threads] at running
        unfold spawn at running
        split at running
        · rcases List.mem_append.mp running with old | new
          · exact before thread old
          · cases List.mem_singleton.mp new
            trivial
        · exact before thread running
      · rw [touch.phase exclusive threads]
        rcases touch.replys with ⟨-, free, added⟩ | ⟨-, same⟩
        · rw [Process.phase_free free] at steady ⊢
          have grown : q.ani.swReplys.contents = p.ani.swReplys.contents ++ _ :=
            (steady.add added).2
          show replysTo port p.ani.swReplys.contents ≤ _ + replysTo port q.ani.swReplys.contents
          rw [grown, replysTo_append]
          omega
        · rw [show q.ani.swReplys = p.ani.swReplys from same]
          exact Nat.le_add_left _ _
  | @thread index thread after sent _ found share threads _ =>
      have waits := before thread (List.mem_of_getElem? found)
      by_cases atEnd : thread.place = .rewindReplys
      · -- nothing is left to answer
        rw [exclusive.phase found (atEnd ▸ trivial), atEnd] at still
        exact .inl (Nat.le_trans still (Nat.le_add_right _ _))
      apply kept (share.alone found threads single waits atEnd)
      rcases share.phase replysPhase_guards exclusive found threads with
        ⟨phase, now⟩ | ⟨same, phase⟩
      · rw [phase] at steady ⊢
        rw [now]
        cases (share.replys steady).2 with
        | kept same =>
            rw [same]
            exact Nat.le_add_left _ _
        | rewound nothing =>
            rw [nothing]
            exact Nat.zero_le _
        | freed place =>
            rw [place] at waits
            exact waits.elim
        | answered remaining node =>
            rw [remaining, node]
            show replysTo port ([_] ++ _) ≤ nodesTo port [.shared index _] + _
            rw [nodesTo_node, replysTo_append]
            exact Nat.le_refl _
      · rw [phase, same]
        exact Nat.le_add_left _ _

/-! ## Whole rounds -/

/-- No thread ends. -/
theorem Process.Touches.threads_le {p q : Process} {event : Event}
    (touches : p.Touches event q) : p.threads.length ≤ q.threads.length := by
  cases touches with
  | kept _ _ _ _ _ threads => exact Nat.le_of_eq (congrArg List.length threads.symm)
  | freeLinks _ _ _ _ threads => exact Nat.le_of_eq (congrArg List.length threads.symm)
  | freeReplys _ _ _ _ threads => exact Nat.le_of_eq (congrArg List.length threads.symm)
  | called _ threads =>
      rw [threads]
      unfold spawn
      split
      · rw [List.length_append]
        exact Nat.le_add_right _ _
      · exact Nat.le_refl _
  | thread _ _ threads _ =>
      rw [threads, List.length_set]

theorem Pending.run {cbench : Bool} {before more : List Event} {p q : Process} {port : UInt16}
    {owed : Nat} (earlier : Process.Reaches cbench before p) (rest : Run Process.Step p more q)
    (pending : Pending port owed [] p) (lasted : Event.lost ∉ before) (lasts : Event.lost ∉ more)
    (single : q.threads.length ≤ 1) : Pending port owed more q := by
  induction rest with
  | refl => exact pending
  | @snoc events middle finish event run step inductionHypothesis =>
      have alone : middle.threads.length ≤ 1 := Nat.le_trans step.touches.threads_le single
      have lastsNow : Event.lost ∉ events := fun lost => lasts (List.mem_append_left _ lost)
      have reached : Process.Reaches cbench (before ++ events) middle := earlier.trans run
      have unbroken : Event.lost ∉ before ++ events := fun lost =>
        (List.mem_append.mp lost).elim lasted lastsNow
      have online := (session_knows .refl (.inl rfl) reached unbroken).1
      exact (inductionHypothesis lastsNow alone).step step reached.exclusive online
        (reached.steadyReplys unbroken) single

/-- A reply that is recorded before the discovery thread takes the mutex to go
through the replies has been answered by a `NODE` out of its port when the
thread is about to free the replies, and so has every other reply that was in
the table with it, each by a `NODE` of its own. -/
theorem replys_answered {cbench : Bool} {before more : List Event} {p middle q : Process}
    {call : Call} (run : Process.Reaches cbench before p)
    (recorded : Process.Step p (.handled call) middle) (reply : call.IsReply)
    (allocated : call.env.allocated 0 = true)
    (early : ∀ thread ∈ p.threads, thread.place.Early)
    (rest : Run Process.Step middle more q) (lasted : Event.lost ∉ before)
    (lasts : Event.lost ∉ more) (single : q.threads.length ≤ 1)
    (freeing : ∃ thread ∈ q.threads, thread.place = .freeReplys) :
    0 < nodesTo (parsePacketIn call.message).inPort more ∧
      ∀ port, replysTo port middle.ani.swReplys.contents ≤ nodesTo port more := by
  have steady := run.steadyReplys lasted
  obtain ⟨started, ofBuffer, outcome, called⟩ := recorded.called
  have touch := called.touches
  obtain ⟨-, free, added⟩ := touch.replys.resolve_right fun other => other.1 reply
  have reached : Process.Reaches cbench (before ++ [.handled call]) middle := run.snoc recorded
  have unbroken : Event.lost ∉ before ++ [.handled call] := fun lost =>
    (List.mem_append.mp lost).elim lasted (by simp)
  have phase : middle.phase SharePlace.replysPhase = .idle :=
    (touch.phase run.exclusive called.threads).trans (Process.phase_free free)
  have waits : ∀ thread ∈ middle.threads, thread.place.BeforeWait := by
    intro thread running
    rw [called.threads] at running
    unfold spawn at running
    split at running
    · rcases List.mem_append.mp running with old | new
      · exact (early thread old).beforeWait
      · cases List.mem_singleton.mp new
        trivial
    · exact (early thread running).beforeWait
  have answered (port : UInt16) :
      replysTo port middle.ani.swReplys.contents ≤ nodesTo port more := by
    have pending : Pending port (replysTo port middle.ani.swReplys.contents) [] middle := by
      refine .inr ⟨waits, ?_⟩
      rw [phase]
      exact Nat.le_add_left _ _
    rcases pending.run reached rest unbroken lasts single with done | ⟨still, -⟩
    · exact done
    · obtain ⟨thread, running, place⟩ := freeing
      have misplaced := still thread running
      rw [place] at misplaced
      exact misplaced.elim
  refine ⟨Nat.lt_of_lt_of_le ?_ (answered _), answered⟩
  -- the reply itself is in the table
  unfold Process.SteadyReplys at steady
  rw [Process.phase_free free] at steady
  have grown : middle.ani.swReplys.contents = p.ani.swReplys.contents ++ _ := (steady.add added).2
  obtain ⟨object, block⟩ := allocated_both allocated
  rw [grown, object, block, replysTo_append]
  have one : replysTo (parsePacketIn call.message).inPort [replyEntry call.message] = 1 := by
    simp [replysTo, replyEntry]
  rw [Bool.and_self, if_pos rfl, one]
  exact Nat.succ_pos _

/-! ## A reply before and after the nodes were sent -/

/-- What becomes of a process that is delivered a chunk between two sequences of moves. -/
def Process.playAround (p : Process) (first : List Move) (chunk : List UInt8)
    (second : List Move) : Option (Process × Call × Process × List Event × Process) := do
  let (_, before) ← p.play first
  let (call, middle) ← before.deliver chunk .calm
  let (more, q) ← middle.play second
  some (before, call, middle, more, q)

theorem Process.playAround_run {cbench : Bool} {first second : List Move} {chunk : List UInt8}
    {before middle q : Process} {call : Call} {more : List Event}
    (played : (Process.initial cbench).playAround first chunk second =
      some (before, call, middle, more, q)) (stays : ∀ move ∈ first ++ second, move.Stays) :
    ∃ events p, Process.Reaches cbench events p ∧ Process.Step p (.handled call) middle ∧
      p.threads = before.threads ∧ Run Process.Step middle more q ∧ Event.lost ∉ events ∧
      Event.lost ∉ more ∧ call.env = .calm := by
  obtain ⟨⟨events, p⟩, earlier, played⟩ := Option.bind_eq_some_iff.mp played
  obtain ⟨⟨taken, next⟩, delivered, played⟩ := Option.bind_eq_some_iff.mp played
  obtain ⟨⟨rest, last⟩, later, same⟩ := Option.bind_eq_some_iff.mp played
  cases same
  obtain ⟨start, received, handled⟩ := (Process.deliver_run delivered).cons_inv
  have unlost := (Process.play_events earlier).2 fun move member =>
    stays move (List.mem_append_left _ member)
  refine ⟨events ++ [.received chunk], start, (Process.play_run earlier).snoc received,
    handled.single_inv, ?_, Process.play_run later, ?_, ?_, Process.deliver_env delivered⟩
  · cases received
    rfl
  · simp [unlost]
  · exact (Process.play_events later).2 fun move member =>
      stays move (List.mem_append_right _ member)

/-- Through the wait of a round up to the place where the replies are freed. -/
def throughWait : List Move := List.replicate 48 (.share 0)

/-- A reply that comes in while the thread waits is freed without an answer. -/
theorem late_reply_freed :
    ¬ ∀ (cbench : Bool) (before more : List Event) (p middle q : Process) (call : Call),
      Process.Reaches cbench before p → Process.Step p (.handled call) middle → call.IsReply →
      call.env.allocated 0 = true → Run Process.Step middle more q → Event.lost ∉ before →
      Event.lost ∉ more → q.threads.length ≤ 1 →
      (∃ thread ∈ q.threads, thread.place = .freeReplys) →
      0 < nodesTo (parsePacketIn call.message).inPort more := by
  intro always
  let first : List Move := .deliver (featuresMessage 11 [1]) :: List.replicate 7 (.share 0)
  have computed : ((Process.initial false).playAround first (discoveryPacketIn 1 .echoReply)
      throughWait).map (fun (_, call, _, more, q) =>
        (decide call.IsReply, nodesTo (parsePacketIn call.message).inPort more, q.threads)) =
      some (true, 0, [⟨.freeReplys, 1⟩]) := by decide +kernel
  obtain ⟨⟨before, call, middle, more, q⟩, played, same⟩ := Option.map_eq_some_iff.mp computed
  simp only [Prod.mk.injEq, decide_eq_true_eq] at same
  obtain ⟨reply, none, threads⟩ := same
  have stays : ∀ move ∈ first ++ throughWait, move.Stays := by
    simp [first, throughWait, Move.Stays]
  obtain ⟨events, p, run, recorded, -, rest, lasted, lasts, calm⟩ :=
    Process.playAround_run played stays
  have answered := always false events more p middle q call run recorded reply (by rw [calm]; rfl)
    rest lasted lasts (by rw [threads]; decide)
      (by rw [threads]; exact ⟨_, List.mem_cons_self, rfl⟩)
  rw [none] at answered
  exact absurd answered (by decide)

/-- The same reply is answered when it comes in before the thread looks for replies. -/
theorem replys_answered_early :
    ∃ (more : List Event) (middle : Process), replysTo 1 middle.ani.swReplys.contents = 1 ∧
      0 < nodesTo 1 more ∧
      ∀ port, replysTo port middle.ani.swReplys.contents ≤ nodesTo port more := by
  let first : List Move := .deliver (featuresMessage 11 [1]) :: List.replicate 4 (.share 0)
  let second : List Move := List.replicate 5 (.share 0) ++ throughWait
  have computed : ((Process.initial false).playAround first (discoveryPacketIn 1 .echoReply)
      second).map (fun (before, call, middle, _, q) =>
        (before.threads, decide call.IsReply, (parsePacketIn call.message).inPort,
          replysTo 1 middle.ani.swReplys.contents, q.threads)) =
      some ([⟨.lockReplys, 1⟩], true, 1, 1, [⟨.freeReplys, 1⟩]) := by decide +kernel
  obtain ⟨⟨before, call, middle, more, q⟩, played, same⟩ := Option.map_eq_some_iff.mp computed
  simp only [Prod.mk.injEq, decide_eq_true_eq] at same
  obtain ⟨waits, reply, port, one, threads⟩ := same
  have stays : ∀ move ∈ first ++ second, move.Stays := by
    simp [first, second, throughWait, Move.Stays]
  obtain ⟨events, p, run, recorded, kept, rest, lasted, lasts, calm⟩ :=
    Process.playAround_run played stays
  have early : ∀ thread ∈ p.threads, thread.place.Early := by
    rw [kept, waits]
    simp [SharePlace.Early]
  have answered := replys_answered run recorded reply (by rw [calm]; rfl) early rest lasted lasts
    (by rw [threads]; decide) (by rw [threads]; exact ⟨_, List.mem_cons_self, rfl⟩)
  rw [port] at answered
  exact ⟨more, middle, one, answered⟩

end DAIM.Ani41
