import DAIM.Library.Mutex
import DAIM.Linked.Cursor
import DAIM.Ani41.Branches
import DAIM.Ani41.Tables

/-!
# What the threads share

The globals under `links_mutex`: what a call of a handler, the loss of a
connection and a discovery thread do to them, and that at most one of the
threads is ever between `lock` and `unlock`.
-/

namespace DAIM.Ani41

open DAIM.Library DAIM.OpenFlow DAIM.Linked

/-- The links that a console line prints. -/
def Line.link? : Line → Option SwitchLink
  | .link entry => some entry
  | _ => none

/-- The mutex, the two lists and the counter that it protects, and the links
that were printed. -/
structure Shared where
  linksMutex : Option Owner
  swReplys : ObjectList SwitchReply
  animNodeCounter : Int
  links : ObjectList SwitchLink
  printed : List SwitchLink

def Ani.shared (s : Ani) : Shared :=
  ⟨s.linksMutex, s.swReplys, s.animNodeCounter, s.links, s.console.filterMap Line.link?⟩

/-- The link that a call records, unless it cannot be allocated. -/
def Call.IsNode (call : Call) : Prop :=
  call.handler = .packout ∧ IsDiscovery call.message animNode

/-- The call records a reply, unless it cannot be allocated. -/
def Call.IsReply (call : Call) : Prop :=
  call.handler = .packout ∧ IsDiscovery call.message animEchoReply

instance (call : Call) : Decidable call.IsNode := inferInstanceAs (Decidable (_ ∧ _))

instance (call : Call) : Decidable call.IsReply := inferInstanceAs (Decidable (_ ∧ _))

theorem Call.IsNode.not_isReply {call : Call} (node : call.IsNode) : ¬ call.IsReply := by
  intro reply
  exact absurd (node.2.2.symm.trans reply.2.2) (by decide)

/-- The reply that an `ECHO_REPLY` is recorded as. -/
def replyEntry (message : Memory) : SwitchReply :=
  { portNo := (parsePacketIn message).inPort, received := true }

/-- The number of ports that a features reply names, as `action_features_reply`
computes it. -/
def featuresCount (message : Memory) : Int :=
  portCount (ntohs (message.load16 OfpHeader.length))

/-! ## Calls of handlers -/

/-- What a call does to the shared globals, and whether it starts a thread. -/
inductive Call.Touches (call : Call) (switchId : UInt64) (s : Shared) : Shared → Bool → Prop where
  | nothing : ¬ call.IsNode → ¬ call.IsReply → call.handler ≠ .featuresReply →
      Touches call switchId s s false
  | reply {replys : ObjectList SwitchReply} : call.IsReply → s.linksMutex = none →
      s.swReplys.addFilled (call.env.objectAllocated 0) (call.env.blockAllocated 0)
        (replyEntry call.message) = some replys →
      Touches call switchId s { s with swReplys := replys } false
  | node {links : ObjectList SwitchLink} : call.IsNode → s.linksMutex = none →
      s.links.addFilled (call.env.objectAllocated 0) (call.env.blockAllocated 0)
        (linkEntry switchId call.message) = some links →
      Touches call switchId s { s with links := links, animNodeCounter := 0 } false
  | started : call.handler = .featuresReply → featuresCount call.message ≠ 0 →
      s.linksMutex = none → Touches call switchId s s call.env.threadCreated
  -- the function returns while it holds the mutex
  | jammed : call.handler = .featuresReply → featuresCount call.message = 0 →
      s.linksMutex = none → call.result = -1 →
      Touches call switchId s { s with linksMutex := some .main } false

section Handlers

variable {env : Env} {ofBuffer : Nat} {s : Ani} {outcome : Outcome}

theorem printed_eq {Entry : Type} (console : List Line) (printed : List Entry)
    (line : Entry → Line) (other : ∀ entry, (line entry).link? = none) :
    (console ++ printed.map line).filterMap Line.link? = console.filterMap Line.link? := by
  have none : (printed.map line).filterMap Line.link? = [] := by
    simp [List.filterMap_map, other]
  rw [List.filterMap_append, none, List.append_nil]

theorem stable_shared (env : Env) (shared : Shared) :
    Stable env fun s => s.shared = shared where
  learnt := by
    intro s hosts printed kept
    unfold Ani.shared
    rw [printed_eq s.console printed Line.host fun _ => rfl]
    exact kept
  looked := fun _ _ kept => kept
  sent := fun _ _ kept => kept

theorem actionHello_shared (env : Env) (ofBuffer : Nat) (s : Ani) :
    (actionHello env ofBuffer s).ani.shared = s.shared ∧
    (actionHello env ofBuffer s).spawned = false := by
  refine ⟨?_, actionHello_spawned env ofBuffer s⟩
  rw [actionHello_frame]
  rfl

theorem actionEcho_shared (env : Env) (ofBuffer : Nat) (s : Ani) :
    (actionEcho env ofBuffer s).ani.shared = s.shared ∧
    (actionEcho env ofBuffer s).spawned = false := by
  refine ⟨?_, actionEcho_spawned env ofBuffer s⟩
  rw [actionEcho_frame]
  rfl

/-- The branches that are not for discovery messages. -/
theorem packoutBranch_shared {message : Memory} {packet : PacketIn} {sending : Sending}
    (notLldp : packet.type ≠ lldpData) (run : packoutBranch env message packet s = some sending) :
    sending.1.shared = s.shared :=
  (stable_shared env s.shared).packoutBranch rfl (fun lldp => absurd lldp notLldp) run

/-- What the branch for discovery messages does. -/
theorem packoutLldp_shared {message : Memory} {sending : Sending}
    (run : packoutLldp env message (parsePacketIn message) s = some sending) :
    s.linksMutex = none ∧
      (payload message AnimHeader.type ≠ animEchoReply →
        payload message AnimHeader.type ≠ animNode → sending.1.shared = s.shared) ∧
      (payload message AnimHeader.type = animEchoReply →
        ∃ replys, s.swReplys.addFilled (env.objectAllocated 0) (env.blockAllocated 0)
            (replyEntry message) = some replys ∧
          sending.1.shared = { s.shared with swReplys := replys }) ∧
      (payload message AnimHeader.type = animNode →
        ∃ links, s.links.addFilled (env.objectAllocated 0) (env.blockAllocated 0)
            (linkEntry s.switchId message) = some links ∧
          sending.1.shared = { s.shared with links := links, animNodeCounter := 0 }) := by
  unfold packoutLldp at run
  simp only at run
  split at run
  · cases run
  · rename_i free
    refine ⟨not_not.mp free, ?_⟩
    split at run
    · rename_i request
      cases run
      refine ⟨fun _ _ => rfl, fun reply => ?_, fun node => ?_⟩
      · exact absurd (request.symm.trans reply) (by decide)
      · exact absurd (request.symm.trans node) (by decide)
    · split at run
      · rename_i reply
        split at run
        · cases run
        · rename_i replys fill
          cases run
          refine ⟨fun notReply => absurd reply notReply, fun _ => ⟨replys, fill, rfl⟩,
            fun node => ?_⟩
          exact absurd (reply.symm.trans node) (by decide)
      · rename_i notReply
        split at run
        · rename_i node
          split at run
          · cases run
          · rename_i links fill
            cases run
            exact ⟨fun _ notNode => absurd node notNode, fun reply => absurd reply notReply,
              fun _ => ⟨links, fill, rfl⟩⟩
        · rename_i notNode
          cases run
          exact ⟨fun _ _ => rfl, fun reply => absurd reply notReply,
            fun node => absurd node notNode⟩

/-- What handling a packet does to the shared globals. -/
structure Discovered (env : Env) (message : Memory) (s : Ani) (next : Shared) : Prop where
  other : ¬ IsDiscovery message animEchoReply → ¬ IsDiscovery message animNode → next = s.shared
  reply : IsDiscovery message animEchoReply → s.linksMutex = none ∧
    ∃ replys, s.swReplys.addFilled (env.objectAllocated 0) (env.blockAllocated 0)
        (replyEntry message) = some replys ∧ next = { s.shared with swReplys := replys }
  node : IsDiscovery message animNode → s.linksMutex = none ∧
    ∃ links, s.links.addFilled (env.objectAllocated 0) (env.blockAllocated 0)
        (linkEntry s.switchId message) = some links ∧
      next = { s.shared with links := links, animNodeCounter := 0 }

/-- A new transaction id changes none of it. -/
theorem Discovered.started {message : Memory} {transactionId : UInt32} {next : Shared}
    (discovered : Discovered env message { s with transactionId := transactionId } next) :
    Discovered env message s next where
  other := discovered.other
  reply := discovered.reply
  node := discovered.node

theorem packoutBranch_discovered {message : Memory} {sending : Sending}
    (run : packoutBranch env message (parsePacketIn message) s = some sending) :
    Discovered env message s sending.1.shared := by
  by_cases lldp : (parsePacketIn message).type = lldpData
  · unfold packoutBranch at run
    rw [if_neg (ne_of_eq_of_ne lldp (by decide)), if_neg (ne_of_eq_of_ne lldp (by decide)),
      if_neg (ne_of_eq_of_ne lldp (by decide)), if_pos lldp] at run
    obtain ⟨free, other, reply, node⟩ := packoutLldp_shared run
    constructor
    · intro notReply notNode
      exact other (fun is => notReply ⟨lldp, is⟩) (fun is => notNode ⟨lldp, is⟩)
    · exact fun is => ⟨free, reply is.2⟩
    · exact fun is => ⟨free, node is.2⟩
  · have same := packoutBranch_shared lldp run
    exact ⟨fun _ _ => same, fun is => absurd is.1 lldp, fun is => absurd is.1 lldp⟩

theorem actionPackout_shared (run : actionPackout env ofBuffer s = some outcome) :
    outcome.spawned = false ∧
      Discovered env (s.readBuffer.shift ofBuffer) s outcome.ani.shared := by
  unfold actionPackout at run
  simp only at run
  split at run
  · cases run
  · rename_i ended sent branch
    have started := (packoutBranch_discovered branch).started
    split at run <;> cases run <;> exact ⟨rfl, started⟩

theorem actionFeaturesReply_shared
    (run : actionFeaturesReply env ofBuffer s = some outcome) :
    s.linksMutex = none ∧
      if featuresCount (s.readBuffer.shift ofBuffer) = 0 then
        outcome.ani.shared = { s.shared with linksMutex := some .main } ∧
          outcome.spawned = false ∧ outcome.result = -1
      else
        outcome.ani.shared = s.shared ∧ outcome.spawned = env.threadCreated := by
  unfold actionFeaturesReply at run
  simp only at run
  split at run
  · cases run
  · rename_i free
    have isFree : s.linksMutex = none := not_not.mp free
    refine ⟨isFree, ?_⟩
    split at run
    · rename_i noPorts
      have zero : featuresCount (s.readBuffer.shift ofBuffer) = 0 := noPorts
      rw [if_pos zero]
      cases run
      exact ⟨rfl, rfl, rfl⟩
    · rename_i somePorts
      have nonzero : featuresCount (s.readBuffer.shift ofBuffer) ≠ 0 := somePorts
      rw [if_neg nonzero]
      split at run
      · cases run
      · split at run
        · cases run
        · rename_i shown printed print
          cases run
          refine ⟨?_, sendSwitchConfig_spawned env _⟩
          rw [sendSwitchConfig_frame]
          have lines := printed_eq s.console printed Line.port fun _ => rfl
          simp [Ani.writing, Ani.shared, lines, isFree]

end Handlers

theorem Called.shared {p q : Process} {call : Call} {started : Ani} {ofBuffer : Nat}
    {outcome : Outcome} (called : Called p call q started ofBuffer outcome) :
    started.shared = p.ani.shared ∧ q.ani.shared = outcome.ani.shared := by
  rw [called.pointers, called.ended]
  exact ⟨rfl, rfl⟩

theorem Called.touches {p q : Process} {call : Call} {started : Ani} {ofBuffer : Nat}
    {outcome : Outcome} (called : Called p call q started ofBuffer outcome) :
    call.Touches p.ani.switchId p.ani.shared q.ani.shared outcome.spawned := by
  obtain ⟨begins, ends⟩ := called.shared
  have run := called.run
  have message := called.message
  rw [← called.switchId, ← begins, ends]
  have plain (handler : call.handler ≠ .packout) : ¬ call.IsNode ∧ ¬ call.IsReply :=
    ⟨fun node => handler node.1, fun reply => handler reply.1⟩
  cases handler : call.handler with
  | hello =>
      rw [handler] at run
      cases run
      obtain ⟨same, unspawned⟩ := actionHello_shared call.env ofBuffer started
      rw [same, unspawned]
      obtain ⟨notNode, notReply⟩ := plain (by simp [handler])
      exact .nothing notNode notReply (by simp [handler])
  | echo =>
      rw [handler] at run
      cases run
      obtain ⟨same, unspawned⟩ := actionEcho_shared call.env ofBuffer started
      rw [same, unspawned]
      obtain ⟨notNode, notReply⟩ := plain (by simp [handler])
      exact .nothing notNode notReply (by simp [handler])
  | featuresReply =>
      rw [handler] at run
      obtain ⟨free, result⟩ := actionFeaturesReply_shared run
      rw [← message] at result
      split at result
      · rename_i zero
        obtain ⟨same, unspawned, failed⟩ := result
        rw [same, unspawned]
        refine .jammed handler zero free ?_
        rw [called.made]
        exact failed
      · rename_i nonzero
        rw [result.1, result.2]
        exact .started handler nonzero free
  | packout =>
      rw [handler] at run
      obtain ⟨unspawned, discovered⟩ := actionPackout_shared run
      rw [← message] at discovered
      rw [unspawned]
      have notFeatures : call.handler ≠ .featuresReply := by simp [handler]
      by_cases isReply : IsDiscovery call.message animEchoReply
      · obtain ⟨free, replys, fill, same⟩ := discovered.reply isReply
        rw [same]
        exact .reply ⟨handler, isReply⟩ free fill
      · by_cases isNode : IsDiscovery call.message animNode
        · obtain ⟨free, links, fill, same⟩ := discovered.node isNode
          rw [same]
          exact .node ⟨handler, isNode⟩ free fill
        · rw [discovered.other isReply isNode]
          exact .nothing (fun is => isNode is.2) (fun is => isReply is.2) notFeatures

/-! ## Steps of the process -/

/-- What a step does to the shared globals and to the threads. -/
inductive Process.Touches (p : Process) : Event → Process → Prop where
  | kept {event : Event} {q : Process} : (∀ call, event ≠ .handled call) →
      (∀ index bytes, event ≠ .shared index bytes) →
      p.place ≠ .freeLinks → p.place ≠ .freeReplys →
      q.ani.shared = p.ani.shared → q.threads = p.threads → Touches p event q
  | called {call : Call} {spawned : Bool} {q : Process} :
      call.Touches p.ani.switchId p.ani.shared q.ani.shared spawned →
      q.threads = spawn p.threads spawned → Touches p (.handled call) q
  | freeLinks {links : ObjectList SwitchLink} {count : Int} {q : Process} :
      p.place = .freeLinks → q.place = .freeReplys →
      p.ani.links.freeList = some (links, count) →
      q.ani.shared = { p.ani.shared with links := links } → q.threads = p.threads →
      Touches p .internal q
  | freeReplys {replys : ObjectList SwitchReply} {count : Int} {q : Process} :
      p.place = .freeReplys → q.place = .accepting →
      p.ani.swReplys.freeList = some (replys, count) →
      q.ani.shared = { p.ani.shared with swReplys := replys } → q.threads = p.threads →
      Touches p .internal q
  | thread {index : Nat} {thread after : Thread} {sent : Option (List UInt8)} {q : Process} :
      p.threads[index]? = some thread → ShareStep index p.ani thread sent q.ani after →
      q.threads = p.threads.set index after → q.place = p.place →
      Touches p (sent.elim .internal (.shared index)) q

theorem Process.Step.touches {p q : Process} {event : Event} (step : Process.Step p event q) :
    p.Touches event q := by
  cases event with
  | handled call =>
      obtain ⟨started, ofBuffer, outcome, called⟩ := step.called
      exact .called called.touches called.threads
  | shared index bytes =>
      cases step with
      | @shared s next place threads _ thread after _ found share =>
          exact @Touches.thread ⟨s, place, threads⟩ index thread after (some bytes)
            ⟨next, place, threads.set index after⟩ found share rfl rfl
  | internal =>
      cases step with
      | freeLinks freed => exact .freeLinks rfl rfl freed rfl rfl
      | freeReplys freed => exact .freeReplys rfl rfl freed rfl rfl
      | @thread s next place threads index thread after found share =>
          exact @Touches.thread ⟨s, place, threads⟩ index thread after none
            ⟨next, place, threads.set index after⟩ found share rfl rfl
      | ignored _ chosen =>
          obtain ⟨rfl, -⟩ := normalHandler_eq chosen
          exact .kept nofun nofun nofun nofun rfl rfl
      | unknown _ check =>
          obtain ⟨rfl, -⟩ := checkOpenflow_eq check
          exact .kept nofun nofun nofun nofun rfl rfl
      | skipped _ check _ =>
          obtain ⟨rfl, -⟩ := checkOpenflow_eq check
          exact .kept nofun nofun nofun nofun rfl rfl
      | _ => exact .kept nofun nofun nofun nofun rfl rfl
  | _ =>
      cases step
      exact .kept nofun nofun nofun nofun rfl rfl

/-- What a step means for one of the threads: it takes the step, or it stays
where it is and sends nothing. -/
theorem Process.Touches.thread_cases {p q : Process} {event : Event} {index : Nat}
    {thread : Thread} (touches : p.Touches event q) (found : p.threads[index]? = some thread) :
    (∃ sent after, ShareStep index p.ani thread sent q.ani after ∧
        q.threads[index]? = some after ∧ event = sent.elim .internal (.shared index)) ∨
      q.threads[index]? = some thread ∧ ∀ bytes, event ≠ .shared index bytes := by
  have running : index < p.threads.length := (List.getElem?_eq_some_iff.mp found).1
  cases touches with
  | kept _ silent _ _ _ threads => exact .inr ⟨threads ▸ found, silent index⟩
  | freeLinks _ _ _ _ threads => exact .inr ⟨threads ▸ found, nofun⟩
  | freeReplys _ _ _ _ threads => exact .inr ⟨threads ▸ found, nofun⟩
  | called _ threads =>
      refine .inr ⟨?_, nofun⟩
      rw [threads]
      unfold spawn
      split
      · rw [List.getElem?_append_left running, found]
      · exact found
  | @thread other moved after sent _ here share threads _ =>
      by_cases same : other = index
      · subst same
        cases here.symm.trans found
        exact .inl ⟨sent, after, share, by rw [threads, List.getElem?_set_self running], rfl⟩
      · refine .inr ⟨by rw [threads, List.getElem?_set_ne same, found], ?_⟩
        cases sent with
        | none => exact nofun
        | some _ =>
            rintro bytes ⟨⟩
            exact same rfl

/-! ## Mutual exclusion -/

/-- The places at which a thread holds `links_mutex`. -/
def SharePlace.Critical : SharePlace → Prop
  | .lockRound | .probe _ | .lockReplys | .lockWait | .lockLinks => False
  | _ => True

/-- A thread takes the mutex, gives it back, or leaves it where it is. -/
theorem ShareStep.mutex {index : Nat} {s next : Ani} {thread after : Thread}
    {sent : Option (List UInt8)} (step : ShareStep index s thread sent next after) :
    s.linksMutex = none ∧ after.place.Critical ∧ next.linksMutex = some (.thread index) ∨
      thread.place.Critical ∧ ¬ after.place.Critical ∧ next.linksMutex = none ∨
      (thread.place.Critical ↔ after.place.Critical) ∧ next.linksMutex = s.linksMutex := by
  obtain ⟨place, portsCount⟩ := thread
  cases step with
  | lock locking free =>
      refine .inl ⟨free, ?_, rfl⟩
      cases place <;> cases locking <;> trivial
  | resetRound here =>
      cases here
      exact .inr (.inl ⟨trivial, id, rfl⟩)
  | rewindReplys here =>
      cases here
      exact .inr (.inl ⟨trivial, id, rfl⟩)
  | waiting here _ =>
      cases here
      exact .inr (.inl ⟨trivial, id, rfl⟩)
  | unlockWait here =>
      cases here
      exact .inr (.inl ⟨trivial, id, rfl⟩)
  | unlockLinks here =>
      cases here
      exact .inr (.inl ⟨trivial, id, rfl⟩)
  | probe here _ =>
      cases here
      exact .inr (.inr ⟨Iff.rfl, rfl⟩)
  | probed here _ =>
      cases here
      exact .inr (.inr ⟨Iff.rfl, rfl⟩)
  | waited here _ =>
      cases here
      exact .inr (.inr ⟨Iff.rfl, rfl⟩)
  | rewindLinks here =>
      cases here
      exact .inr (.inr ⟨Iff.rfl, rfl⟩)
  | _ here _ =>
      cases here
      exact .inr (.inr ⟨Iff.rfl, rfl⟩)

/-- The number of an owner that is a discovery thread. -/
def Owner.number : Owner → Option Nat
  | .main => none
  | .thread index => some index

@[simp]
theorem Owner.number_main : Owner.main.number = none := rfl

@[simp]
theorem Owner.number_thread (index : Nat) : (Owner.thread index).number = some index := rfl

theorem Owner.eq_thread {held : Owner} {index : Nat} (numbered : held.number = some index) :
    held = .thread index := by
  cases held with
  | main => cases numbered
  | thread other => exact congrArg Owner.thread (Option.some.inj numbered)

/-- The mutex names the one thread that is at a critical place. -/
def Process.Exclusive (p : Process) : Prop :=
  ∀ index, p.ani.linksMutex = some (.thread index) ↔
    ∃ thread, p.threads[index]? = some thread ∧ thread.place.Critical

/-- A new thread waits for the mutex. -/
theorem spawn_excludes {mutex : Option Owner} {threads : List Thread} (spawned : Bool)
    (excludes :
      Excludes Owner.thread (fun thread : Thread => thread.place.Critical) mutex threads) :
    Excludes Owner.thread (fun thread : Thread => thread.place.Critical) mutex
      (spawn threads spawned) := by
  unfold spawn
  split
  · exact excludes.concat id
  · exact excludes

/-- A call that does not return to the loop keeps the mutex. -/
theorem Call.Touches.mutex {call : Call} {switchId : UInt64} {s next : Shared} {spawned : Bool}
    (touches : call.Touches switchId s next spawned) :
    next.linksMutex = s.linksMutex ∨
      s.linksMutex = none ∧ next.linksMutex = some .main ∧ call.result = -1 := by
  cases touches with
  | jammed _ _ free failed => exact .inr ⟨free, rfl, failed⟩
  | _ => exact .inl rfl

theorem Process.Touches.exclusive {p q : Process} {event : Event} (touches : p.Touches event q)
    (exclusive : p.Exclusive) : q.Exclusive := by
  have excludes : Excludes Owner.thread (fun thread : Thread => thread.place.Critical)
      p.ani.linksMutex p.threads := exclusive
  show Excludes Owner.thread (fun thread : Thread => thread.place.Critical)
    q.ani.linksMutex q.threads
  have same (mutex : q.ani.linksMutex = p.ani.linksMutex) (threads : q.threads = p.threads) :
      Excludes Owner.thread (fun thread : Thread => thread.place.Critical)
        q.ani.linksMutex q.threads := by
    rw [mutex, threads]
    exact excludes
  cases touches with
  | kept _ _ _ _ shared threads => exact same (congrArg Shared.linksMutex shared) threads
  | freeLinks _ _ _ shared threads => exact same (congrArg Shared.linksMutex shared) threads
  | freeReplys _ _ _ shared threads => exact same (congrArg Shared.linksMutex shared) threads
  | called touch threads =>
      rw [threads]
      apply spawn_excludes
      rcases touch.mutex with kept | ⟨free, jammed, -⟩
      · rw [show q.ani.linksMutex = p.ani.linksMutex from kept]
        exact excludes
      · have before : p.ani.linksMutex = none := free
        rw [show q.ani.linksMutex = some .main from jammed]
        exact excludes.foreign (by simp [before]) (by simp)
  | thread found share threads _ =>
      rw [threads]
      apply excludes.set (fun _ _ => Owner.thread.inj) found
      exact share.mutex

theorem Process.Reaches.exclusive {cbench : Bool} {events : List Event} {p : Process}
    (run : Process.Reaches cbench events p) : p.Exclusive := by
  apply Run.invariant (fun _ p => p.Exclusive) _ _ run
  · intro index
    simp [Process.initial, Ani.initial]
  · intro _ _ _ _ _ exclusive step
    exact step.touches.exclusive exclusive

end DAIM.Ani41
