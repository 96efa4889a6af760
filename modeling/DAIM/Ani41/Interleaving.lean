import DAIM.Ani41.Reconnect

/-!
# The lists under the mutex, operation by operation

The main thread and the discovery threads as far as they use `links_mutex`,
`sw_replys`, `links` and `anim_node_counter`.  A step is one operation of
`object_list`, one `lock` or one `unlock`, or an access to the counter; a
handler that is one step of the process is several steps here.  Which packets
arrive is left open.
-/

namespace DAIM.Ani41

open DAIM.Library DAIM.OpenFlow DAIM.Linked

inductive Operation where
  | lock
  | unlock
  | addObject
  | getObject
  | useObject
  | listRewind
  | freeList
  | other
  deriving DecidableEq, Repr

/-- Where the main thread is.  `lldp` and `features` hold the mutex, and so
does `recorded`, which has added what it received. -/
inductive MainStage where
  | away
  | lldp
  | recorded
  | features
  | configured
  | freeLinks
  | freeReplys
  | exited
  deriving DecidableEq, Repr

/-- Where a discovery thread is in `node_share_func`. -/
inductive ThreadStage where
  | lockRound
  | resetRound
  | unlockRound
  | probing
  | lockReplys
  | nextReply
  | shareNode (p : Addr)
  | rewindReplys
  | unlockReplys
  | lockWait
  | testWait
  | unlockWaiting
  | unlockWait
  | lockLinks
  | nextLink
  | printLink (pl : Addr)
  | rewindLinks
  | freeReplys
  | freeLinks
  | unlockLinks
  deriving DecidableEq, Repr

/-- Where a stage that waits for the mutex goes on. -/
def ThreadStage.locking : ThreadStage → Option ThreadStage
  | .lockRound => some .resetRound
  | .lockReplys => some .nextReply
  | .lockWait => some .testWait
  | .lockLinks => some .nextLink
  | _ => none

/-- Where a stage in front of an unlock goes on. -/
def ThreadStage.unlocking : ThreadStage → Option ThreadStage
  | .unlockRound => some .probing
  | .unlockReplys => some .lockWait
  | .unlockWaiting => some .lockWait
  | .unlockWait => some .lockLinks
  | .unlockLinks => some .lockRound
  | _ => none

/-- One operation of the main thread: `communicate_with_switch` with the
handlers it calls.  The last result is whether a thread was created. -/
inductive MainStep (s : Shared) : MainStage → Operation → Shared → MainStage → Bool → Prop where
  | lockLldp : s.linksMutex = none →
      MainStep s .away .lock { s with linksMutex := some .main } .lldp false
  | addReply {objectAllocated blockAllocated : Bool} {reply : SwitchReply}
      {replys : ObjectList SwitchReply} :
      s.swReplys.addFilled objectAllocated blockAllocated reply = some replys →
      MainStep s .lldp .addObject { s with swReplys := replys } .recorded false
  | addLink {objectAllocated blockAllocated : Bool} {link : SwitchLink}
      {links : ObjectList SwitchLink} :
      s.links.addFilled objectAllocated blockAllocated link = some links →
      MainStep s .lldp .addObject { s with links := links, animNodeCounter := 0 } .recorded false
  | addNothing : MainStep s .lldp .other s .recorded false
  | unlockLldp : MainStep s .recorded .unlock { s with linksMutex := none } .away false
  | lockFeatures : s.linksMutex = none →
      MainStep s .away .lock { s with linksMutex := some .main } .features false
  -- no port: the function returns with the mutex held, and `main` exits
  | jammed : MainStep s .features .other s .exited false
  | unlockFeatures : MainStep s .features .unlock { s with linksMutex := none } .configured false
  | createThread {created : Bool} : MainStep s .configured .other s .away created
  -- a disconnection; the tables of hosts and ports are freed before
  | disconnect : MainStep s .away .other s .freeLinks false
  | freeLinks {links : ObjectList SwitchLink} {count : Int} :
      s.links.freeList = some (links, count) →
      MainStep s .freeLinks .freeList { s with links := links } .freeReplys false
  | freeReplys {replys : ObjectList SwitchReply} {count : Int} :
      s.swReplys.freeList = some (replys, count) →
      MainStep s .freeReplys .freeList { s with swReplys := replys } .away false
  | exit : MainStep s .away .other s .exited false

/-- One operation of the discovery thread with the given index. -/
inductive ThreadStep (index : Nat) (s : Shared) :
    ThreadStage → Operation → Shared → ThreadStage → Prop where
  | lock {stage held : ThreadStage} : stage.locking = some held → s.linksMutex = none →
      ThreadStep index s stage .lock { s with linksMutex := some (.thread index) } held
  | unlock {stage later : ThreadStage} : stage.unlocking = some later →
      ThreadStep index s stage .unlock { s with linksMutex := none } later
  | resetRound : ThreadStep index s .resetRound .other { s with animNodeCounter := 0 } .unlockRound
  | probe : ThreadStep index s .probing .other s .probing
  | probed : ThreadStep index s .probing .other s .lockReplys
  | nextReply {replys : ObjectList SwitchReply} {p : Addr} :
      s.swReplys.getObject = some (replys, some p) →
      ThreadStep index s .nextReply .getObject { s with swReplys := replys } (.shareNode p)
  | noReply {replys : ObjectList SwitchReply} : s.swReplys.getObject = some (replys, none) →
      ThreadStep index s .nextReply .getObject { s with swReplys := replys } .rewindReplys
  | shareNode {p : Addr} {reply : SwitchReply} : s.swReplys.readObject p = some reply →
      ThreadStep index s (.shareNode p) .useObject s .nextReply
  | rewindReplys : ThreadStep index s .rewindReplys .listRewind
      { s with swReplys := s.swReplys.listRewind } .unlockReplys
  | waited : s.animNodeCounter > 20 → ThreadStep index s .testWait .other s .unlockWait
  | waiting : ¬ s.animNodeCounter > 20 →
      ThreadStep index s .testWait .other
        { s with animNodeCounter := s.animNodeCounter + 1 } .unlockWaiting
  | nextLink {links : ObjectList SwitchLink} {pl : Addr} :
      s.links.getObject = some (links, some pl) →
      ThreadStep index s .nextLink .getObject { s with links := links } (.printLink pl)
  | noLink {links : ObjectList SwitchLink} : s.links.getObject = some (links, none) →
      ThreadStep index s .nextLink .getObject { s with links := links } .rewindLinks
  | printLink {pl : Addr} {link : SwitchLink} : s.links.readObject pl = some link →
      ThreadStep index s (.printLink pl) .useObject { s with printed := s.printed ++ [link] }
        .nextLink
  | rewindLinks : ThreadStep index s .rewindLinks .listRewind
      { s with links := s.links.listRewind } .freeReplys
  | freeReplys {replys : ObjectList SwitchReply} {count : Int} :
      s.swReplys.freeList = some (replys, count) →
      ThreadStep index s .freeReplys .freeList { s with swReplys := replys } .freeLinks
  | freeLinks {links : ObjectList SwitchLink} {count : Int} :
      s.links.freeList = some (links, count) →
      ThreadStep index s .freeLinks .freeList { s with links := links } .unlockLinks

structure Interleaved where
  shared : Shared
  main : MainStage
  threads : List ThreadStage

namespace Interleaved

def initial : Interleaved := ⟨(Ani.initial false).shared, .away, []⟩

/-- One operation of one of the threads. -/
inductive Step : Interleaved → Owner × Operation → Interleaved → Prop where
  | main {s next : Shared} {stage after : MainStage} {threads : List ThreadStage}
      {operation : Operation} {created : Bool} : MainStep s stage operation next after created →
      Step ⟨s, stage, threads⟩ (.main, operation)
        ⟨next, after, if created then threads ++ [.lockRound] else threads⟩
  | thread {s next : Shared} {main : MainStage} {threads : List ThreadStage} {index : Nat}
      {stage after : ThreadStage} {operation : Operation} : threads[index]? = some stage →
      ThreadStep index s stage operation next after →
      Step ⟨s, main, threads⟩ (.thread index, operation) ⟨next, main, threads.set index after⟩

/-- The cursors of both lists point to nothing or into their lists. -/
structure CursorsInLists (state : Interleaved) : Prop where
  swReplys : state.shared.swReplys.CursorInList
  links : state.shared.links.CursorInList

/-- The main thread frees no list that is being gone through: its cursor is
null, or the list is empty.  It does not take the mutex for this. -/
def Undisturbed (state : Interleaved) : Owner × Operation → Prop
  | (.main, .freeList) =>
      (state.main = .freeLinks → state.shared.links.AtRest ∨ state.shared.links.last = none) ∧
        (state.main = .freeReplys →
          state.shared.swReplys.AtRest ∨ state.shared.swReplys.last = none)
  | _ => True

/-- Whether the owner of the mutex is a thread at one of the stages. -/
def visited (on : ThreadStage → Bool) (state : Interleaved) : Bool :=
  attention Owner.number on false state.shared.linksMutex state.threads

end Interleaved

/-! ## What one operation can do -/

/-- The stages at which a thread holds the mutex. -/
def ThreadStage.Critical : ThreadStage → Prop
  | .lockRound | .probing | .lockReplys | .lockWait | .lockLinks => False
  | _ => True

/-- The stages of the traversal of `sw_replys`, and of that of `links`. -/
def ThreadStage.onReplys : ThreadStage → Bool
  | .nextReply | .shareNode _ | .rewindReplys => true
  | _ => false

def ThreadStage.onLinks : ThreadStage → Bool
  | .nextLink | .printLink _ | .rewindLinks => true
  | _ => false

/-- The stages at which the main thread holds the mutex. -/
def MainStage.Holds : MainStage → Prop
  | .lldp | .recorded | .features => True
  | _ => False

namespace ThreadStep

variable {index : Nat} {s next : Shared} {stage after : ThreadStage} {operation : Operation}

/-- A thread takes the mutex, gives it back, or leaves it where it is. -/
theorem mutex (step : ThreadStep index s stage operation next after) :
    s.linksMutex = none ∧ after.Critical ∧ next.linksMutex = some (.thread index) ∨
      stage.Critical ∧ ¬ after.Critical ∧ next.linksMutex = none ∨
      (stage.Critical ↔ after.Critical) ∧ next.linksMutex = s.linksMutex := by
  cases step with
  | lock locking free =>
      refine .inl ⟨free, ?_, rfl⟩
      cases stage <;> cases locking <;> trivial
  | unlock unlocking =>
      refine .inr (.inl ⟨?_, ?_, rfl⟩)
      · cases stage <;> cases unlocking <;> trivial
      · cases stage <;> cases unlocking <;> exact id
  | _ => exact .inr (.inr ⟨Iff.rfl, rfl⟩)

/-- Without the mutex a thread changes nothing. -/
theorem outside (step : ThreadStep index s stage operation next after)
    (before : ¬ stage.Critical) (later : ¬ after.Critical) : next = s := by
  cases step with
  | lock locking _ => cases stage <;> cases locking <;> exact absurd trivial later
  | unlock unlocking => cases stage <;> cases unlocking <;> exact absurd trivial before
  | probe => rfl
  | probed => rfl
  | _ => exact absurd trivial before

/-- A thread keeps to the rule of traversals for both lists. -/
theorem visits (step : ThreadStep index s stage operation next after) :
    s.swReplys.Visit stage.onReplys next.swReplys after.onReplys ∧
      s.links.Visit stage.onLinks next.links after.onLinks := by
  cases step with
  | lock locking free =>
      cases stage <;> cases locking
      · exact ⟨.kept, .kept⟩
      · exact ⟨.entered, .kept⟩
      · exact ⟨.kept, .kept⟩
      · exact ⟨.kept, .entered⟩
  | unlock unlocking =>
      cases stage <;> cases unlocking <;> exact ⟨.kept, .kept⟩
  | nextReply got => exact ⟨.got got, .kept⟩
  | noReply got => exact ⟨.got got, .kept⟩
  | rewindReplys => exact ⟨.rewound, .kept⟩
  | nextLink got => exact ⟨.kept, .got got⟩
  | noLink got => exact ⟨.kept, .got got⟩
  | rewindLinks => exact ⟨.kept, .rewound⟩
  | freeReplys freed => exact ⟨.freed freed, .kept⟩
  | freeLinks freed => exact ⟨.kept, .freed freed⟩
  | _ => exact ⟨.kept, .kept⟩

end ThreadStep

/-- Only a thread that holds the mutex goes through a list. -/
theorem ThreadStage.off {stage : ThreadStage} (outside : ¬ stage.Critical) :
    stage.onReplys = false ∧ stage.onLinks = false := by
  cases stage with
  | nextReply => exact absurd trivial outside
  | shareNode _ => exact absurd trivial outside
  | rewindReplys => exact absurd trivial outside
  | nextLink => exact absurd trivial outside
  | printLink _ => exact absurd trivial outside
  | rewindLinks => exact absurd trivial outside
  | _ => exact ⟨rfl, rfl⟩

/-! ## The discipline of the mutex -/

namespace Interleaved

/-- The mutex names the thread that is at a critical stage, or the main thread. -/
structure Exclusive (state : Interleaved) : Prop where
  threads : Excludes Owner.thread ThreadStage.Critical state.shared.linksMutex state.threads
  main : state.main.Holds → state.shared.linksMutex = some .main

end Interleaved

/-- The main thread takes the mutex, gives it back, or leaves it where it is. -/
theorem MainStep.mutex {s next : Shared} {stage after : MainStage} {operation : Operation}
    {created : Bool} (step : MainStep s stage operation next after created) :
    s.linksMutex = none ∧ next.linksMutex = some .main ∨
      stage.Holds ∧ ¬ after.Holds ∧ next.linksMutex = none ∨
      (after.Holds → stage.Holds) ∧ next.linksMutex = s.linksMutex := by
  cases step with
  | lockLldp free => exact .inl ⟨free, rfl⟩
  | lockFeatures free => exact .inl ⟨free, rfl⟩
  | unlockLldp => exact .inr (.inl ⟨trivial, id, rfl⟩)
  | unlockFeatures => exact .inr (.inl ⟨trivial, id, rfl⟩)
  | addReply _ => exact .inr (.inr ⟨fun _ => trivial, rfl⟩)
  | addLink _ => exact .inr (.inr ⟨fun _ => trivial, rfl⟩)
  | addNothing => exact .inr (.inr ⟨fun _ => trivial, rfl⟩)
  | _ => exact .inr (.inr ⟨False.elim, rfl⟩)

namespace Interleaved

variable {state next : Interleaved} {label : Owner × Operation}

theorem Step.exclusive (step : Step state label next) (exclusive : state.Exclusive) :
    next.Exclusive := by
  cases step with
  | @main s after stage later threads operation created taken =>
      have grown {mutex : Option Owner}
          (excludes : Excludes Owner.thread ThreadStage.Critical mutex threads) :
          Excludes Owner.thread ThreadStage.Critical mutex
            (if created then threads ++ [.lockRound] else threads) := by
        split
        · exact excludes.concat id
        · exact excludes
      rcases taken.mutex with ⟨free, locked⟩ | ⟨holding, left, given⟩ | ⟨holds, kept⟩
      · have before : s.linksMutex = none := free
        exact ⟨grown (locked ▸ exclusive.threads.foreign (by simp [before]) (by simp)),
          fun _ => locked⟩
      · have before : s.linksMutex = some .main := exclusive.main holding
        exact ⟨grown (given ▸ exclusive.threads.foreign (by simp [before]) (by simp)),
          fun holding => absurd holding left⟩
      · exact ⟨grown (kept ▸ exclusive.threads),
          fun holding => kept.trans (exclusive.main (holds holding))⟩
  | @thread s after main threads index stage later operation found taken =>
      refine ⟨exclusive.threads.set (fun _ _ => Owner.thread.inj) found taken.mutex, ?_⟩
      intro holding
      have mutex : s.linksMutex = some .main := exclusive.main holding
      have notHere : ¬ stage.Critical := exclusive.threads.outside found (by simp [mutex])
      rcases taken.mutex with ⟨free, -, -⟩ | ⟨inside, -, -⟩ | ⟨-, kept⟩
      · exact nomatch mutex.symm.trans free
      · exact absurd inside notHere
      · exact kept.trans mutex

/-- What the threads that hold the mutex do to a list is a visit of it. -/
theorem Step.attended_thread {Value : Type} {s after : Shared} {main : MainStage}
    {threads : List ThreadStage} {index : Nat} {stage later : ThreadStage}
    {operation : Operation} {on : ThreadStage → Bool} {list : Shared → ObjectList Value}
    (exclusive : Exclusive ⟨s, main, threads⟩) (found : threads[index]? = some stage)
    (taken : ThreadStep index s stage operation after later)
    (off : ∀ stage : ThreadStage, ¬ stage.Critical → on stage = false)
    (visit : (list s).Visit (on stage) (list after) (on later))
    (attended : (list s).Attended (visited on ⟨s, main, threads⟩)) :
    (list after).Attended (visited on ⟨after, main, threads.set index later⟩) := by
  rcases exclusive.threads.attention_set Owner.number_thread (fun _ _ => Owner.eq_thread) off found
      taken.mutex with
    ⟨before, now⟩ | ⟨outside, still, -, same⟩
  · unfold visited at attended ⊢
    rw [before] at attended
    rw [now]
    exact attended.visit visit
  · unfold visited at attended ⊢
    rw [same, taken.outside outside still]
    exact attended

/-- The main thread keeps the cursor inside a list that it leaves alone, adds
to, or frees without disturbing anybody. -/
inductive Quiet {Value : Type} (list moved : ObjectList Value) (mutex : Option Owner) : Prop where
  | kept : moved = list → Quiet list moved mutex
  | added : mutex = some .main → moved.current = list.current → Quiet list moved mutex
  | freed {count : Int} : list.freeList = some (moved, count) →
      list.AtRest ∨ list.last = none → Quiet list moved mutex

theorem Quiet.attended {Value : Type} {list moved : ObjectList Value} {visited : Bool}
    {mutex : Option Owner} (quiet : Quiet list moved mutex) (attended : list.Attended visited)
    (foreign : mutex = some .main → visited = false) : moved.Attended visited := by
  cases quiet with
  | kept same => exact same ▸ attended
  | added held current => exact .of_rest (current.trans (attended.rest (foreign held)))
  | freed free undisturbed =>
      rcases undisturbed with rest | nothing
      · exact .of_rest ((ObjectList.freeList_current free).trans rest)
      · unfold ObjectList.freeList at free
        rw [nothing] at free
        cases free
        exact attended

theorem MainStep.quiet {s after : Shared} {stage later : MainStage} {operation : Operation}
    {created : Bool} {threads : List ThreadStage}
    (taken : MainStep s stage operation after later created)
    (exclusive : Exclusive ⟨s, stage, threads⟩)
    (undisturbed : Undisturbed ⟨s, stage, threads⟩ (.main, operation)) :
    Quiet s.swReplys after.swReplys s.linksMutex ∧ Quiet s.links after.links s.linksMutex := by
  cases taken with
  | addReply added =>
      exact ⟨.added (exclusive.main trivial) (ObjectList.addFilled_current added), .kept rfl⟩
  | addLink added =>
      exact ⟨.kept rfl, .added (exclusive.main trivial) (ObjectList.addFilled_current added)⟩
  | freeLinks freed => exact ⟨.kept rfl, .freed freed (undisturbed.1 rfl)⟩
  | freeReplys freed => exact ⟨.freed freed (undisturbed.2 rfl), .kept rfl⟩
  | _ => exact ⟨.kept rfl, .kept rfl⟩

/-- An operation of the main thread changes nothing about who goes through a
list. -/
theorem MainStep.visited {s after : Shared} {stage later : MainStage} {operation : Operation}
    {created : Bool} {threads : List ThreadStage} (on : ThreadStage → Bool)
    (taken : MainStep s stage operation after later created)
    (exclusive : Exclusive ⟨s, stage, threads⟩) :
    visited on ⟨after, later, if created then threads ++ [.lockRound] else threads⟩ =
      visited on ⟨s, stage, threads⟩ := by
  have grown (mutex : Option Owner)
      (excludes : Excludes Owner.thread ThreadStage.Critical mutex threads) :
      attention Owner.number on false mutex (if created then threads ++ [.lockRound] else threads) =
        attention Owner.number on false mutex threads := by
    split
    · exact excludes.attention_concat fun _ _ => Owner.eq_thread
    · rfl
  unfold Interleaved.visited
  rcases taken.mutex with ⟨free, locked⟩ | ⟨holding, -, given⟩ | ⟨-, kept⟩
  · rw [attention_foreign, attention_foreign] <;> simp [free, locked]
  · have mutex : s.linksMutex = some .main := exclusive.main holding
    rw [attention_foreign, attention_foreign] <;> simp [mutex, given]
  · simp only [kept]
    exact grown _ exclusive.threads

/-! ## Every interleaving -/

/-- Both lists are only gone through by the owner of the mutex. -/
structure Attends (state : Interleaved) : Prop where
  exclusive : state.Exclusive
  swReplys : state.shared.swReplys.Attended (state.visited ThreadStage.onReplys)
  links : state.shared.links.Attended (state.visited ThreadStage.onLinks)

theorem Attends.step (attends : state.Attends) (step : Step state label next)
    (undisturbed : state.Undisturbed label) : next.Attends := by
  refine ⟨step.exclusive attends.exclusive, ?_, ?_⟩
  · cases step with
    | main taken =>
        rw [MainStep.visited _ taken attends.exclusive]
        apply (MainStep.quiet taken attends.exclusive undisturbed).1.attended attends.swReplys
        exact fun held => attention_foreign (by simp [held])
    | thread found taken =>
        exact Step.attended_thread attends.exclusive found taken
          (fun _ outside => (ThreadStage.off outside).1) taken.visits.1 attends.swReplys
  · cases step with
    | main taken =>
        rw [MainStep.visited _ taken attends.exclusive]
        apply (MainStep.quiet taken attends.exclusive undisturbed).2.attended attends.links
        exact fun held => attention_foreign (by simp [held])
    | thread found taken =>
        exact Step.attended_thread attends.exclusive found taken
          (fun _ outside => (ThreadStage.off outside).2) taken.visits.2 attends.links

theorem attends_run {labels : List (Owner × Operation)}
    (run : Guarded Step (fun _ => Undisturbed) initial labels state) : state.Attends := by
  induction run with
  | refl =>
      refine ⟨⟨?_, nofun⟩, .of_rest rfl, .of_rest rfl⟩
      exact .nil (by simp [initial, Ani.shared, Ani.initial])
  | snoc _ undisturbed step inductionHypothesis =>
      exact inductionHypothesis.step step undisturbed

end Interleaved

/-- When no reconnection frees a list that a thread goes through, the cursors of
both lists are null or in their lists in every state of every interleaving, so
that `get_object` never follows an object that was freed. -/
theorem cursors_in_lists {state : Interleaved} {labels : List (Owner × Operation)}
    (run : Guarded Interleaved.Step (fun _ => Interleaved.Undisturbed) Interleaved.initial labels
      state) :
    state.CursorsInLists ∧ state.shared.swReplys.following ≠ none ∧
      state.shared.links.following ≠ none := by
  have attends := Interleaved.attends_run run
  exact ⟨⟨attends.swReplys.inside, attends.links.inside⟩, attends.swReplys.inside.following,
    attends.links.inside.following⟩

/-- A list that the main thread frees otherwise is left with a cursor to a
freed object. -/
theorem cursors_iff_undisturbed {state next : Interleaved}
    (cursors : state.CursorsInLists) (step : Interleaved.Step state (.main, .freeList) next) :
    next.CursorsInLists ↔ state.Undisturbed (.main, .freeList) := by
  cases step with
  | main taken =>
      cases taken with
      | freeLinks freed =>
          have kept := ObjectList.freeList_cursorInList freed cursors.links
          exact ⟨fun later => ⟨fun _ => kept.mp later.links, nofun⟩,
            fun undisturbed => ⟨cursors.swReplys, kept.mpr (undisturbed.1 rfl)⟩⟩
      | freeReplys freed =>
          have kept := ObjectList.freeList_cursorInList freed cursors.swReplys
          exact ⟨fun later => ⟨nofun, fun _ => kept.mp later.swReplys⟩,
            fun undisturbed => ⟨kept.mpr (undisturbed.2 rfl), cursors.links⟩⟩

/-- A thread is created, and the connection is lost before it does anything. -/
theorem cursors_in_lists_disconnected :
    ∃ labels state, Guarded Interleaved.Step (fun _ => Interleaved.Undisturbed)
        Interleaved.initial labels state ∧ state.threads = [.lockRound] ∧
      state.CursorsInLists ∧ state.shared.swReplys.following ≠ none ∧
      state.shared.links.following ≠ none := by
  have locked : Guarded Interleaved.Step (fun _ => Interleaved.Undisturbed) Interleaved.initial
      _ _ := .snoc .refl (by trivial) (.main (.lockFeatures rfl))
  have created : Guarded Interleaved.Step (fun _ => Interleaved.Undisturbed) Interleaved.initial
      _ ⟨_, .away, [.lockRound]⟩ :=
    .snoc (.snoc locked (by trivial) (.main .unlockFeatures)) (by trivial)
      (.main (@MainStep.createThread _ true))
  have lost : Guarded Interleaved.Step (fun _ => Interleaved.Undisturbed) Interleaved.initial
      _ ⟨Interleaved.initial.shared, .freeLinks, [.lockRound]⟩ :=
    .snoc created (by trivial) (.main .disconnect)
  have freed : Guarded Interleaved.Step (fun _ => Interleaved.Undisturbed) Interleaved.initial
      _ ⟨Interleaved.initial.shared, .freeReplys, [.lockRound]⟩ :=
    .snoc lost (by exact ⟨fun _ => .inl rfl, nofun⟩) (.main (.freeLinks rfl))
  have run : Guarded Interleaved.Step (fun _ => Interleaved.Undisturbed) Interleaved.initial
      _ ⟨Interleaved.initial.shared, .away, [.lockRound]⟩ :=
    .snoc freed (by exact ⟨nofun, fun _ => .inl rfl⟩) (.main (.freeReplys rfl))
  exact ⟨_, _, run, rfl, cursors_in_lists run⟩

/-! ## The process as an interleaving -/

def SharePlace.stage : SharePlace → ThreadStage
  | .lockRound => .lockRound
  | .resetRound => .resetRound
  | .probe _ => .probing
  | .lockReplys => .lockReplys
  | .nextReply => .nextReply
  | .shareNode p => .shareNode p
  | .rewindReplys => .rewindReplys
  | .lockWait => .lockWait
  | .testWait => .testWait
  | .unlockWait => .unlockWait
  | .lockLinks => .lockLinks
  | .nextLink => .nextLink
  | .printLink pl => .printLink pl
  | .rewindLinks => .rewindLinks
  | .freeReplys => .freeReplys
  | .freeLinks => .freeLinks
  | .unlockLinks => .unlockLinks

def MainPlace.stage : MainPlace → MainStage
  | .freeLinks => .freeLinks
  | .freeReplys => .freeReplys
  | .exited => .exited
  | _ => .away

def Process.interleaved (p : Process) : Interleaved :=
  ⟨p.ani.shared, p.place.stage, p.threads.map fun thread => thread.place.stage⟩

/-- A step of a discovery thread is one operation or two. -/
theorem ShareStep.interleaved {index : Nat} {s next : Ani} {thread after : Thread}
    {sent : Option (List UInt8)} (step : ShareStep index s thread sent next after)
    (main : MainStage) {threads : List ThreadStage}
    (found : threads[index]? = some thread.place.stage) :
    ∃ labels, Run Interleaved.Step ⟨s.shared, main, threads⟩ labels
      ⟨next.shared, main, threads.set index after.place.stage⟩ := by
  have running : index < threads.length := (List.getElem?_eq_some_iff.mp found).1
  have one {operation : Operation}
      (taken : ThreadStep index s.shared thread.place.stage operation next.shared
        after.place.stage) :
      ∃ labels, Run Interleaved.Step ⟨s.shared, main, threads⟩ labels
        ⟨next.shared, main, threads.set index after.place.stage⟩ :=
    ⟨_, .single (.thread found taken)⟩
  -- the second operation gives the mutex back
  have two {operation : Operation} {middle : Shared} {between : ThreadStage}
      (taken : ThreadStep index s.shared thread.place.stage operation middle between)
      (later : ThreadStep index middle between .unlock next.shared after.place.stage) :
      ∃ labels, Run Interleaved.Step ⟨s.shared, main, threads⟩ labels
        ⟨next.shared, main, threads.set index after.place.stage⟩ := by
    have second : Interleaved.Step ⟨middle, main, threads.set index between⟩ _ _ :=
      .thread (List.getElem?_set_self running) later
    rw [List.set_set] at second
    exact ⟨_, .cons (.thread found taken) (.single second)⟩
  obtain ⟨place, portsCount⟩ := thread
  cases step with
  | lock locking free =>
      cases place <;> cases locking <;> exact one (.lock rfl free)
  | resetRound here =>
      cases here
      exact two .resetRound (.unlock rfl)
  | probe here more =>
      cases here
      exact one .probe
  | probed here done =>
      cases here
      exact one .probed
  | nextReply here got =>
      cases here
      exact one (.nextReply got)
  | noReply here got =>
      cases here
      exact one (.noReply got)
  | shareNode here read =>
      cases here
      exact one (.shareNode read)
  | rewindReplys here =>
      cases here
      exact two .rewindReplys (.unlock rfl)
  | waited here elapsed =>
      cases here
      exact one (.waited elapsed)
  | waiting here more =>
      cases here
      exact two (.waiting more) (.unlock rfl)
  | unlockWait here =>
      cases here
      exact one (.unlock rfl)
  | nextLink here got =>
      cases here
      exact one (.nextLink got)
  | noLink here got =>
      cases here
      exact one (.noLink got)
  | @printLink pl link here read =>
      cases here
      have printed : Ani.shared { s with console := s.console ++ [.link link] } =
          { s.shared with printed := s.shared.printed ++ [link] } := by
        simp [Ani.shared, Line.link?]
      apply one
      rw [printed]
      exact .printLink read
  | rewindLinks here =>
      cases here
      exact one .rewindLinks
  | freeReplys here freed =>
      cases here
      exact one (.freeReplys freed)
  | freeLinks here freed =>
      cases here
      exact one (.freeLinks freed)
  | unlockLinks here =>
      cases here
      exact one (.unlock rfl)

/-- A call of a handler takes the mutex, records what it received, and gives the
mutex back. -/
theorem Call.Touches.interleaved {call : Call} {switchId : UInt64} {s next : Shared}
    {spawned : Bool} (touches : call.Touches switchId s next spawned)
    (threads : List ThreadStage) :
    ∃ labels, Run Interleaved.Step ⟨s, .away, threads⟩ labels
      ⟨next, (afterCall call.result .reading).stage,
        if spawned then threads ++ [.lockRound] else threads⟩ := by
  have finish {labels : List (Owner × Operation)} {after : List ThreadStage}
      (run : Run Interleaved.Step ⟨s, .away, threads⟩ labels ⟨next, .away, after⟩) :
      ∃ labels, Run Interleaved.Step ⟨s, .away, threads⟩ labels
        ⟨next, (afterCall call.result .reading).stage, after⟩ := by
    unfold afterCall
    split
    · exact ⟨_, run.snoc (.main .exit)⟩
    · exact ⟨_, run⟩
  cases touches with
  | nothing _ _ _ => exact finish .refl
  | reply _ free added =>
      obtain ⟨mutex, replys, counter, links, printed⟩ := s
      cases free
      exact finish (.cons (.main (.lockLldp rfl)) (.cons (.main (.addReply added))
        (.single (.main .unlockLldp))))
  | node _ free added =>
      obtain ⟨mutex, replys, counter, links, printed⟩ := s
      cases free
      exact finish (.cons (.main (.lockLldp rfl)) (.cons (.main (.addLink added))
        (.single (.main .unlockLldp))))
  | started _ _ free =>
      obtain ⟨mutex, replys, counter, links, printed⟩ := s
      cases free
      exact finish (.cons (.main (.lockFeatures rfl)) (.cons (.main .unlockFeatures)
        (.single (.main .createThread))))
  | jammed _ _ free failed =>
      rw [failed]
      exact ⟨_, .cons (.main (.lockFeatures free)) (.single (.main .jammed))⟩

theorem Process.Step.stage_called {p q : Process} {call : Call}
    (step : Process.Step p (.handled call) q) :
    p.place.stage = .away ∧ q.place.stage = (afterCall call.result .reading).stage := by
  cases step with
  | answered _ _ _ => exact ⟨rfl, rfl⟩
  | scanAnswered _ _ _ _ =>
      refine ⟨rfl, ?_⟩
      show (afterCall _ _).stage = (afterCall _ _).stage
      unfold afterCall Call.of
      simp only
      split <;> rfl

theorem Process.Step.stage_kept {p q : Process} {event : Event} (step : Process.Step p event q)
    (uncalled : ∀ call, event ≠ .handled call) (links : p.place ≠ .freeLinks)
    (replys : p.place ≠ .freeReplys) :
    q.place.stage = p.place.stage ∨
      p.place.stage = .away ∧ (q.place.stage = .freeLinks ∨ q.place.stage = .exited) := by
  cases step with
  | freePorts _ => exact .inr ⟨rfl, .inl rfl⟩
  | freeLinks _ => exact absurd rfl links
  | freeReplys _ => exact absurd rfl replys
  | refused => exact .inr ⟨rfl, .inr rfl⟩
  | answered _ _ _ => exact absurd rfl (uncalled _)
  | scanAnswered _ _ _ _ => exact absurd rfl (uncalled _)
  | _ => exact .inl rfl

/-- A step of the process is a run of operations. -/
theorem Process.Step.interleaved {p q : Process} {event : Event}
    (step : Process.Step p event q) :
    ∃ labels, Run Interleaved.Step p.interleaved labels q.interleaved := by
  cases step.touches with
  | kept uncalled _ links replys shared threads =>
      have stage := step.stage_kept uncalled links replys
      unfold Process.interleaved
      rw [shared, threads]
      rcases stage with same | ⟨away, free | exited⟩
      · rw [same]
        exact ⟨_, .refl⟩
      · rw [away, free]
        exact ⟨_, .single (.main .disconnect)⟩
      · rw [away, exited]
        exact ⟨_, .single (.main .exit)⟩
  | @called call spawned _ touches threads =>
      obtain ⟨away, after⟩ := step.stage_called
      have run := touches.interleaved (p.threads.map fun thread => thread.place.stage)
      unfold Process.interleaved
      rw [threads, away, after]
      cases spawned with
      | false => exact run
      | true =>
          have grown : (spawn p.threads true).map (fun thread => thread.place.stage) =
              (p.threads.map fun thread => thread.place.stage) ++ [.lockRound] :=
            List.map_append
          rw [grown]
          exact run
  | freeLinks place later freed shared threads =>
      unfold Process.interleaved
      rw [shared, threads, place, later]
      exact ⟨_, .single (.main (.freeLinks freed))⟩
  | freeReplys place later freed shared threads =>
      unfold Process.interleaved
      rw [shared, threads, place, later]
      exact ⟨_, .single (.main (.freeReplys freed))⟩
  | @thread index thread after sent _ found share threads place =>
      unfold Process.interleaved
      rw [threads, place, List.map_set]
      apply share.interleaved
      rw [List.getElem?_map, found]
      rfl

/-- Every state that the process reaches is one of the interleaving. -/
theorem Process.Reaches.interleaved {cbench : Bool} {events : List Event} {p : Process}
    (run : Process.Reaches cbench events p) :
    ∃ labels, Run Interleaved.Step Interleaved.initial labels p.interleaved := by
  induction run with
  | refl => exact ⟨_, .refl⟩
  | snoc _ step inductionHypothesis =>
      obtain ⟨earlier, run⟩ := inductionHypothesis
      obtain ⟨later, more⟩ := Process.Step.interleaved step
      exact ⟨_, run.trans more⟩

/-- A connection is lost while the discovery thread uses a reply, whose object
its next `get_object` follows. -/
theorem freed_under_cursor :
    ¬ ∀ labels state, Run Interleaved.Step Interleaved.initial labels state →
      state.CursorsInLists ∧ state.shared.swReplys.following ≠ none ∧
        state.shared.links.following ≠ none := by
  intro always
  have computed : ((Process.initial false).play
      [.deliver (featuresMessage 11 [1]), .share 0, .share 0, .share 0, .share 0,
        .deliver (discoveryPacketIn 1 .echoReply), .share 0, .share 0, .reconnect 1]).map
      (fun run => run.2.ani.swReplys.following.isNone) = some true := by decide
  obtain ⟨events, p, reached, stuck⟩ := Process.play_eq _ computed
  obtain ⟨labels, run⟩ := reached.interleaved
  exact (always labels _ run).2.1 (Option.isNone_iff_eq_none.mp stuck)

end DAIM.Ani41
