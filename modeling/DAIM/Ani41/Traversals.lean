import DAIM.Ani41.Calling
import DAIM.Ani41.TableLoops

/-!
# Traversals of the tables of hosts and ports

The loops that the handlers run over the two tables of the main thread.  A
lookup rewinds first.  `show_hosts` and `show_ports` do not: the ports are
always left rewound, and the hosts are shown only after a lookup that has come
to the end of the table.
-/

namespace DAIM.Ani41

open DAIM.Library DAIM.OpenFlow DAIM.Linked DAIM.Com DAIM.Hosts

/-! ## The tables along a run -/

/-- Every allocation of the calls succeeds. -/
def AllAllocating (events : List Event) : Prop :=
  ∀ call, Event.handled call ∈ events → Allocating call.env

theorem freeList_holds {Value : Type} {list emptied : ObjectList Value}
    {cells : List (Addr × Value)} {count : Int} (intact : list.Holds cells)
    (freed : list.freeList = some (emptied, count)) :
    emptied.Holds [] ∧ emptied.current = list.current := by
  obtain ⟨other, total, result, holds, current, -⟩ := intact.freeList_eq
  cases result.symm.trans freed
  exact ⟨holds, current⟩

/-- Wherever a discovery thread stands in a table, it leaves it intact. -/
theorem ShareStep.tidy {index : Nat} {s next : Ani} {thread after : Thread}
    {sent : Option (List UInt8)} (step : ShareStep index s thread sent next after)
    (tidy : s.Tidy) : next.Tidy := by
  obtain ⟨replyCells, replys⟩ := tidy.swReplys
  obtain ⟨linkCells, links⟩ := tidy.links
  have withReplys {moved : ObjectList SwitchReply} (kept : ∃ cells, moved.Holds cells) :
      Ani.Tidy { s with swReplys := moved } :=
    ⟨tidy.hosts, tidy.ports, tidy.rewound, tidy.links, kept⟩
  have withLinks {moved : ObjectList SwitchLink} (kept : ∃ cells, moved.Holds cells) :
      Ani.Tidy { s with links := moved } :=
    ⟨tidy.hosts, tidy.ports, tidy.rewound, kept, tidy.swReplys⟩
  cases step with
  | nextReply _ found => exact withReplys ⟨_, replys.getObject_cases found⟩
  | noReply _ found => exact withReplys ⟨_, replys.getObject_cases found⟩
  | rewindReplys _ => exact (withReplys ⟨_, replys.rewind⟩).congr rfl rfl rfl rfl
  | nextLink _ found => exact withLinks ⟨_, links.getObject_cases found⟩
  | noLink _ found => exact withLinks ⟨_, links.getObject_cases found⟩
  | rewindLinks _ => exact withLinks ⟨_, links.rewind⟩
  | freeReplys _ freed => exact withReplys ⟨[], (freeList_holds replys freed).1⟩
  | freeLinks _ freed => exact withLinks ⟨[], (freeList_holds links freed).1⟩
  | _ => exact tidy.congr rfl rfl rfl rfl

theorem Process.Step.tidy {p q : Process} {event : Event} (step : Process.Step p event q)
    (tidy : p.ani.Tidy) (allocates : ∀ call, event = .handled call → Allocating call.env) :
    q.ani.Tidy := by
  cases event with
  | handled call =>
      obtain ⟨started, ofBuffer, outcome, called⟩ := step.called
      have before : started.Tidy := by
        rw [called.pointers]
        exact tidy.congr rfl rfl rfl rfl
      have after := handle_tidy before (allocates call rfl) called.run
      rw [called.ended]
      exact after.congr rfl rfl rfl rfl
  | received _ =>
      cases step
      exact tidy.congr rfl rfl rfl rfl
  | lost =>
      cases step
      exact tidy.congr rfl rfl rfl rfl
  | connected _ =>
      cases step
      exact tidy.congr rfl rfl rfl rfl
  | shared _ _ =>
      cases step with
      | shared _ share => exact share.tidy tidy
  | internal =>
      cases step with
      | freeHosts freed =>
          obtain ⟨cells, intact⟩ := tidy.hosts
          exact ⟨⟨[], (freeList_holds intact freed).1⟩, tidy.ports, tidy.rewound, tidy.links,
            tidy.swReplys⟩
      | freePorts freed =>
          obtain ⟨cells, intact⟩ := tidy.ports
          obtain ⟨holds, current⟩ := freeList_holds intact freed
          exact ⟨tidy.hosts, ⟨[], holds⟩, current.trans tidy.rewound, tidy.links, tidy.swReplys⟩
      | freeLinks freed =>
          obtain ⟨cells, intact⟩ := tidy.links
          exact ⟨tidy.hosts, tidy.ports, tidy.rewound, ⟨[], (freeList_holds intact freed).1⟩,
            tidy.swReplys⟩
      | freeReplys freed =>
          obtain ⟨cells, intact⟩ := tidy.swReplys
          exact ⟨tidy.hosts, tidy.ports, tidy.rewound, tidy.links,
            ⟨[], (freeList_holds intact freed).1⟩⟩
      | ignored _ chosen =>
          obtain ⟨rfl, -⟩ := normalHandler_eq chosen
          exact tidy.congr rfl rfl rfl rfl
      | unknown _ check =>
          obtain ⟨rfl, -⟩ := checkOpenflow_eq check
          exact tidy.congr rfl rfl rfl rfl
      | skipped _ check _ =>
          obtain ⟨rfl, -⟩ := checkOpenflow_eq check
          exact tidy.congr rfl rfl rfl rfl
      | thread _ share => exact share.tidy tidy
      | _ => exact tidy.congr rfl rfl rfl rfl

theorem Process.Reaches.tidy {cbench : Bool} {events : List Event} {p : Process}
    (run : Process.Reaches cbench events p) (allocates : AllAllocating events) : p.ani.Tidy := by
  induction run with
  | refl => exact Ani.initial_tidy cbench
  | snoc _ step inductionHypothesis =>
      apply step.tidy
      · exact inductionHypothesis fun call member =>
          allocates call (List.mem_append_left _ member)
      · rintro call rfl
        exact allocates call (List.mem_append_right _ List.mem_cons_self)

/-! ## What the handled messages have put into the tables -/

/-- One more event: losing the connection forgets the tables. -/
def Told.follow (told : Told) : Event → Told
  | .handled call => told.take call
  | .lost => { told with tables := Tables.empty }
  | _ => told

/-- What remains of a whole history: the tables hold the entries that the
messages on the last connection have added, in the order in which they did. -/
def toldBy (events : List Event) : Told :=
  events.foldl Told.follow (Process.initial false).remembers

theorem toldBy_snoc (events : List Event) (event : Event) :
    toldBy (events ++ [event]) = (toldBy events).follow event := by
  rw [toldBy, List.foldl_append]
  rfl

/-- The process knows what it was told while it has a connection, and has
nothing to know of the tables otherwise. -/
structure Process.Follows (p : Process) (told : Told) : Prop where
  switchId : p.ani.switchId = told.switchId
  noOfPorts : p.ani.noOfPorts = told.noOfPorts
  knows : p.place.Online → p.Knows told
  forgotten : ¬ p.place.Online → told.tables = Tables.empty

/-- Before the next connection, and before giving up, the tables were freed. -/
theorem Process.Reaches.freed_tables {cbench : Bool} {events : List Event} {p : Process}
    (reached : Process.Reaches cbench events p) (accepting : p.place = .accepting) :
    ∃ tables, p.ani.Shows tables ∧ tables.hosts = [] ∧ tables.ports = [] := by
  obtain ⟨tables, shows, -⟩ := Process.Reaches.tables reached
  have hosts := Process.Reaches.cleared reached (by rw [accepting]; trivial)
  have ports := Process.Reaches.portsFreed reached (by rw [accepting]; trivial)
  exact ⟨tables, shows, shows.hosts.contents_eq.symm.trans hosts.contents_eq,
    shows.ports.contents_eq.symm.trans ports.contents_eq⟩

theorem Process.Step.follows {cbench : Bool} {events : List Event} {p q : Process} {event : Event}
    {told : Told} (reached : Process.Reaches cbench events p) (step : Process.Step p event q)
    (follows : p.Follows told) : q.Follows (told.follow event) := by
  by_cases online : p.place.Online
  · by_cases lost : event = .lost
    · subst lost
      cases step
      exact ⟨follows.switchId, follows.noOfPorts, False.elim, fun _ => rfl⟩
    · have knows : q.Knows (told.follow event) := by
        have next := step.knows (follows.knows online) online
        cases event with
        | lost => exact absurd rfl lost
        | _ => exact next
      exact ⟨knows.switchId, knows.noOfPorts, fun _ => knows,
        fun offline => absurd (step.online online lost) offline⟩
  · have forgotten := follows.forgotten online
    have offline {next : Ani} {place : MainPlace} {threads : List Thread} (away : ¬ place.Online)
        (switchId : next.switchId = p.ani.switchId) (noOfPorts : next.noOfPorts = p.ani.noOfPorts) :
        Process.Follows ⟨next, place, threads⟩ told :=
      ⟨switchId.trans follows.switchId, noOfPorts.trans follows.noOfPorts,
        fun now => absurd now away, fun _ => forgotten⟩
    cases step with
    | closed => exact offline id rfl rfl
    | freeHosts _ => exact offline id rfl rfl
    | freePorts _ => exact offline id rfl rfl
    | freeLinks _ => exact offline id rfl rfl
    | freeReplys _ => exact offline id rfl rfl
    | connected =>
        obtain ⟨tables, shows, hosts, ports⟩ := Process.Reaches.freed_tables reached rfl
        refine ⟨follows.switchId, follows.noOfPorts, fun _ => ?_, fun away => absurd trivial away⟩
        refine ⟨follows.switchId, follows.noOfPorts, tables,
          ⟨shows.hosts, shows.ports, shows.links, shows.swReplys⟩, ?_, ?_⟩
        · exact hosts.trans (congrArg Tables.hosts forgotten).symm
        · exact ports.trans (congrArg Tables.ports forgotten).symm
    | refused =>
        obtain ⟨tables, shows, hosts, ports⟩ := Process.Reaches.freed_tables reached rfl
        refine ⟨follows.switchId, follows.noOfPorts, fun _ => ?_, fun away => absurd trivial away⟩
        refine ⟨follows.switchId, follows.noOfPorts, tables, shows, ?_, ?_⟩
        · exact hosts.trans (congrArg Tables.hosts forgotten).symm
        · exact ports.trans (congrArg Tables.ports forgotten).symm
    | thread _ share => exact offline online (by rw [share.frame]) (by rw [share.frame])
    | shared _ share => exact offline online (by rw [share.frame]) (by rw [share.frame])
    | _ => exact absurd trivial online

theorem Process.Reaches.follows {cbench : Bool} {events : List Event} {p : Process}
    (reached : Process.Reaches cbench events p) : p.Follows (toldBy events) := by
  induction reached with
  | refl =>
      have knows := Process.Reaches.remembers (Run.refl : Process.Reaches cbench [] _) (.inl rfl)
      exact ⟨rfl, rfl, fun _ => knows, fun away => absurd trivial away⟩
  | snoc earlier step inductionHypothesis =>
      rw [toldBy_snoc]
      exact step.follows earlier inductionHypothesis

/-! ## Every loop of a call -/

/-- The table that the loop is entered with: what the messages have put into it
before the call, or with the call. -/
def Traversal.Current (before after : Tables) : Traversal → Prop
  | .lookup hosts _ => hosts.contents = before.hosts ∨ hosts.contents = after.hosts
  | .showHosts hosts => hosts.contents = after.hosts
  | .showPorts ports => ports.contents = after.ports

section Loops

variable {env : Env} {s : Ani} {before after : Tables}

theorem lookup_complete {hosts : ObjectList SwitchHost} {cells : List (Addr × SwitchHost)}
    (intact : hosts.Holds cells)
    (current : cells.map Prod.snd = before.hosts ∨ cells.map Prod.snd = after.hosts) (mac : Mac) :
    (Traversal.lookup hosts mac).Complete ∧ (Traversal.lookup hosts mac).Current before after := by
  refine ⟨intact.searched (sameMac mac), ?_⟩
  rw [Traversal.Current, intact.contents_eq]
  exact current

/-- The table is shown with the cursor at rest: the lookup has come to its end. -/
theorem learnTraversals_complete {hosts : ObjectList SwitchHost}
    {cells : List (Addr × SwitchHost)} (intact : hosts.Holds cells) (allocates : Allocating env)
    {entry : SwitchHost} (current : cells.map Prod.snd = before.hosts)
    (learned : after.hosts = insertNew SwitchHost.macAddr before.hosts entry) :
    ∀ traversal ∈ learnTraversals env hosts entry,
      traversal.Complete ∧ traversal.Current before after := by
  have looked : (Traversal.lookup hosts entry.macAddr).Complete ∧
      (Traversal.lookup hosts entry.macAddr).Current before after :=
    lookup_complete intact (.inl current) entry.macAddr
  obtain ⟨moved, found, kept, ended⟩ := intact.find_eq (sameMac entry.macAddr)
  unfold learnTraversals
  rw [found]
  cases absent : (cells.map Prod.snd).find? (sameMac entry.macAddr) with
  | some host =>
      intro traversal member
      cases List.mem_singleton.mp member
      exact looked
  | none =>
      obtain ⟨added, fill, holds, rested⟩ := kept.addFilled_eq entry
      simp only [(allocates 0).1, (allocates 0).2, fill]
      intro traversal member
      rcases List.mem_cons.mp member with rfl | shows
      · exact looked
      · cases List.mem_singleton.mp shows
        refine ⟨holds.shown (rested.trans (ended absent)), ?_⟩
        rw [Traversal.Current, holds.contents_eq, List.map_append, current, learned,
          insertNew_of_notMem _ (current ▸ unknown_of_find absent)]
        rfl

theorem arpTraversals_complete {message : Memory} {cells : List (Addr × SwitchHost)}
    (intact : s.hosts.Holds cells) (allocates : Allocating env)
    (current : cells.map Prod.snd = before.hosts)
    (learned : after.hosts =
      insertNew SwitchHost.macAddr before.hosts (hostEntry s.switchId message)) :
    ∀ traversal ∈ arpTraversals env message (parsePacketIn message) s,
      traversal.Complete ∧ traversal.Current before after := by
  intro traversal member
  rcases List.mem_append.mp member with learning | looking
  · exact learnTraversals_complete intact allocates current learned traversal learning
  · obtain ⟨hosts, more, printed, learn, holds, records⟩ := learn_holds intact allocates
      (hostEntry s.switchId message)
    unfold hostEntry arpSource at learn
    rw [learn] at looking
    simp only at looking
    split at looking
    · cases looking
    · cases List.mem_singleton.mp looking
      apply lookup_complete holds
      rw [records, current, learned]
      exact .inr rfl

/-- The call that a message makes, as far as it tells anything. -/
def telling (handler : Handler) (message : Memory) (env : Env) : Call :=
  ⟨handler, message, env, [], 0⟩

theorem packoutTraversals_complete {told : Told} (tidy : s.Tidy) (allocates : Allocating env)
    (switchId : s.switchId = told.switchId) (hosts : s.hosts.contents = told.tables.hosts)
    (message : Memory) :
    ∀ traversal ∈ packoutTraversals env message s, traversal.Complete ∧
      traversal.Current told.tables (told.take (telling .packout message env)).tables := by
  obtain ⟨cells, intact⟩ := tidy.hosts
  have current : cells.map Prod.snd = told.tables.hosts := intact.contents_eq.symm.trans hosts
  unfold packoutTraversals
  simp only
  split
  · exact fun _ impossible => absurd impossible List.not_mem_nil
  · split
    · rename_i arp
      apply arpTraversals_complete intact allocates current
      have taken : (told.take (telling .packout message env)).tables =
          told.tables.packout (env.allocated 0) told.switchId message :=
        congrArg Told.tables (Told.take_packout told rfl)
      rw [taken, packout_of_arp _ arp, allocates.allocated 0, switchId]
      rfl
    · split
      · intro traversal member
        cases List.mem_singleton.mp member
        exact lookup_complete intact (.inl current) _
      · exact fun _ impossible => absurd impossible List.not_mem_nil

theorem featuresTraversals_complete {told : Told} (tidy : s.Tidy) (allocates : Allocating env)
    (ports : s.ports.contents = told.tables.ports) (message : Memory) :
    ∀ traversal ∈ featuresTraversals env message s, traversal.Complete ∧
      traversal.Current told.tables (told.take (telling .featuresReply message env)).tables := by
  obtain ⟨cells, intact⟩ := tidy.ports
  unfold featuresTraversals
  split
  · exact fun _ impossible => absurd impossible List.not_mem_nil
  · split
    · exact fun _ impossible => absurd impossible List.not_mem_nil
    · have enough : ∀ other, 0 ≤ other → other < 0 + (featuresCount message).toNat →
          env.allocated other = true := fun other _ _ => allocates.allocated other
      obtain ⟨added, more, fill, holds, rewound⟩ := addPorts_whole intact tidy.rewound message
        (Told.datapathId message) enough
      have records := (addPorts_spec (.inl ⟨cells, intact, rfl⟩) fill).contents_eq
      rw [fill]
      intro traversal member
      cases List.mem_singleton.mp member
      refine ⟨holds.shown rewound, ?_⟩
      have features : (telling .featuresReply message env).handler = .featuresReply := rfl
      rw [Traversal.Current, records, ← intact.contents_eq, ports, Told.take_ports,
        if_pos features]
      rfl

/-- Every loop of a call is complete and runs over the current table. -/
theorem Handler.traversals_complete {told : Told} (tidy : s.Tidy) (allocates : Allocating env)
    (switchId : s.switchId = told.switchId) (hosts : s.hosts.contents = told.tables.hosts)
    (ports : s.ports.contents = told.tables.ports) (handler : Handler) (ofBuffer : Nat) :
    ∀ traversal ∈ handler.traversals env ofBuffer s, traversal.Complete ∧
      traversal.Current told.tables
        (told.take (telling handler (s.readBuffer.shift ofBuffer) env)).tables := by
  cases handler with
  | hello => exact fun _ impossible => absurd impossible List.not_mem_nil
  | echo => exact fun _ impossible => absurd impossible List.not_mem_nil
  | featuresReply => exact featuresTraversals_complete tidy allocates ports _
  | packout => exact packoutTraversals_complete tidy allocates switchId hosts _

end Loops

/-! ## What a call prints -/

section Lines

variable {env : Env} {s : Ani} {sending : Sending} {outcome : Outcome}

theorem learnHost_lines {packet : PacketIn} {ipSrc : UInt32} {next : Ani}
    (run : learnHost env packet ipSrc s = some next) :
    next.console = s.console ++ (learnTraversals env s.hosts
      { datapathId := s.switchId, portNo := packet.inPort, macAddr := packet.src,
        ipAddr := ipSrc }).flatMap Traversal.lines := by
  unfold learnHost Hosts.learn at run
  unfold learnTraversals
  split at run
  · cases run
  · rename_i hosts printed learn
    cases run
    split at learn
    · cases learn
    · rename_i found
      cases learn
      rw [found]
      rfl
    · rename_i moved found
      split at learn
      · cases learn
      · rename_i added fill
        rw [found]
        simp only [fill]
        simp [Traversal.lines, learn]

theorem lookupPort_console {dst : Mac} {next : Ani} {port : UInt16}
    (run : lookupPort dst s = some (next, port)) : next.console = s.console := by
  unfold lookupPort at run
  split at run
  · cases run
  · cases run
    rfl

/-- The lookup of the destination prints nothing. -/
theorem arpTraversals_lines (env : Env) (message : Memory) (packet : PacketIn) (s : Ani) :
    (arpTraversals env message packet s).flatMap Traversal.lines =
      (learnTraversals env s.hosts
        { datapathId := s.switchId, portNo := packet.inPort, macAddr := packet.src
          ipAddr := ntohl ((payload message).load32 Arp.ipSource) }).flatMap Traversal.lines := by
  unfold arpTraversals
  rw [List.flatMap_append]
  split
  · exact List.append_nil _
  · split <;> exact List.append_nil _

/-- Nothing but a loop over a table prints. -/
theorem packoutArp_lines {message : Memory} {packet : PacketIn}
    (run : packoutArp env message packet s = some sending) :
    sending.1.console =
      s.console ++ (arpTraversals env message packet s).flatMap Traversal.lines := by
  rw [arpTraversals_lines]
  unfold packoutArp at run
  simp only at run
  split at run
  · cases run
  · rename_i learned learn
    have lines := learnHost_lines learn
    split at run
    · cases run
      exact lines
    · split at run
      · cases run
      · rename_i found port looked
        have same := lookupPort_console looked
        split at run
        · cases run
          exact same.trans lines
        · cases run
          exact same.trans lines

theorem packoutIp_console {message : Memory} {packet : PacketIn}
    (run : packoutIp env message packet s = some sending) : sending.1.console = s.console := by
  obtain ⟨found, port, looked, answer⟩ := packoutIp_answered run
  have same := lookupPort_console looked
  cases answer with
  | flow => exact same
  | flood => exact same
  | silent => exact same

theorem packoutLldp_console {message : Memory} {packet : PacketIn}
    (run : packoutLldp env message packet s = some sending) : sending.1.console = s.console := by
  rw [packoutLldp_frame run]

theorem packoutBranch_lines {message : Memory}
    (run : packoutBranch env message (parsePacketIn message) s = some sending) :
    sending.1.console =
      s.console ++ (packoutTraversals env message s).flatMap Traversal.lines := by
  unfold packoutBranch at run
  unfold packoutTraversals
  simp only
  split at run
  · rename_i ip6
    cases run
    rw [if_pos ip6]
    unfold packoutIp6
    split <;> exact (List.append_nil _).symm
  · rename_i notIp6
    rw [if_neg notIp6]
    split at run
    · rename_i arp
      rw [if_pos arp]
      exact packoutArp_lines run
    · rename_i notArp
      rw [if_neg notArp]
      split at run
      · rename_i ip
        rw [if_pos ip]
        exact (packoutIp_console run).trans (List.append_nil _).symm
      · rename_i notIp
        rw [if_neg notIp]
        refine Eq.trans ?_ (List.append_nil _).symm
        split at run
        · exact packoutLldp_console run
        · cases run
          rfl

/-- The transaction id has no part in what the loops meet. -/
theorem packoutTraversals_transactionId (message : Memory) (transactionId : UInt32) :
    packoutTraversals env message { s with transactionId := transactionId } =
      packoutTraversals env message s := rfl

theorem Handler.traversals_lines {handler : Handler} {ofBuffer : Nat}
    (run : handle handler env ofBuffer s = some outcome) :
    outcome.ani.console =
      s.console ++ (handler.traversals env ofBuffer s).flatMap Traversal.lines := by
  cases handler with
  | hello =>
      cases run
      rw [actionHello_frame]
      exact (List.append_nil _).symm
  | echo =>
      cases run
      rw [actionEcho_frame]
      exact (List.append_nil _).symm
  | packout =>
      have run : actionPackout env ofBuffer s = some outcome := run
      unfold actionPackout at run
      simp only at run
      split at run
      · cases run
      · rename_i ended sent branch
        have lines := packoutBranch_lines branch
        rw [packoutTraversals_transactionId] at lines
        split at run <;> cases run <;> exact lines
  | featuresReply =>
      have run : actionFeaturesReply env ofBuffer s = some outcome := run
      show _ = s.console ++
        (featuresTraversals env (s.readBuffer.shift ofBuffer) s).flatMap Traversal.lines
      unfold actionFeaturesReply at run
      unfold featuresTraversals
      simp only at run
      split at run
      · cases run
      · rename_i free
        rw [if_neg free]
        split at run
        · rename_i none
          have zero : featuresCount (s.readBuffer.shift ofBuffer) = 0 := none
          cases run
          rw [if_pos zero]
          exact (List.append_nil _).symm
        · rename_i some
          have nonzero : featuresCount (s.readBuffer.shift ofBuffer) ≠ 0 := some
          rw [if_neg nonzero]
          split at run
          · cases run
          · rename_i added fill
            have filled : addPorts env (s.readBuffer.shift ofBuffer)
                (Told.datapathId (s.readBuffer.shift ofBuffer))
                (featuresCount (s.readBuffer.shift ofBuffer)).toNat 0 s.ports = .some added := fill
            rw [filled]
            split at run
            · cases run
            · rename_i shown printed print
              cases run
              rw [sendSwitchConfig_frame]
              simp [Ani.writing, Traversal.lines, print]

end Lines

/-! ## Every run -/

/-- In every run with allocations that succeed, a call that does not wait for the
mutex returns.  The loops that it runs over the hosts or the ports are those
that are listed for it, and each of them starts at the first entry of the
current table, follows the entries of that table, finds the first host with the
address that it looks for, and prints every entry once and in the order in which
the messages on the connection have added them; and a call prints nothing else. -/
theorem table_traversals_complete {cbench : Bool} {events : List Event} {p : Process} {s : Ani}
    {handler : Handler} {ofBuffer : Nat} {env : Env}
    (reached : Process.Reaches cbench events p) (allocates : AllAllocating events)
    (calling : p.Calling handler ofBuffer s) (now : Allocating env) :
    ((handler.Locks (s.readBuffer.shift ofBuffer) → s.linksMutex = none) →
      ∃ outcome, handle handler env ofBuffer s = some outcome) ∧
    handler.Runs env ofBuffer s (handler.traversals env ofBuffer s) ∧
    (∀ traversal ∈ handler.traversals env ofBuffer s, traversal.Complete ∧
      traversal.Current (toldBy events).tables
        ((toldBy events).take (telling handler (s.readBuffer.shift ofBuffer) env)).tables) ∧
    ∀ outcome, handle handler env ofBuffer s = some outcome →
      outcome.ani.console =
        s.console ++ (handler.traversals env ofBuffer s).flatMap Traversal.lines := by
  obtain ⟨online, same⟩ := calling.spec
  have hosts : s.hosts = p.ani.hosts := by rw [same]
  have ports : s.ports = p.ani.ports := by rw [same]
  have switchId : s.switchId = p.ani.switchId := by rw [same]
  have tidy : s.Tidy := by
    rw [same]
    exact (Process.Reaches.tidy reached allocates).congr rfl rfl rfl rfl
  have knows := (Process.Reaches.follows reached).knows online
  obtain ⟨tables, shows, knownHosts, knownPorts⟩ := knows.tables
  refine ⟨fun unlocked => ?_, handler.runs env ofBuffer s,
    Handler.traversals_complete tidy now ?_ ?_ ?_ handler ofBuffer,
    fun _ => Handler.traversals_lines⟩
  · obtain ⟨outcome, run, -⟩ := handle_returns tidy now unlocked
    exact ⟨outcome, run⟩
  · exact switchId.trans knows.switchId
  · rw [hosts, shows.hosts.contents_eq, knownHosts]
  · rw [ports, shows.ports.contents_eq, knownPorts]

/-- A lookup has left the cursor at the first host, the connection was lost and
the host freed: the cursor dangles.  The next packet looks two addresses up and
shows the table. -/
theorem table_traversals_complete_dangling :
    ∃ (p : Process) (events : List Event) (s : Ani),
      (p.ani.hosts.current.bind p.ani.hosts.heap).isNone ∧ p.ani.hosts.current ≠ none ∧
      (Handler.packout.traversals .calm s.readBufferp s).length = 3 ∧
      (∃ outcome, handle .packout .calm s.readBufferp s = some outcome) ∧
      Handler.packout.Runs .calm s.readBufferp s
        (Handler.packout.traversals .calm s.readBufferp s) ∧
      ∀ traversal ∈ Handler.packout.traversals .calm s.readBufferp s, traversal.Complete ∧
        traversal.Current (toldBy events).tables ((toldBy events).take
          (telling .packout (s.readBuffer.shift s.readBufferp) .calm)).tables := by
  let moves : List Move := [.deliver (arpReport 1 Mac.broadcast hostA),
    .deliver (arpReport 2 hostA hostB), .reconnect 1, .answer]
  have computed : ((Process.initial false).play moves).map
      (fun run =>
        let heard := run.2.hearing (arpReport 3 hostB hostA)
        (decide (run.2.place = .reading) && heard.1.linksMutex.isNone, run.2.ani.cbench,
          (run.2.ani.hosts.current.bind run.2.ani.hosts.heap).isNone,
          run.2.ani.hosts.current.isSome, decide (heard.2 = some .packout),
          (Handler.packout.traversals .calm heard.1.readBufferp heard.1).length)) =
      some (true, false, true, true, true, 3) := by decide +kernel
  obtain ⟨⟨events, p⟩, played, same⟩ := Option.map_eq_some_iff.mp computed
  simp only [Prod.mk.injEq, Bool.and_eq_true, decide_eq_true_eq] at same
  obtain ⟨⟨reading, free⟩, normal, dangling, pointing, chosen, loops⟩ := same
  obtain ⟨q, step, calling⟩ :=
    Process.hearing_calling reading normal (by decide) (by decide) chosen
  have allocates : AllAllocating (events ++ [.received (arpReport 3 hostB hostA)]) := by
    intro call member
    rcases List.mem_append.mp member with earlier | last
    · rw [(Process.play_events played).1 call earlier]
      exact calm_allocating
    · cases List.mem_singleton.mp last
  have reached := (Process.play_run played).snoc step
  obtain ⟨returns, runs, complete, -⟩ :=
    table_traversals_complete reached allocates calling calm_allocating
  refine ⟨p, _, _, dangling, ?_, loops, returns fun _ => Option.isNone_iff_eq_none.mp free, runs,
    complete⟩
  intro none
  rw [none] at pointing
  cases pointing

end DAIM.Ani41
