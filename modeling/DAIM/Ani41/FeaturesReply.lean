import DAIM.Ani41.Calling

/-!
# One features reply

`action_features_reply` computes the number of records from the length of the
message alone.  A message that is shorter than its fixed part makes the loop
read far beyond it, and one that has no record makes the function return while
it holds `links_mutex`.
-/

namespace DAIM.Ani41

open DAIM.Library DAIM.OpenFlow DAIM.Linked

/-! ## The records of the message -/

/-- Shorter than its fixed part, a reply names more ports than any message has
room for. -/
theorem portCount_short_many {length : UInt16} (short : length.toNat < OfpSwitchFeatures.size) :
    portCount length > 1364 := by
  have all : ∀ octets < OfpSwitchFeatures.size, portCount (UInt16.ofNat octets) > 1364 := by decide
  have here := all length.toNat short
  rwa [UInt16.ofNat_toNat] at here

/-- The reply has added its records to the table, and the loop has read no
record that is not in the message. -/
structure Appended (s next : Ani) (message : Memory) : Prop where
  records : next.ports.contents = s.ports.contents ++ portRecords message
  nonneg : 0 ≤ next.noOfPorts
  most : next.noOfPorts ≤ 1364
  inside : OfpSwitchFeatures.size + OfpPhyPort.size * next.noOfPorts ≤
    (ntohs (message.load16 OfpHeader.length)).toNat

section Replies

variable {env : Env} {s : Ani} {tables : Tables} {ofBuffer : Nat} {outcome : Outcome}

/-- What a handled reply leaves in the table and in `no_of_ports`. -/
theorem actionFeaturesReply_ports (shows : s.Shows tables)
    (run : actionFeaturesReply env ofBuffer s = some outcome) :
    outcome.ani.noOfPorts = featuresCount (s.readBuffer.shift ofBuffer) ∧
      outcome.ani.ports.contents = s.ports.contents ++
        portEntries env (s.readBuffer.shift ofBuffer)
          (Told.datapathId (s.readBuffer.shift ofBuffer))
          (featuresCount (s.readBuffer.shift ofBuffer)).toNat 0 := by
  obtain ⟨-, -, -, -, count, left⟩ := actionFeaturesReply_spec shows run
  refine ⟨count, ?_⟩
  rw [shows.ports.contents_eq]
  split at left
  · rename_i none
    have zero : featuresCount (s.readBuffer.shift ofBuffer) = 0 := none
    rw [zero, left.1.ports.contents_eq]
    exact (List.append_nil _).symm
  · exact left.1.ports.contents_eq

/-- The first entry cannot be added to a list that is half built. -/
theorem addPorts_halfBuilt {ports : ObjectList SwitchPort} (half : ports.HalfBuilt)
    (message : Memory) (switchId : UInt64) {rounds index : Nat}
    (allocated : env.allocated index = true) :
    addPorts env message switchId (rounds + 1) index ports = none := by
  obtain ⟨object, block⟩ := Bool.and_eq_true_iff.mp allocated
  rw [addPorts, object, block, half.addFilled_none]

/-- A reply that names ports and returns has come through the loop. -/
theorem actionFeaturesReply_added (some : featuresCount (s.readBuffer.shift ofBuffer) ≠ 0)
    (run : actionFeaturesReply env ofBuffer s = .some outcome) :
    addPorts env (s.readBuffer.shift ofBuffer) (Told.datapathId (s.readBuffer.shift ofBuffer))
      (featuresCount (s.readBuffer.shift ofBuffer)).toNat 0 s.ports ≠ none := by
  intro crashed
  unfold featuresCount Told.datapathId at crashed
  unfold actionFeaturesReply at run
  simp only [crashed] at run
  split at run
  · cases run
  · split at run
    · rename_i none
      exact some none
    · cases run

/-- A reply that names no port returns at once. -/
theorem actionFeaturesReply_zero (env : Env) (free : s.linksMutex = none)
    (zero : featuresCount (s.readBuffer.shift ofBuffer) = 0) :
    ∃ outcome, actionFeaturesReply env ofBuffer s = some outcome := by
  unfold actionFeaturesReply
  simp only
  rw [if_neg (not_not.mpr free)]
  split
  · exact ⟨_, rfl⟩
  · rename_i named
    exact absurd zero named

/-- No reply without its fixed part stays in the bounds. -/
theorem Appended.whole {next : Ani} {message : Memory} (appended : Appended s next message)
    (number : next.noOfPorts = featuresCount message) : WholeReply message := by
  by_contra short
  have many : featuresCount message > 1364 := portCount_short_many (Nat.lt_of_not_le short)
  have most := appended.most
  rw [number] at most
  omega

/-- All entries were added only if all of them were allocated. -/
theorem portEntries_allocated {message : Memory} {switchId : UInt64}
    (all : portEntries env message switchId (portRecords message).length 0 =
      portRecords message) :
    ∀ index < (portRecords message).length, env.allocated index = true := by
  have lengths := congrArg List.length all
  rw [portEntries, List.length_map] at lengths
  have range : (List.range' 0 (portRecords message).length).length =
      (portRecords message).length := List.length_range'
  have kept := List.length_filter_eq_length_iff.mp (lengths.trans range.symm)
  intro index inside
  exact kept index (List.mem_range'_1.mpr ⟨Nat.zero_le _, by omega⟩)

theorem portEntries_whole {message : Memory}
    (allocates : ∀ index < (portRecords message).length, env.allocated index = true) :
    portEntries env message (Told.datapathId message) (portRecords message).length 0 =
      portRecords message := by
  have kept : (List.range' 0 (portRecords message).length).filter env.allocated =
      List.range' 0 (portRecords message).length := by
    apply List.filter_eq_self.mpr
    intro index member
    exact allocates index (by simpa using (List.mem_range'_1.mp member).2)
  rw [portEntries, kept, portRecords, List.length_map, List.length_range']

/-- A whole reply whose entries are allocated stays in the bounds. -/
theorem appended_whole {next : Ani} {message : Memory} (whole : WholeReply message)
    (number : next.noOfPorts = featuresCount message)
    (records : next.ports.contents = s.ports.contents ++ portRecords message) :
    Appended s next message := by
  have count := featuresCount_whole whole
  have bounded := (ntohs (message.load16 OfpHeader.length)).toNat_lt
  have room : (portRecords message).length =
      ((ntohs (message.load16 OfpHeader.length)).toNat - 32) / 48 := by
    rw [portRecords, List.length_map, List.length_range']
  have least : 32 ≤ (ntohs (message.load16 OfpHeader.length)).toNat := whole
  refine ⟨records, by omega, by omega, ?_⟩
  rw [number, count]
  show (32 : Int) + 48 * _ ≤ _
  omega

end Replies

/-- In every reachable state a call returns and appends exactly the records of
its reply if and only if the mutex is free, the reply has its fixed part and,
unless it has no record, the list of the ports is intact and the entries can be
allocated. -/
theorem features_reply_appends_iff {cbench : Bool} {events : List Event} {p : Process}
    {ofBuffer : Nat} {s : Ani} (reached : Process.Reaches cbench events p)
    (calling : p.Calling .featuresReply ofBuffer s) (env : Env) :
    (∃ outcome, handle .featuresReply env ofBuffer s = some outcome ∧
      Appended s outcome.ani (s.readBuffer.shift ofBuffer)) ↔
    s.linksMutex = none ∧ WholeReply (s.readBuffer.shift ofBuffer) ∧
      (portRecords (s.readBuffer.shift ofBuffer) ≠ [] →
        (∃ cells, s.ports.Holds cells) ∧
          ∀ index < (portRecords (s.readBuffer.shift ofBuffer)).length,
            env.allocated index = true) := by
  obtain ⟨tables, before, -⟩ := reached.tables
  have shows : s.Shows tables := calling.shows before
  have atRest : s.ports.current = none := by
    rw [calling.spec.2]
    exact Process.Reaches.atRest reached
  constructor
  · rintro ⟨outcome, run, appended⟩
    obtain ⟨number, table⟩ := actionFeaturesReply_ports shows run
    have whole := appended.whole number
    have count := featuresCount_whole whole
    refine ⟨(actionFeaturesReply_shared run).1, whole, fun lists => ?_⟩
    have entries := appended.records
    rw [table, List.append_cancel_left_eq, count, Int.toNat_natCast] at entries
    have allocates := portEntries_allocated entries
    refine ⟨?_, allocates⟩
    rcases shows.ports with ⟨cells, intact, -⟩ | ⟨-, half⟩
    · exact ⟨cells, intact⟩
    · have positive := List.length_pos_iff.mpr lists
      obtain ⟨rounds, more⟩ := Nat.exists_eq_add_one.mpr positive
      have named : featuresCount (s.readBuffer.shift ofBuffer) ≠ 0 := by omega
      have crashed := actionFeaturesReply_added named run
      rw [count, Int.toNat_natCast, more] at crashed
      exact absurd (addPorts_halfBuilt half _ _ (allocates 0 positive)) crashed
  · rintro ⟨free, whole, lists⟩
    have count := featuresCount_whole whole
    by_cases none : portRecords (s.readBuffer.shift ofBuffer) = []
    · have zero : featuresCount (s.readBuffer.shift ofBuffer) = 0 := by
        rw [count, none]
        rfl
      obtain ⟨outcome, run⟩ := actionFeaturesReply_zero env free zero
      obtain ⟨number, table⟩ := actionFeaturesReply_ports shows run
      refine ⟨outcome, run, appended_whole whole number ?_⟩
      rw [table, zero, none]
      rfl
    · obtain ⟨⟨cells, intact⟩, allocates⟩ := lists none
      have enough : ∀ index, index < (featuresCount (s.readBuffer.shift ofBuffer)).toNat →
          env.allocated index = true := by
        intro index below
        exact allocates index (by omega)
      obtain ⟨outcome, run, -⟩ := actionFeaturesReply_returns free intact atRest enough
      obtain ⟨number, table⟩ := actionFeaturesReply_ports shows run
      refine ⟨outcome, run, appended_whole whole number ?_⟩
      rw [table, count, Int.toNat_natCast, portEntries_whole allocates]

/-- Only a header, which promises neither a datapath id nor a port. -/
def shortReply : List UInt8 := [1, 6, 0, 8, 0, 0, 0, 1]

/-- The call of a reply that is received first. -/
theorem reply_calling {chunk : List UInt8} (some : chunk ≠ [])
    (fits : chunk.length ≤ readBufferSize)
    (chosen : ((Process.initial false).hearing chunk).2 = .some .featuresReply) :
    ∃ p s ofBuffer, Process.Reaches false [.received chunk] p ∧
      p.Calling .featuresReply ofBuffer s ∧ s.linksMutex = none ∧ s.ports.Holds [] ∧
      s.readBuffer.shift ofBuffer = Memory.ofList chunk Memory.zero := by
  obtain ⟨p, received, calling⟩ := Process.hearing_calling rfl rfl some fits chosen
  rw [Process.hearing_eq] at calling
  exact ⟨p, _, _, .single received, calling, rfl, ObjectList.holds_empty, Memory.shift_zero _⟩

/-- The reply without a fixed part makes the loop read 1431655764 records. -/
theorem short_reply_reads_on :
    ¬ ∀ cbench events p ofBuffer s env, Process.Reaches cbench events p →
      p.Calling .featuresReply ofBuffer s → s.linksMutex = none →
      (∃ cells, s.ports.Holds cells) → (∀ index, env.allocated index = true) →
      ∃ outcome, handle .featuresReply env ofBuffer s = some outcome ∧
        Appended s outcome.ani (s.readBuffer.shift ofBuffer) := by
  intro always
  obtain ⟨p, s, ofBuffer, reached, calling, free, empty, message⟩ :=
    reply_calling (show shortReply ≠ [] by decide) (by decide) rfl
  obtain ⟨outcome, run, appended⟩ :=
    always _ _ p ofBuffer s .calm reached calling free ⟨[], empty⟩ fun _ => rfl
  obtain ⟨tables, before, -⟩ := reached.tables
  have most := appended.most
  rw [(actionFeaturesReply_ports (calling.shows before) run).1, message] at most
  exact absurd most (by decide)

theorem features_reply_appends_iff_two :
    ∃ p s ofBuffer outcome, Process.Reaches false [.received (featuresMessage 11 [1, 2])] p ∧
      p.Calling .featuresReply ofBuffer s ∧
      (portRecords (s.readBuffer.shift ofBuffer)).length = 2 ∧
      handle .featuresReply .calm ofBuffer s = some outcome ∧
      Appended s outcome.ani (s.readBuffer.shift ofBuffer) := by
  obtain ⟨p, s, ofBuffer, reached, calling, free, empty, message⟩ :=
    reply_calling (show featuresMessage 11 [1, 2] ≠ [] by decide) (by decide +kernel)
      (by decide +kernel)
  have whole : WholeReply (s.readBuffer.shift ofBuffer) := by
    rw [message, WholeReply]
    decide +kernel
  obtain ⟨outcome, run, appended⟩ := (features_reply_appends_iff reached calling .calm).mpr
    ⟨free, whole, fun _ => ⟨⟨[], empty⟩, fun _ _ => rfl⟩⟩
  refine ⟨p, s, ofBuffer, outcome, reached, calling, ?_, run, appended⟩
  rw [message]
  decide +kernel

/-! ## The mutex -/

/-- The message has its fixed part and no room for a record. -/
def NoPorts (message : Memory) : Prop :=
  OfpSwitchFeatures.size ≤ (ntohs (message.load16 OfpHeader.length)).toNat ∧
    (ntohs (message.load16 OfpHeader.length)).toNat < OfpSwitchFeatures.size + OfpPhyPort.size

theorem featuresCount_eq_zero_iff {message : Memory} :
    featuresCount message = 0 ↔ NoPorts message := by
  unfold NoPorts
  by_cases whole : WholeReply message
  · have here : 32 ≤ (ntohs (message.load16 OfpHeader.length)).toNat := whole
    have count : featuresCount message =
        (((ntohs (message.load16 OfpHeader.length)).toNat - 32) / 48 : Nat) := portCount_eq whole
    show _ ↔ 32 ≤ _ ∧ _ < 32 + 48
    omega
  · have many : featuresCount message > 0 := portCount_short (Nat.lt_of_not_le whole)
    exact iff_of_false (by omega) fun has => whole has.1

/-- Which call leaves the mutex locked that it found free. -/
theorem Call.Touches.released {call : Call} {switchId : UInt64} {s next : Shared} {spawned : Bool}
    (touches : call.Touches switchId s next spawned) (free : s.linksMutex = none) :
    next.linksMutex ≠ some .main ↔
      ¬ (call.handler = .featuresReply ∧ featuresCount call.message = 0) := by
  have kept : s.linksMutex ≠ some .main := by
    rw [free]
    exact fun impossible => nomatch impossible
  cases touches with
  | nothing _ _ other => exact iff_of_true kept fun has => other has.1
  | reply is _ _ => exact iff_of_true kept fun has => absurd (is.1.symm.trans has.1) (by decide)
  | node is _ _ => exact iff_of_true kept fun has => absurd (is.1.symm.trans has.1) (by decide)
  | started _ some _ => exact iff_of_true kept fun has => some has.2
  | jammed features none _ _ => exact iff_of_false (not_not.mpr rfl) (not_not.mpr ⟨features, none⟩)

/-- A handler called while the mutex is free gives it back, unless it was given
a features reply without ports. -/
theorem mutex_released_iff {p q : Process} {call : Call} (free : p.ani.linksMutex = none)
    (step : Process.Step p (.handled call) q) :
    q.ani.linksMutex ≠ some .main ↔
      ¬ (call.handler = .featuresReply ∧ NoPorts call.message) := by
  obtain ⟨started, ofBuffer, outcome, called⟩ := step.called
  rw [← featuresCount_eq_zero_iff]
  exact called.touches.released free

/-- The fixed part alone makes the function return with the mutex held. -/
theorem reply_keeps_mutex :
    ¬ ∀ p q call, p.ani.linksMutex = none → Process.Step p (.handled call) q →
      q.ani.linksMutex ≠ some .main := by
  intro always
  have computed : ((Process.initial false).deliver (featuresMessage 11 []) Env.calm).map
      (fun delivered => delivered.2.ani.linksMutex) = some (some .main) := by decide
  obtain ⟨⟨call, q⟩, delivered, held⟩ := Option.map_eq_some_iff.mp computed
  obtain ⟨p, received, handled⟩ := (Process.deliver_run delivered).cons_inv
  have free : p.ani.linksMutex = none := by
    cases received
    rfl
  exact always p q call free handled.single_inv held

/-- A features reply that is received first is handled when the allocations
succeed. -/
theorem reply_handled {chunk : List UInt8} (some : chunk ≠ [])
    (fits : chunk.length ≤ readBufferSize)
    (chosen : normalHandler
        { Ani.initial false with
          readBuffer := Memory.ofList chunk Memory.zero
          readBufferLen := chunk.length
          readBufferp := 0 } =
      ({ Ani.initial false with
          readBuffer := Memory.ofList chunk Memory.zero
          readBufferLen := chunk.length
          readBufferp := 0
          pheader := .read 0 }, Option.some .featuresReply)) :
    ∃ p q call, Process.Reaches false [.received chunk] p ∧ Process.Step p (.handled call) q ∧
      call.handler = .featuresReply ∧ call.env = Env.calm ∧
      call.message = Memory.ofList chunk Memory.zero := by
  have whole : Ani.Whole
      { Ani.initial false with
        readBuffer := Memory.ofList chunk Memory.zero
        readBufferLen := chunk.length
        readBufferp := 0
        pheader := .read 0 } :=
    (Ani.initial_whole false).congr rfl rfl rfl rfl rfl
  obtain ⟨outcome, run, -⟩ := actionFeaturesReply_whole whole calm_allocating 0
  refine ⟨_, _, _, .single (.received some fits), .answered rfl chosen run, rfl, rfl, ?_⟩
  show (Memory.ofList chunk Memory.zero).shift 0 = _
  rw [Memory.shift_zero]

theorem mutex_released_iff_one :
    ∃ p q call, p.ani.linksMutex = none ∧ Process.Step p (.handled call) q ∧
      (q.ani.linksMutex ≠ some .main ↔
        ¬ (call.handler = .featuresReply ∧ NoPorts call.message)) := by
  obtain ⟨p, q, call, reached, step, -⟩ :=
    reply_handled (show featuresMessage 11 [1] ≠ [] by decide) (by decide) rfl
  have free : p.ani.linksMutex = none := by
    cases reached.single_inv
    rfl
  exact ⟨p, q, call, free, step, mutex_released_iff free step⟩

end DAIM.Ani41
