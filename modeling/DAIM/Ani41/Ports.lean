import DAIM.Ani41.Told

/-!
# The ports table

A features reply is appended to the table that the earlier ones on the same
connection have left, while `no_of_ports` counts its own records only.
-/

namespace DAIM.Ani41

open DAIM.Library DAIM.OpenFlow DAIM.Linked

/-! ## The number of ports -/

theorem portCount_eq {length : UInt16} (whole : OfpSwitchFeatures.size ≤ length.toNat) :
    portCount length =
      ((length.toNat - OfpSwitchFeatures.size) / OfpPhyPort.size : Nat) := by
  have bounded : length.toNat < 65536 := length.toNat_lt
  have quotient : ((length.toUInt64 - UInt64.ofNat OfpSwitchFeatures.size) /
      UInt64.ofNat OfpPhyPort.size).toNat = (length.toNat - 32) / 48 := by
    rw [UInt64.toNat_div, UInt64.toNat_sub_of_le]
    · rfl
    · rw [UInt64.le_iff_toNat_le]
      exact whole
  unfold portCount
  show BitVec.toInt _ = _
  rw [BitVec.toInt_eq_toNat_of_lt]
  · show ((UInt32.toNat _ : Nat) : Int) = ((length.toNat - 32) / 48 : Nat)
    rw [UInt32.toUInt32_toInt32, UInt64.toNat_toUInt32, quotient]
    omega
  · show 2 * UInt32.toNat _ < _
    rw [UInt32.toUInt32_toInt32, UInt64.toNat_toUInt32, quotient]
    omega

/-- Shorter than its fixed part, a reply names more than a thousand million ports. -/
theorem portCount_short {length : UInt16} (short : length.toNat < OfpSwitchFeatures.size) :
    portCount length > 0 := by
  have all : ∀ octets < OfpSwitchFeatures.size, portCount (UInt16.ofNat octets) > 0 := by decide
  have here := all length.toNat short
  rwa [UInt16.ofNat_toNat] at here

theorem portCount_nonneg (length : UInt16) : 0 ≤ portCount length := by
  rcases Nat.lt_or_ge length.toNat OfpSwitchFeatures.size with short | whole
  · exact Int.le_of_lt (portCount_short short)
  · rw [portCount_eq whole]
    exact Int.natCast_nonneg _

/-! ## Several features replies -/

/-- The features replies that were handled. -/
def replies (events : List Event) : List Call :=
  (calls events).filter fun call => decide (call.handler = .featuresReply)

theorem replies_append (events more : List Event) :
    replies (events ++ more) = replies events ++ replies more := by
  rw [replies, calls_append, List.filter_append]
  rfl

namespace Told

variable (told : Told)

theorem portsOf_none {call : Call} (none : featuresCount call.message = 0) :
    portsOf call = [] := by
  rw [portsOf, none]
  rfl

theorem packout_ports {tables : Tables} {allocated : Bool} {switchId : UInt64}
    {message : Memory} : (tables.packout allocated switchId message).ports = tables.ports := by
  unfold Tables.packout
  split <;> rfl

theorem take_ports (call : Call) :
    (told.take call).tables.ports =
      told.tables.ports ++ if call.handler = .featuresReply then portsOf call else [] := by
  unfold take
  cases handler : call.handler with
  | featuresReply =>
      simp only [if_pos]
      split
      · rename_i none
        rw [portsOf_none none, List.append_nil]
      · rfl
  | packout => simp [packout_ports]
  | _ => simp

theorem take_noOfPorts (call : Call) :
    (told.take call).noOfPorts =
      if call.handler = .featuresReply then featuresCount call.message else told.noOfPorts := by
  unfold take
  cases handler : call.handler with
  | featuresReply =>
      simp only [if_pos]
      split
      · rename_i none
        exact none.symm
      · rfl
  | _ => simp

/-- Every reply has added its records. -/
theorem takeAll_ports (calls : List Call) :
    (told.takeAll calls).tables.ports = told.tables.ports ++
      (calls.filter fun call => decide (call.handler = .featuresReply)).flatMap portsOf := by
  induction calls generalizing told with
  | nil => simp [takeAll]
  | cons call rest inductionHypothesis =>
      have here := inductionHypothesis (told.take call)
      rw [take_ports] at here
      by_cases features : call.handler = .featuresReply
      · simpa [takeAll, features] using here
      · simpa [takeAll, features] using here

/-- The last reply has set the number of ports. -/
theorem takeAll_noOfPorts {calls earlier : List Call} {last : Call}
    (replied : (calls.filter fun call => decide (call.handler = .featuresReply)) =
      earlier ++ [last]) :
    (told.takeAll calls).noOfPorts = featuresCount last.message := by
  induction calls using List.reverseRecOn generalizing earlier last with
  | nil => simp at replied
  | append_singleton calls call inductionHypothesis =>
      rw [takeAll_append]
      show ((told.takeAll calls).take call).noOfPorts = _
      rw [take_noOfPorts]
      by_cases features : call.handler = .featuresReply
      · rw [if_pos features]
        simp only [List.filter_append, List.filter_cons, features, decide_true, if_true,
          List.filter_nil] at replied
        obtain ⟨-, same⟩ := List.append_inj' replied rfl
        cases same
        rfl
      · rw [if_neg features]
        simp only [List.filter_append, List.filter_cons, features, decide_false,
          List.filter_nil] at replied
        exact inductionHypothesis (by simpa using replied)

end Told

/-- After a reply that names no port the process has exited. -/
theorem Process.Step.no_ports {p q : Process} {call : Call}
    (step : Process.Step p (.handled call) q) (features : call.handler = .featuresReply)
    (none : featuresCount call.message = 0) : q.place = .exited := by
  obtain ⟨started, ofBuffer, outcome, called⟩ := step.called
  have touches := called.touches
  generalize q.ani.shared = next, outcome.spawned = spawned at touches
  cases touches with
  | nothing _ _ other => exact absurd features other
  | reply is _ _ => exact absurd (is.1.symm.trans features) (by decide)
  | node is _ _ => exact absurd (is.1.symm.trans features) (by decide)
  | started _ some _ => exact absurd none some
  | jammed _ _ _ failed => exact step.exits failed

/-- Only the last reply can have named no port. -/
theorem replies_named {start p : Process} {after : List Event}
    (run : Run Process.Step start after p) :
    (p.place ≠ .exited → ∀ reply ∈ replies after, featuresCount reply.message ≠ 0) ∧
      ∀ earlier last, replies after = earlier ++ [last] →
        ∀ reply ∈ earlier, featuresCount reply.message ≠ 0 := by
  induction run with
  | refl =>
      refine ⟨fun _ reply impossible => absurd impossible List.not_mem_nil, ?_⟩
      intro earlier last replied
      simp [replies, calls] at replied
  | @snoc after middle finish event _ step inductionHypothesis =>
      obtain ⟨running, cut⟩ := inductionHypothesis
      rw [replies_append]
      by_cases reply : ∃ call, event = .handled call ∧ call.handler = .featuresReply
      · obtain ⟨call, rfl, features⟩ := reply
        have one : replies [.handled call] = [call] := by
          simp [replies, calls, Event.call?, features]
        have before : middle.place ≠ .exited :=
          fun exited => (step.after_exit exited).2 call rfl
        rw [one]
        constructor
        · intro alive reply member
          rcases List.mem_append.mp member with old | new
          · exact running before reply old
          · cases List.mem_singleton.mp new
            exact fun none => alive (step.no_ports features none)
        · intro earlier last replied
          obtain ⟨same, -⟩ := List.append_inj' replied rfl
          exact same ▸ running before
      · have none : replies [event] = [] := by
          cases event with
          | handled call =>
              have other : call.handler ≠ .featuresReply := fun features =>
                reply ⟨call, rfl, features⟩
              simp [replies, calls, Event.call?, other]
          | _ => rfl
        rw [none, List.append_nil]
        refine ⟨fun alive => running fun exited => alive (step.after_exit exited).1, cut⟩

/-- The records of the ports that a features reply has room for. -/
def portRecords (message : Memory) : List SwitchPort :=
  (List.range' 0 (((ntohs (message.load16 OfpHeader.length)).toNat - OfpSwitchFeatures.size) /
    OfpPhyPort.size)).map (switchPort message (Told.datapathId message))

/-- The fixed part of a features reply is there. -/
def WholeReply (message : Memory) : Prop :=
  OfpSwitchFeatures.size ≤ (ntohs (message.load16 OfpHeader.length)).toNat

theorem portsOf_allocated {call : Call} (allocates : ∀ index, call.env.allocated index = true) :
    Told.portsOf call = (List.range' 0 (featuresCount call.message).toNat).map
      (switchPort call.message (Told.datapathId call.message)) := by
  rw [Told.portsOf, portEntries, List.filter_eq_self.mpr fun index _ => allocates index]

theorem featuresCount_whole {message : Memory} (whole : WholeReply message) :
    featuresCount message = (portRecords message).length := by
  rw [featuresCount, portCount_eq whole, portRecords, List.length_map, List.length_range']

theorem portsOf_whole {call : Call} (allocates : ∀ index, call.env.allocated index = true)
    (whole : WholeReply call.message) : Told.portsOf call = portRecords call.message := by
  rw [portsOf_allocated allocates, featuresCount_whole whole, portRecords, List.length_map,
    List.length_range']
  rfl

/-- The ports table holds the records of the last features reply, and
`no_of_ports` is their number. -/
def Process.ShowsPorts (p : Process) (last : Call) : Prop :=
  p.ani.ports.contents = portRecords last.message ∧
    p.ani.noOfPorts = (portRecords last.message).length

/-- When the table entries can be allocated, the ports table is that of the
last features reply on the connection exactly if there was none before it, and
if it has its fixed part. -/
theorem ports_table_iff {cbench : Bool} {before after : List Event} {p : Process}
    (session : Session cbench before after p)
    (allocates : ∀ reply ∈ replies after, ∀ index, reply.env.allocated index = true)
    {earlier : List Call} {last : Call} (replied : replies after = earlier ++ [last]) :
    p.ShowsPorts last ↔ earlier = [] ∧ WholeReply last.message := by
  obtain ⟨⟨start, reached, run⟩, connected, lasts⟩ := session
  obtain ⟨-, knows⟩ := session_knows reached connected run lasts
  obtain ⟨tables, shows, -, ports⟩ := knows.tables
  have count : p.ani.noOfPorts = featuresCount last.message :=
    knows.noOfPorts.trans (Told.takeAll_noOfPorts _ replied)
  have table : p.ani.ports.contents =
      earlier.flatMap Told.portsOf ++ Told.portsOf last := by
    rw [shows.ports.contents_eq, ports, Told.takeAll_ports]
    rw [replies] at replied
    simp [replied, Process.remembers, Tables.empty]
  have lastMember : last ∈ replies after := by simp [replied]
  unfold Process.ShowsPorts
  constructor
  · rintro ⟨same, number⟩
    have whole : WholeReply last.message := by
      by_contra short
      have room : (ntohs (last.message.load16 OfpHeader.length)).toNat < OfpSwitchFeatures.size :=
        Nat.lt_of_not_le short
      have positive : featuresCount last.message > 0 := portCount_short room
      have none : portRecords last.message = [] := by
        rw [portRecords, Nat.sub_eq_zero_of_le (Nat.le_of_lt room)]
        rfl
      rw [count, none] at number
      exact absurd number (Int.ne_of_gt positive)
    have records := portsOf_whole (allocates last lastMember) whole
    refine ⟨List.eq_nil_iff_forall_not_mem.mpr ?_, whole⟩
    intro reply member
    rw [table, records] at same
    have nothing := List.append_left_eq_self.mp same
    have named := (replies_named run).2 earlier last replied reply member
    have empty := List.flatMap_eq_nil_iff.mp nothing reply member
    rw [portsOf_allocated (allocates reply (by simp [replied, member])), List.map_eq_nil_iff,
      List.range'_eq_nil_iff] at empty
    have nonneg : 0 ≤ featuresCount reply.message := portCount_nonneg _
    omega
  · rintro ⟨rfl, whole⟩
    have records := portsOf_whole (allocates last lastMember) whole
    rw [count, table, records, featuresCount_whole whole]
    exact ⟨rfl, rfl⟩

/-- The switch names its only port twice, and the table holds it twice. -/
theorem ports_table_repeated :
    ¬ ∀ cbench before after p earlier last, Session cbench before after p →
      replies after = earlier ++ [last] → p.ShowsPorts last := by
  intro always
  let moves : List Move := [.deliver (featuresMessage 11 [1]), .deliver (featuresMessage 11 [1])]
  have computed : ((Process.initial false).play moves).map
      (fun run => (run.2.ani.ports.contents.length, run.2.ani.noOfPorts,
        (replies run.1).length)) = some (2, 1, 2) := by decide
  obtain ⟨⟨events, p⟩, played, here⟩ := Option.map_eq_some_iff.mp computed
  simp only [Prod.mk.injEq] at here
  obtain ⟨entries, number, replied⟩ := here
  obtain ⟨earlier, last, cut⟩ : ∃ earlier last, replies events = earlier ++ [last] := by
    rcases List.eq_nil_or_concat' (replies events) with none | cut
    · rw [none] at replied
      cases replied
    · exact cut
  have session := Session.played played (by simp [moves, Move.Stays])
  obtain ⟨table, count⟩ := always false [] events p earlier last session cut
  rw [← table, number, entries] at count
  cases count

theorem ports_table_iff_first :
    ∃ events p last, Session false [] events p ∧ replies events = [] ++ [last] ∧
      (p.ShowsPorts last ↔ ([] : List Call) = [] ∧ WholeReply last.message) := by
  let moves : List Move := [.deliver (featuresMessage 11 [1])]
  have computed : ((Process.initial false).play moves).map
      (fun run => (replies run.1).length) = some 1 := by decide
  obtain ⟨⟨events, p⟩, played, replied⟩ := Option.map_eq_some_iff.mp computed
  obtain ⟨last, one⟩ := List.length_eq_one_iff.mp replied
  have session := Session.played played (by simp [moves, Move.Stays])
  have allocates : ∀ reply ∈ replies events, ∀ index, reply.env.allocated index = true := by
    intro reply member index
    have called := calls_mem (List.mem_filter.mp member).1
    rw [(Process.play_events played).1 reply called]
    rfl
  exact ⟨events, p, last, session, one, ports_table_iff session allocates one⟩

end DAIM.Ani41
