import DAIM.Library.FirstSeen
import DAIM.OpenFlow.Layout
import DAIM.Linked.Represents

/-!
# The hosts table

The parts of `action_packout` that use the hosts table, which are the same
text in versions 1 and 4: the loop that learns the sender of an ARP packet and
the loop that looks up a destination.
-/

namespace DAIM

open DAIM.Library DAIM.OpenFlow DAIM.Linked

structure SwitchHost where
  datapathId : UInt64
  portNo : UInt16
  macAddr : Mac
  ipAddr : UInt32
  deriving DecidableEq, Repr

/-- What the outside world decides during one call of a handler: the results of
its sends, of the allocations of each `add_object`, of `pthread_create`, and
the value it returns when control runs off its end. -/
structure Env where
  sendResult : Nat → Int
  objectAllocated : Nat → Bool
  blockAllocated : Nat → Bool
  threadCreated : Bool
  fallsOff : Int

/-- Whether the `index`-th `add_object` of the call succeeds. -/
def Env.allocated (env : Env) (index : Nat) : Bool :=
  env.objectAllocated index && env.blockAllocated index

/-- Every system call succeeds. -/
def Env.calm : Env where
  sendResult := fun _ => 1
  objectAllocated := fun _ => true
  blockAllocated := fun _ => true
  threadCreated := true
  fallsOff := 0

namespace Hosts

/-- `memcmp (hostp->mac_addr, mac, MAC_ADDR_LEN) == 0`. -/
def sameMac (mac : Mac) (host : SwitchHost) : Bool := decide (host.macAddr = mac)

/-- Search the address of the entry, and add the entry when it is new.  The
second result is what `show_hosts` prints then. -/
def learn (env : Env) (hosts : ObjectList SwitchHost) (entry : SwitchHost) :
    Option (ObjectList SwitchHost × List SwitchHost) :=
  match hosts.find (sameMac entry.macAddr) with
  | none => none
  | some (hosts, some _) => some (hosts, [])
  | some (hosts, none) =>
      match hosts.addFilled (env.objectAllocated 0) (env.blockAllocated 0) entry with
      | none => none
      | some hosts => hosts.showAll

/-- `out_port` stays 0 without an entry for the address. -/
def lookup (hosts : ObjectList SwitchHost) (mac : Mac) :
    Option (ObjectList SwitchHost × UInt16) :=
  match hosts.find (sameMac mac) with
  | none => none
  | some (hosts, none) => some (hosts, 0)
  | some (hosts, some host) => some (hosts, host.portNo)

/-- The port recorded for an address, 0 when there is none. -/
def portOf (hosts : List SwitchHost) (mac : Mac) : UInt16 :=
  match hosts.find? (sameMac mac) with
  | none => 0
  | some host => host.portNo

/-- The table has a port for the address. -/
def Knows (hosts : List SwitchHost) (mac : Mac) : Prop :=
  ∃ host ∈ hosts, host.macAddr = mac ∧ host.portNo ≠ 0

/-- The port of the entry for an address. -/
def entryPort (hosts : List SwitchHost) (mac : Mac) : Option UInt16 :=
  (hosts.find? (sameMac mac)).map SwitchHost.portNo

/-! ## On the records of the table -/

section Records

variable {list : ObjectList SwitchHost} {records : List SwitchHost} {env : Env}
variable {entry : SwitchHost}

theorem known_of_find {found : SwitchHost} {mac : Mac}
    (present : records.find? (sameMac mac) = some found) :
    found ∈ records ∧ found.macAddr = mac :=
  ⟨List.mem_of_find?_eq_some present, by simpa [sameMac] using List.find?_some present⟩

theorem unknown_of_find {mac : Mac} (absent : records.find? (sameMac mac) = none) :
    mac ∉ records.map SwitchHost.macAddr := by
  intro known
  obtain ⟨host, member, same⟩ := List.mem_map.mp known
  exact List.find?_eq_none.mp absent host member (by simpa [sameMac] using same)

/-- A host is learned unless its address is known or its entry cannot be allocated. -/
theorem learn_spec (sound : list.Sound records) {learned : ObjectList SwitchHost}
    {printed : List SwitchHost} (run : learn env list entry = some (learned, printed)) :
    learned.Sound (if env.allocated 0 then insertNew SwitchHost.macAddr records entry
      else records) := by
  obtain ⟨moved, found, kept⟩ := sound.find_eq (sameMac entry.macAddr)
  unfold learn at run
  rw [found] at run
  cases present : records.find? (sameMac entry.macAddr) with
  | some host =>
      obtain ⟨member, same⟩ := known_of_find present
      have known : entry.macAddr ∈ records.map SwitchHost.macAddr :=
        List.mem_map.mpr ⟨host, member, same⟩
      rw [present] at run
      cases run
      rwa [insertNew_of_mem _ known, ite_self]
  | none =>
      rw [present] at run
      rw [insertNew_of_notMem _ (unknown_of_find present)]
      simp only at run
      split at run
      · cases run
      · rename_i added fill
        exact (kept.addFilled fill).showAll run

/-- Learning fails on a half-built table only. -/
theorem learn_returns {cells : List (Addr × SwitchHost)} (intact : list.Holds cells)
    (env : Env) (entry : SwitchHost) : ∃ result, learn env list entry = some result := by
  obtain ⟨moved, found, -, -⟩ := intact.find_eq (sameMac entry.macAddr)
  unfold learn
  cases present : (cells.map Prod.snd).find? (sameMac entry.macAddr) with
  | some host =>
      rw [found, present]
      exact ⟨_, rfl⟩
  | none =>
      rw [present] at found
      obtain ⟨added, shown, fill, print⟩ := intact.addFilled_showAll found
        (env.objectAllocated 0) (env.blockAllocated 0) entry
      rw [found]
      simp only [fill, print]
      exact ⟨_, rfl⟩

theorem learn_none (sound : list.Sound records) (fails : learn env list entry = none) :
    records = [] := by
  rcases sound with ⟨cells, intact, -⟩ | ⟨empty, -⟩
  · obtain ⟨result, returned⟩ := learn_returns intact env entry
    rw [fails] at returned
    cases returned
  · exact empty

theorem lookup_spec (sound : list.Sound records) (mac : Mac) :
    ∃ moved, lookup list mac = some (moved, portOf records mac) ∧ moved.Sound records := by
  obtain ⟨moved, found, kept⟩ := sound.find_eq (sameMac mac)
  refine ⟨moved, ?_, kept⟩
  unfold lookup portOf
  rw [found]
  cases records.find? (sameMac mac) <;> rfl

theorem find_of_mem (distinct : (records.map SwitchHost.macAddr).Nodup) {host : SwitchHost}
    (member : host ∈ records) : records.find? (sameMac host.macAddr) = some host := by
  induction records with
  | nil => cases member
  | cons first rest inductionHypothesis =>
      rw [List.map_cons, List.nodup_cons] at distinct
      rcases List.mem_cons.mp member with rfl | later
      · simp [sameMac]
      · have different : first.macAddr ≠ host.macAddr := by
          intro same
          exact distinct.1 (same ▸ List.mem_map_of_mem later)
        rw [List.find?_cons_of_neg (by simpa [sameMac] using different)]
        exact inductionHypothesis distinct.2 later

theorem portOf_eq (distinct : (records.map SwitchHost.macAddr).Nodup) {host : SwitchHost}
    (member : host ∈ records) : portOf records host.macAddr = host.portNo := by
  rw [portOf, find_of_mem distinct member]

theorem portOf_ne_zero_iff (distinct : (records.map SwitchHost.macAddr).Nodup) (mac : Mac) :
    portOf records mac ≠ 0 ↔ Knows records mac := by
  constructor
  · intro nonzero
    unfold portOf at nonzero
    split at nonzero
    · exact absurd rfl nonzero
    · rename_i host found
      obtain ⟨member, same⟩ := known_of_find found
      exact ⟨host, member, same, nonzero⟩
  · rintro ⟨host, member, rfl, nonzero⟩
    rwa [portOf_eq distinct member]

/-- A known address keeps its port whatever is learned. -/
theorem portOf_insertNew {mac : Mac} (known : portOf records mac ≠ 0) :
    portOf (insertNew SwitchHost.macAddr records entry) mac = portOf records mac := by
  unfold insertNew
  split
  · rfl
  · unfold portOf at known ⊢
    rw [List.find?_append]
    cases found : records.find? (sameMac mac) with
    | none =>
        rw [found] at known
        exact absurd rfl known
    | some host => rfl

theorem entryPort_of_mem (distinct : (records.map SwitchHost.macAddr).Nodup) {host : SwitchHost}
    (member : host ∈ records) : entryPort records host.macAddr = some host.portNo := by
  rw [entryPort, find_of_mem distinct member]
  rfl

/-- An entry that is there stays. -/
theorem entryPort_insertNew {mac : Mac} {port : UInt16}
    (known : entryPort records mac = some port) :
    entryPort (insertNew SwitchHost.macAddr records entry) mac = some port := by
  unfold insertNew
  split
  · exact known
  · unfold entryPort at known ⊢
    obtain ⟨host, found, same⟩ := Option.map_eq_some_iff.mp known
    rw [List.find?_append, found]
    exact congrArg some same

/-- The only entry that can be new is that of the sender. -/
theorem entryPort_insertNew_cases {mac : Mac} {port : UInt16}
    (known : entryPort (insertNew SwitchHost.macAddr records entry) mac = some port) :
    entryPort records mac = some port ∨
      entryPort records mac = none ∧ mac = entry.macAddr ∧ port = entry.portNo := by
  unfold insertNew at known
  split at known
  · exact .inl known
  · cases before : entryPort records mac with
    | some other =>
        have kept : entryPort (insertNew SwitchHost.macAddr records entry) mac = some other :=
          entryPort_insertNew before
        rw [insertNew, if_neg ‹_›, known] at kept
        exact .inl kept.symm
    | none =>
        unfold entryPort at before known
        rw [List.find?_append, Option.map_eq_none_iff.mp before, Option.none_or] at known
        obtain ⟨host, found, same⟩ := Option.map_eq_some_iff.mp known
        obtain ⟨member, sender⟩ := known_of_find found
        cases List.mem_singleton.mp member
        exact .inr ⟨rfl, sender.symm, same.symm⟩

/-- After learning there is an entry for the sender. -/
theorem entryPort_insertNew_self :
    ∃ port, entryPort (insertNew SwitchHost.macAddr records entry) entry.macAddr = some port := by
  cases before : entryPort records entry.macAddr with
  | some port => exact ⟨port, entryPort_insertNew before⟩
  | none =>
      have absent : records.find? (sameMac entry.macAddr) = none :=
        Option.map_eq_none_iff.mp before
      rw [insertNew_of_notMem _ (unknown_of_find absent), entryPort, List.find?_append, absent]
      refine ⟨entry.portNo, ?_⟩
      simp [sameMac]

end Records

end Hosts

end DAIM
