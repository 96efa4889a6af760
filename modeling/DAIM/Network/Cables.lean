import DAIM.Network.Traffic

/-!
# Networks given by lists of cables

A script that builds a network adds cables between switches and hosts at
switches, and numbers the ports of a switch in this order.
-/

namespace DAIM.Network

open DAIM.Library DAIM.OpenFlow DAIM.Ani41

/-- The cables between switches, and the hosts with the ports they are attached at. -/
structure Plan (Switch : Type*) where
  cables : List (Port Switch × Port Switch)
  hosts : List (Mac × Port Switch)
  datapathId : Switch → UInt64

namespace Plan

variable {Switch : Type*}

/-- Every cable from both of its ends. -/
def ends (plan : Plan Switch) : List (Port Switch × Port Switch) :=
  plan.cables ++ plan.cables.map Prod.swap

/-- The ports in use. -/
def used (plan : Plan Switch) : List (Port Switch) :=
  plan.ends.map Prod.fst ++ plan.hosts.map Prod.snd

/-- No port is used twice, and all have numbers of their own. -/
structure Valid (plan : Plan Switch) : Prop where
  distinct : plan.used.Nodup
  physical : ∀ here ∈ plan.used, here.2 ≠ ofppFlood

theorem mem_of_lookup {Key Value : Type*} [BEq Key] [LawfulBEq Key] {pairs : List (Key × Value)}
    {key : Key} {value : Value} (found : pairs.lookup key = some value) : (key, value) ∈ pairs := by
  obtain ⟨before, after, rfl, -⟩ := List.lookup_eq_some_iff.mp found
  exact List.mem_append_right _ List.mem_cons_self

/-- Where no key occurs twice, every pair is found. -/
theorem lookup_of_mem {Key Value : Type*} [BEq Key] [LawfulBEq Key] {pairs : List (Key × Value)}
    (distinct : (pairs.map Prod.fst).Nodup) {key : Key} {value : Value}
    (member : (key, value) ∈ pairs) : pairs.lookup key = some value := by
  obtain ⟨before, after, rfl⟩ := List.append_of_mem member
  refine List.lookup_eq_some_iff.mpr ⟨before, after, rfl, fun pair earlier => ?_⟩
  rw [List.map_append, List.map_cons] at distinct
  have apart := (List.nodup_middle.mp distinct).notMem
  refine bne_iff_ne.mpr fun same => apart (List.mem_append_left _ ?_)
  exact List.mem_map.mpr ⟨pair, earlier, same.symm⟩

theorem mem_ends_swap {plan : Plan Switch} {here there : Port Switch}
    (member : (here, there) ∈ plan.ends) : (there, here) ∈ plan.ends := by
  rcases List.mem_append.mp member with cable | swapped
  · exact List.mem_append_right _ (List.mem_map.mpr ⟨_, cable, rfl⟩)
  · obtain ⟨⟨other, last⟩, cable, same⟩ := List.mem_map.mp swapped
    cases same
    exact List.mem_append_left _ cable

theorem mem_used_of_ends {plan : Plan Switch} {here there : Port Switch}
    (member : (here, there) ∈ plan.ends) : here ∈ plan.used :=
  List.mem_append_left _ (List.mem_map.mpr ⟨_, member, rfl⟩)

theorem mem_used_of_hosts {plan : Plan Switch} {mac : Mac} {here : Port Switch}
    (member : (mac, here) ∈ plan.hosts) : here ∈ plan.used :=
  List.mem_append_right _ (List.mem_map.mpr ⟨_, member, rfl⟩)

variable [DecidableEq Switch]

instance (plan : Plan Switch) : Decidable plan.Valid :=
  decidable_of_iff (plan.used.Nodup ∧ ∀ here ∈ plan.used, here.2 ≠ ofppFlood)
    ⟨fun ⟨distinct, physical⟩ => ⟨distinct, physical⟩,
      fun valid => ⟨valid.distinct, valid.physical⟩⟩

/-- The used ports of one switch. -/
def portsOf (plan : Plan Switch) (s : Switch) : List UInt16 :=
  (plan.used.filter fun here => here.1 = s).map Prod.snd

theorem mem_portsOf {plan : Plan Switch} {here : Port Switch} (member : here ∈ plan.used) :
    here.2 ∈ plan.portsOf here.1 :=
  List.mem_map_of_mem (List.mem_filter.mpr ⟨member, decide_eq_true rfl⟩)

/-- The network that the plan describes. -/
def cabling (plan : Plan Switch) (valid : plan.Valid) : Cabling Switch where
  link here := plan.ends.lookup here
  symmetric := fun linked =>
    lookup_of_mem valid.distinct.of_append_left (mem_ends_swap (mem_of_lookup linked))
  physical := fun linked => valid.physical _ (mem_used_of_ends (mem_of_lookup linked))
  attached mac := plan.hosts.lookup mac
  hostPort := by
    intro mac here attached
    have host : here ∈ plan.hosts.map Prod.snd := List.mem_map.mpr ⟨_, mem_of_lookup attached, rfl⟩
    cases linked : plan.ends.lookup here with
    | none => rfl
    | some there =>
        have cable : here ∈ plan.ends.map Prod.fst :=
          List.mem_map.mpr ⟨_, mem_of_lookup linked, rfl⟩
        exact absurd rfl ((List.nodup_append.mp valid.distinct).2.2 here cable here host)
  datapathId := plan.datapathId
  ports := plan.portsOf
  distinct := by
    intro s
    apply List.Nodup.map_on _ (valid.distinct.filter _)
    intro here member there other same
    have left : here.1 = s := of_decide_eq_true (List.mem_filter.mp member).2
    have right : there.1 = s := of_decide_eq_true (List.mem_filter.mp other).2
    exact Prod.ext (left.trans right.symm) same
  numbered := by
    intro s flood
    obtain ⟨here, member, same⟩ := List.mem_map.mp flood
    exact valid.physical here (List.mem_filter.mp member).1 same
  cabled := fun linked => mem_portsOf (mem_used_of_ends (mem_of_lookup linked))
  hosted := fun attached => mem_portsOf (mem_used_of_hosts (mem_of_lookup attached))

/-- No port is linked to itself. -/
theorem cabling_apart {plan : Plan Switch} (valid : plan.Valid) (port : Port Switch) :
    (plan.cabling valid).link port ≠ some port := by
  intro linked
  have distinct := valid.distinct.of_append_left
  unfold ends at distinct
  rw [List.map_append] at distinct
  have both : (port, port) ∈ plan.cables := by
    rcases List.mem_append.mp (mem_of_lookup linked) with cable | swapped
    · exact cable
    · obtain ⟨⟨here, there⟩, cable, same⟩ := List.mem_map.mp swapped
      cases same
      exact cable
  have first : port ∈ plan.cables.map Prod.fst := List.mem_map.mpr ⟨_, both, rfl⟩
  have second : port ∈ (plan.cables.map Prod.swap).map Prod.fst :=
    List.mem_map.mpr ⟨_, List.mem_map.mpr ⟨_, both, rfl⟩, rfl⟩
  exact (List.nodup_append.mp distinct).2.2 port first port second rfl

end Plan

/-! ## Networks of the scripts -/

/-- The address of the host with a number. -/
def scriptHost (number : UInt8) : Mac := ⟨2, 0, 0, 0, 0, number⟩

/-- `lineartest.py`: the switches s1 and s2 are 0 and 1. -/
def linearPlan : Plan (Fin 2) where
  cables := [((0, 1), (1, 1))]
  hosts := [(scriptHost 2, (1, 2)), (scriptHost 1, (0, 2))]
  datapathId s := UInt64.ofNat (s + 1)

/-- `testring.py`: the switches s1 to s7 are 0 to 6. -/
def ringPlan : Plan (Fin 7) where
  cables :=
    [((0, 2), (1, 1)), ((1, 2), (2, 1)), ((2, 2), (3, 1)), ((3, 2), (4, 1)), ((4, 2), (5, 1)),
      ((5, 2), (6, 1)), ((6, 2), (0, 3))]
  hosts :=
    [(scriptHost 1, (0, 1)), (scriptHost 6, (5, 3)), (scriptHost 5, (4, 3)),
      (scriptHost 2, (1, 3)), (scriptHost 7, (6, 3)), (scriptHost 4, (3, 3)),
      (scriptHost 3, (2, 3))]
  datapathId s := UInt64.ofNat (s + 1)

/-- `treetest.py`: the switches s1 to s7 are 0 to 6. -/
def treePlan : Plan (Fin 7) where
  cables :=
    [((1, 1), (3, 1)), ((1, 2), (4, 1)), ((2, 1), (5, 1)), ((2, 2), (6, 1)), ((0, 1), (1, 3)),
      ((0, 2), (2, 3))]
  hosts :=
    [(scriptHost 5, (5, 2)), (scriptHost 6, (5, 3)), (scriptHost 3, (4, 2)),
      (scriptHost 4, (4, 3)), (scriptHost 2, (3, 2)), (scriptHost 1, (3, 3)),
      (scriptHost 7, (6, 2)), (scriptHost 8, (6, 3))]
  datapathId s := UInt64.ofNat (s + 1)

/-- `testmesh.py`: the switches s1 to s4 are 0 to 3. -/
def meshPlan : Plan (Fin 4) where
  cables :=
    [((0, 2), (1, 1)), ((1, 2), (2, 1)), ((2, 2), (3, 1)), ((3, 2), (0, 3)), ((0, 4), (2, 3)),
      ((3, 3), (1, 3))]
  hosts := [(scriptHost 1, (0, 1)), (scriptHost 2, (2, 4))]
  datapathId s := UInt64.ofNat (s + 1)

def linear : Cabling (Fin 2) := linearPlan.cabling (by decide)

def ring : Cabling (Fin 7) := ringPlan.cabling (by decide)

def tree : Cabling (Fin 7) := treePlan.cabling (by decide)

def mesh : Cabling (Fin 4) := meshPlan.cabling (by decide)

end DAIM.Network
