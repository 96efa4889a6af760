import Mathlib.Data.List.Nodup

/-!
# Routes over next hops

Nodes with ports, links between ports, and for one destination a partial
assignment of a next hop to each node.  A route follows next hops over links to
the port of the destination.  When a node gets its next hop only from a
neighbour that has one, every node with a next hop has a route, and no route
comes to a node twice.
-/

namespace DAIM.Library

variable {Node Port : Type*}

/-- From a node, by its next hop and over links, to the port `home`; `path`
lists the nodes that are visited. -/
inductive Route (link : Node × Port → Option (Node × Port)) (hop : Node → Option Port)
    (home : Node × Port) : Node → List Node → Prop where
  | arrive {node : Node} {port : Port} : hop node = some port → home = (node, port) →
      Route link hop home node [node]
  | step {node next : Node} {port arrival : Port} {path : List Node} : hop node = some port →
      link (node, port) = some (next, arrival) → Route link hop home next path → node ∉ path →
      Route link hop home node (node :: path)

namespace Route

variable {link : Node × Port → Option (Node × Port)} {hop later : Node → Option Port}
variable {home : Node × Port} {node : Node} {path : List Node}

theorem nodup (route : Route link hop home node path) : path.Nodup := by
  induction route with
  | arrive _ _ => exact List.nodup_singleton _
  | step _ _ _ fresh inductionHypothesis => exact List.nodup_cons.mpr ⟨fresh, inductionHypothesis⟩

/-- Every node on a route has a next hop. -/
theorem known (route : Route link hop home node path) {visited : Node} (member : visited ∈ path) :
    ∃ port, hop visited = some port := by
  induction route with
  | arrive here _ =>
      cases List.mem_singleton.mp member
      exact ⟨_, here⟩
  | step here _ _ _ inductionHypothesis =>
      rcases List.mem_cons.mp member with rfl | rest
      · exact ⟨_, here⟩
      · exact inductionHypothesis rest

/-- Next hops that are added leave a route as it is. -/
theorem mono (grown : ∀ other port, hop other = some port → later other = some port)
    (route : Route link hop home node path) : Route link later home node path := by
  induction route with
  | arrive here arrived => exact .arrive (grown _ _ here) arrived
  | step here linked _ fresh inductionHypothesis =>
      exact .step (grown _ _ here) linked inductionHypothesis fresh

/-- A node without a next hop gets one, to the destination or to a neighbour
with a route. -/
theorem learn {port : Port} (grown : ∀ other port, hop other = some port → later other = some port)
    (unknown : hop node = none) (learned : later node = some port)
    (toward : home = (node, port) ∨ ∃ next arrival path,
      link (node, port) = some (next, arrival) ∧ Route link hop home next path) :
    ∃ path, Route link later home node path := by
  rcases toward with arrived | ⟨next, arrival, path, linked, route⟩
  · exact ⟨[node], .arrive learned arrived⟩
  · refine ⟨node :: path, .step learned linked (route.mono grown) ?_⟩
    -- a node on the route has a next hop, this one had none
    intro visited
    obtain ⟨other, known⟩ := route.known visited
    rw [unknown] at known
    cases known

end Route

end DAIM.Library
