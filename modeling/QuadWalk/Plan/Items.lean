import QuadWalk.Plan.Operators

/-!
# Running a plan

`Plan.items` gives what a plan yields on a graph. It is read off the plan operator by operator; a
branch is run once for each row of its origin, with that row in place of its anchor.

## The model

Items are worked out when they are asked for, so that a query of which only a few rows are wanted
does not pay for all of them. Which items they are does not depend on that.
-/

namespace QuadWalk

/-- The rows for which the branches around a plan are run, the innermost first. -/
abbrev Anchors := List (AnchorId × Row)

/-- What an anchor yields: its row, or an error outside the branches that have one. -/
def Anchors.item (anchors : Anchors) (id : AnchorId) : Item :=
  match anchors.lookup id with
  | some r => .ok r
  | none => .error (.malformedStep (.strayAnchor id))

namespace Plan

open Items

mutual

/-- What a plan yields on a graph. -/
def items (g : Graph) : Plan → Anchors → Items
  | fixed values, _ => ofRows ((g.lookupAll values).map .atNode)
  | allNodes, _ => ofRows (g.nodes.map .atNode)
  | anchor id, anchors => .ofList [anchors.item id]
  | hop t p via, anchors =>
    drain (nodeSet? (items g via anchors)) fun predicates =>
      expand (g.walk t predicates) (items g p anchors)
  | predicates d p, anchors => expand (g.walkToPredicates d) (items g p anchors)
  | save d p v t, anchors =>
    expand (g.save d (.ofList (g.lookupAll [v])) t) (items g p anchors)
  | savePredicates d p t, anchors => expand (g.savePredicates d t) (items g p anchors)
  | has d p via values, anchors =>
    drain (nodeSet? (items g via anchors)) fun predicates =>
      keep (g.reaches d predicates (.ofList (g.lookupAll values))) (items g p anchors)
  | isOneOf p values, anchors =>
    Items.isOneOf (.ofList (g.lookupAll values)) values (items g p anchors)
  | filter p m, anchors => keep (g.passes m) (items g p anchors)
  | compare c p v, anchors => keep (g.compares c v) (items g p anchors)
  | back p, anchors => change Row.back? (items g p anchors)
  | backTo p t, anchors => change (·.backTo? t) (items g p anchors)
  | tag p t, anchors => change (fun r => some (r.mark t)) (items g p anchors)
  | union p bs, anchors =>
    distinct ((items g p anchors).append fun _ => .concat (itemsEach g bs anchors))
  | intersect p bs, anchors => siftBy true (itemsEach g bs anchors) fun _ => items g p anchors
  | difference p bs, anchors => siftBy false (itemsEach g bs anchors) fun _ => items g p anchors
  | whereAll p a bs, anchors =>
    expand (fun r => join false r (itemsEach g bs ((a, r) :: anchors))) (items g p anchors)
  | optional p a b, anchors =>
    expand (fun r => join true r [fun _ => items g b ((a, r) :: anchors)]) (items g p anchors)
  | limit p n, anchors => .limit n fun _ => items g p anchors
  | skip p n, anchors => Items.skip n (items g p anchors)
  | unique p, anchors => Items.unique (items g p anchors)
  | order p, anchors => Items.order g (items g p anchors)
  | count p, anchors => Items.count (items g p anchors)

/-- What each of some plans yields, once it is asked for. -/
def itemsEach (g : Graph) : List Plan → Anchors → List (Unit → Items)
  | [], _ => []
  | b :: bs, anchors => (fun _ => items g b anchors) :: itemsEach g bs anchors

end

theorem itemsEach_eq_map {g : Graph} (bs : List Plan) (anchors : Anchors) :
    itemsEach g bs anchors = bs.map fun b _ => b.items g anchors := by
  induction bs with
  | nil => simp [itemsEach]
  | cons b bs ih => simp [itemsEach, ih]

/-- Under its own anchor, an anchor yields the row for which the branch is run. -/
theorem items_anchor {g : Graph} (id : AnchorId) (r : Row) (anchors : Anchors) :
    (anchor id).items g ((id, r) :: anchors) = ofRows [r] := by
  simp [items, Anchors.item, ofRows]

end Plan

end QuadWalk
