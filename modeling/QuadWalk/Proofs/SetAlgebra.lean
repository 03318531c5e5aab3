import QuadWalk.Proofs.Commuting
import QuadWalk.Proofs.Unions

/-!
# The algebra of intersection and difference

Where nothing fails, intersection and difference are filters on the rows of their origin. They ask
of each row whether its place occurs in a branch, and of all branches the same: that it does, or
that it does not (`Plan.lists_sift`). The laws of sets follow from what is known of filters, and
they hold of the rows as they are, with their tags, their trails, their order and their repetitions
(`Plan.sets_laws`).

One law takes more. A union drops rows that have the place and the tags of an earlier one; but it
drops no place, so to subtract it is to subtract all of what it joins.
-/

namespace QuadWalk

open Items

namespace Plan

variable {g : Graph} {anchors : Anchors} {p b : Plan} {bs : List Plan} {all : List Row}

/-! ### Filtering by places -/

/-- The places of the rows of a plan. -/
def places (g : Graph) (anchors : Anchors) (p : Plan) : List Position :=
  (rows (p.items g anchors)).map (·.position)

/-- The rows at places that occur in all of some branches, or in none of them. -/
def sift : Bool → Plan → List Plan → Plan
  | true => intersect
  | false => difference

/-- Whether the place of a row occurs in all of some branches, or in none of them. -/
def sifts (g : Graph) (anchors : Anchors) (inAll : Bool) (bs : List Plan) (r : Row) : Bool :=
  bs.all fun b => (b.places g anchors).contains r.position == inAll

theorem mapM_positions (hbs : ∀ b ∈ bs, ErrorFree g anchors b) :
    ((itemsEach g bs anchors).mapM fun branch => positions? (branch ())) =
      .ok (bs.map fun b => .ofList (b.places g anchors)) := by
  rw [itemsEach_eq_map, mapM_ok_iff, List.map_map, List.map_map]
  refine List.map_congr_left fun b hb => ?_
  exact positions?_eq_ok (hbs b hb).lists

/-- **Intersection and difference filter rows by their places.** -/
theorem lists_sift (inAll : Bool) (hp : (p.items g anchors).Lists all)
    (hbs : ∀ b ∈ bs, ErrorFree g anchors b) :
    ((sift inAll p bs).items g anchors).Lists (all.filter (sifts g anchors inAll bs)) := by
  have hitems : (sift inAll p bs).items g anchors =
      siftBy inAll (itemsEach g bs anchors) fun _ => p.items g anchors := by
    cases inAll <;> rw [sift, items]
  rw [hitems, siftBy, mapM_positions hbs, drain]
  refine lists_keep hp fun r _ => congrArg Except.ok ?_
  cases inAll with
  | true => simp [sifts, List.all_map, Function.comp_def]
  | false => simp [sifts, List.any_map, List.not_any_eq_all_not, Function.comp_def]

/-! ### One branch after the other -/

/-- What is filtered branch by branch is filtered by all of them. -/
theorem lists_foldl_sift (inAll : Bool) (hp : (p.items g anchors).Lists all)
    (hbs : ∀ b ∈ bs, ErrorFree g anchors b) :
    ((bs.foldl (fun q b => sift inAll q [b]) p).items g anchors).Lists
      (all.filter (sifts g anchors inAll bs)) := by
  induction bs generalizing p all with
  | nil =>
    have hnone : all.filter (sifts g anchors inAll []) = all := List.filter_eq_self.2 fun _ _ => rfl
    rwa [hnone]
  | cons b bs ih =>
    obtain ⟨hb, hbs⟩ := List.forall_mem_cons.1 hbs
    have hfirst := lists_sift inAll hp (List.forall_mem_singleton.2 hb)
    have hrest := ih hfirst hbs
    have hall : (all.filter (sifts g anchors inAll [b])).filter (sifts g anchors inAll bs) =
        all.filter (sifts g anchors inAll (b :: bs)) := by
      rw [List.filter_filter]
      refine List.filter_congr fun r _ => ?_
      simp [sifts, Bool.and_comm]
    rwa [hall] at hrest

theorem sifts_eq_of_perm {inAll : Bool} {bs' : List Plan} (h : bs'.Perm bs) :
    sifts g anchors inAll bs' = sifts g anchors inAll bs :=
  funext fun _ => h.all_eq

/-- The branches may be taken one after the other, in any order. -/
theorem sameRows_foldl_sift (inAll : Bool) {bs' : List Plan} (h : bs'.Perm bs)
    (hp : ErrorFree g anchors p) (hbs : ∀ b ∈ bs, ErrorFree g anchors b) :
    SameRows g anchors (sift inAll p bs) (bs'.foldl (fun q b => sift inAll q [b]) p) := by
  refine ⟨_, lists_sift inAll hp.lists hbs, ?_⟩
  rw [← sifts_eq_of_perm h]
  exact lists_foldl_sift inAll hp.lists fun b hb => hbs b (h.mem_iff.1 hb)

/-! ### A union of branches -/

/-- A union of plans without errors has none. -/
theorem errorFree_union (h : ∀ q ∈ p :: bs, ErrorFree g anchors q) :
    ErrorFree g anchors (union p bs) := by
  refine exists_lists fun e he => ?_
  rw [toList_union] at he
  obtain ⟨q, hq, he⟩ := List.mem_flatMap.1 (mem_of_mem_eraseDupsBy he)
  rw [show (q.items g anchors).toList = _ from (h q hq).lists] at he
  simp at he

/-- A union has the places of all that it joins. -/
theorem mem_places_union {place : Position} :
    place ∈ (union p bs).places g anchors ↔ ∃ q ∈ p :: bs, place ∈ q.places g anchors := by
  simp only [places, List.mem_map, mem_rows]
  constructor
  · rintro ⟨r, hr, rfl⟩
    rw [toList_union] at hr
    obtain ⟨q, hq, hr⟩ := List.mem_flatMap.1 (mem_of_mem_eraseDupsBy hr)
    exact ⟨q, hq, r, hr, rfl⟩
  · rintro ⟨q, hq, r, hr, rfl⟩
    obtain ⟨r', hr', hplace, -⟩ := exists_mem_union (List.mem_flatMap.2 ⟨q, hq, hr⟩)
    exact ⟨r', hr', hplace⟩

theorem sifts_false_iff {r : Row} :
    sifts g anchors false bs r = true ↔ ∀ b ∈ bs, r.position ∉ b.places g anchors := by
  simp [sifts]

/-- To be in no branch is not to be in their union. -/
theorem sifts_union : sifts g anchors false [union p bs] = sifts g anchors false (p :: bs) := by
  funext r
  rw [Bool.eq_iff_iff, sifts_false_iff, sifts_false_iff]
  simp [mem_places_union]

theorem sameRows_difference_union (hp : ErrorFree g anchors p)
    (hbs : ∀ c ∈ b :: bs, ErrorFree g anchors c) :
    SameRows g anchors (difference p (b :: bs)) (difference p [union b bs]) := by
  have hunion : ∀ c ∈ [union b bs], ErrorFree g anchors c :=
    List.forall_mem_singleton.2 (errorFree_union hbs)
  refine ⟨_, lists_sift false hp.lists hbs, ?_⟩
  rw [← sifts_union]
  exact lists_sift false hp.lists hunion

/-! ### The laws -/

/-- **Intersection and difference obey the laws of sets.** Where neither a plan nor any of some
branches has an error, for any graph and anchors, the intersection with a branch and the difference
from it share the rows of the plan between them, by whether the place of a row occurs in the branch,
and each keeps tags, trails, order and repetitions. An intersection with all branches is one with
each in turn, and so is a difference, whatever the order of the branches; and to subtract branches
is to subtract their union. -/
theorem sets_laws (g : Graph) (anchors : Anchors) (p b : Plan) (bs : List Plan)
    (hp : ErrorFree g anchors p) (hbs : ∀ c ∈ b :: bs, ErrorFree g anchors c) :
    (((intersect p [b]).items g anchors).Lists ((rows (p.items g anchors)).filter fun r =>
        (b.places g anchors).contains r.position) ∧
      ((difference p [b]).items g anchors).Lists ((rows (p.items g anchors)).filter fun r =>
        !(b.places g anchors).contains r.position)) ∧
    (∀ bs' : List Plan, bs'.Perm (b :: bs) →
      SameRows g anchors (intersect p (b :: bs)) (bs'.foldl (fun q c => intersect q [c]) p) ∧
      SameRows g anchors (difference p (b :: bs)) (bs'.foldl (fun q c => difference q [c]) p)) ∧
    SameRows g anchors (difference p (b :: bs)) (difference p [union b bs]) := by
  have hb : ∀ c ∈ [b], ErrorFree g anchors c :=
    List.forall_mem_singleton.2 (List.forall_mem_cons.1 hbs).1
  have hone (inAll : Bool) : sifts g anchors inAll [b] =
      fun r => (b.places g anchors).contains r.position == inAll :=
    funext fun r => Bool.and_true _
  refine ⟨⟨?_, ?_⟩, fun bs' h => ⟨?_, ?_⟩, sameRows_difference_union hp hbs⟩
  · have hcommon := lists_sift true hp.lists hb
    rw [hone] at hcommon
    simpa [sift] using hcommon
  · have hrest := lists_sift false hp.lists hb
    rw [hone] at hrest
    simpa [sift] using hrest
  · exact sameRows_foldl_sift true h hp hbs
  · exact sameRows_foldl_sift false h hp hbs

/-- Alice and whoever is reached from somebody. -/
def aliceOrReached : List Plan :=
  [.fixed [.iri "alice"], .hop .forward .allNodes .allNodes]

/-- One of the four neighbors is Alice; Bob, who is reached twice, may be subtracted with her. -/
theorem sets_laws_neighbors :
    ErrorFree bobLikedByTwo.graph [] neighborsOfAll ∧
    (∀ c ∈ aliceOrReached, ErrorFree bobLikedByTwo.graph [] c) ∧
    ((intersect neighborsOfAll [.fixed [.iri "alice"]]).items bobLikedByTwo.graph []).Lists
      [.moveTo (.atNode 2) 0] ∧
    ((difference neighborsOfAll [.fixed [.iri "alice"]]).items bobLikedByTwo.graph []).Lists
      [.moveTo (.atNode 0) 2, .moveTo (.atNode 2) 3, .moveTo (.atNode 3) 2] ∧
    SameRows bobLikedByTwo.graph [] (intersect neighborsOfAll aliceOrReached)
      (aliceOrReached.reverse.foldl (fun q c => intersect q [c]) neighborsOfAll) ∧
    SameRows bobLikedByTwo.graph [] (difference neighborsOfAll aliceOrReached)
      (difference neighborsOfAll
        [union (.fixed [.iri "alice"]) [.hop .forward .allNodes .allNodes]]) := by
  have hp : ErrorFree bobLikedByTwo.graph [] neighborsOfAll :=
    ⟨neighborRows, eq_map_ok_of_toOption (by decide +kernel)⟩
  have halice : ErrorFree bobLikedByTwo.graph [] (.fixed [.iri "alice"]) :=
    ⟨[.atNode 0], eq_map_ok_of_toOption (by decide +kernel)⟩
  have hreached : ErrorFree bobLikedByTwo.graph [] (.hop .forward .allNodes .allNodes) :=
    ⟨[.moveTo (.atNode 0) 2, .moveTo (.atNode 3) 2], eq_map_ok_of_toOption (by decide +kernel)⟩
  have hbs : ∀ c ∈ aliceOrReached, ErrorFree bobLikedByTwo.graph [] c := by
    simp [aliceOrReached, halice, hreached]
  obtain ⟨⟨hcommon, hrest⟩, hturn, hunion⟩ := sets_laws bobLikedByTwo.graph [] neighborsOfAll _ _
    hp hbs
  refine ⟨hp, hbs, ?_, ?_, (hturn _ (List.reverse_perm _)).1, hunion⟩
  · convert hcommon
    decide +kernel
  · convert hrest
    decide +kernel

end Plan

end QuadWalk
