import QuadWalk.Proofs.Agreement
import QuadWalk.Proofs.Parts

/-!
# Steps for which the order of rows does not matter

Most steps do not care in which order they meet their rows (`Step.isOrderFree`). Run on two graphs
that correspond, with items that agree in place of their placeholders, such a step has items that
agree: `Step.agree_meaning`. The others take the first row of something, keep or drop rows by where
they stand, or go back along a trail, and of the trails of equal rows a union keeps whichever comes
first.
-/

namespace QuadWalk

variable {Same : NodeId → NodeId → Prop}

/-! ### Walking on graphs that correspond -/

namespace Graph.Corresponds

variable {g h : Graph} {r s : Row} {rs ss : List Row} {ps qs : NodeSet}

theorem lookupAll (hc : g.Corresponds h Same) (values : List Value) :
    Paired Same (g.lookupAll values) (h.lookupAll values) :=
  Paired.filterMap_same fun v _ => hc.lookup v

theorem nodeSet_lookupAll (hc : g.Corresponds h Same) (values : List Value) :
    NodeSet.Alike Same (.ofList (g.lookupAll values)) (.ofList (h.lookupAll values)) :=
  .ofList hc.oneToOne (hc.lookupAll values)

/-- Walks in several directions, one after the other, lead to the same nodes. -/
theorem neighborsEach (hc : g.Corresponds h Same) (hp : NodeSet.Alike Same ps qs) {i j : NodeId}
    (hij : Same i j) (ds : List Direction) :
    ∃ iss jss, (ds.mapM fun d => ofStore (g.neighbors i ps d)) = .ok iss ∧
      (ds.mapM fun d => ofStore (h.neighbors j qs d)) = .ok jss ∧
      Paired Same iss.flatten jss.flatten := by
  induction ds with
  | nil => exact ⟨[], [], rfl, rfl, .nil⟩
  | cons d ds ih =>
    obtain ⟨iss, jss, hiss, hjss, hrest⟩ := ih
    obtain ⟨is, js, his, hjs, hfirst⟩ := hc.neighbors d hij hp
    refine ⟨is :: iss, js :: jss, ?_, ?_, hfirst.append hrest⟩
    · rw [List.mapM_cons, hiss, his]
      rfl
    · rw [List.mapM_cons, hjss, hjs]
      rfl

theorem walk (hc : g.Corresponds h Same) (hp : NodeSet.Alike Same ps qs) {t : Traversal}
    (hr : r.Alike Same s) (h₁ : g.walk t ps r = .ok rs) (h₂ : h.walk t qs s = .ok ss) :
    Paired (Row.Alike Same) rs ss := by
  unfold Graph.walk at h₁ h₂
  rcases hr.position.node_cases with ⟨hr₁, hr₂⟩ | ⟨i, j, hi, hj, hij⟩
  · rw [hr₁] at h₁
    rw [hr₂] at h₂
    cases h₁
    cases h₂
    exact .nil
  · rw [hi] at h₁
    rw [hj] at h₂
    obtain ⟨iss, jss, hiss, hjss, hreached⟩ := hc.neighborsEach hp hij t.directions
    obtain ⟨_, heq₁, h₁⟩ := bind_ok_iff.1 h₁
    obtain ⟨_, heq₂, h₂⟩ := bind_ok_iff.1 h₂
    cases hiss.symm.trans heq₁
    cases hjss.symm.trans heq₂
    cases h₁
    cases h₂
    exact Paired.map_iff.2 (hreached.mono fun _ _ _ _ hij => hr.moveTo hij)

theorem save (hc : g.Corresponds h Same) (hp : NodeSet.Alike Same ps qs) {d : Direction}
    {tag : String} (hr : r.Alike Same s) (h₁ : g.save d ps tag r = .ok rs)
    (h₂ : h.save d qs tag s = .ok ss) : Paired (Row.Alike Same) rs ss := by
  unfold Graph.save at h₁ h₂
  rcases hr.position.node_cases with ⟨hr₁, hr₂⟩ | ⟨i, j, hi, hj, hij⟩
  · rw [hr₁] at h₁
    rw [hr₂] at h₂
    cases h₁
    cases h₂
    exact .nil
  · obtain ⟨is, js, his, hjs, hfar⟩ := hc.neighbors d hij hp
    simp only [hi, his] at h₁
    simp only [hj, hjs] at h₂
    cases h₁
    cases h₂
    exact Paired.map_iff.2 (hfar.mono fun _ _ _ _ hij => hr.bind tag hij)

theorem savePredicates (hc : g.Corresponds h Same) {d : Direction} {tag : String}
    (hr : r.Alike Same s) (h₁ : g.savePredicates d tag r = .ok rs)
    (h₂ : h.savePredicates d tag s = .ok ss) : Paired (Row.Alike Same) rs ss := by
  unfold Graph.savePredicates at h₁ h₂
  rcases hr.position.node_cases with ⟨hr₁, hr₂⟩ | ⟨i, j, hi, hj, hij⟩
  · rw [hr₁] at h₁
    rw [hr₂] at h₂
    cases h₁
    cases h₂
    exact .nil
  · obtain ⟨is, js, his, hjs, hnames⟩ := hc.predicates d hij
    simp only [hi, his] at h₁
    simp only [hj, hjs] at h₂
    cases h₁
    cases h₂
    exact Paired.map_iff.2 (hnames.mono fun _ _ _ _ hij => hr.bind tag hij)

theorem reaches (hc : g.Corresponds h Same) (hp : NodeSet.Alike Same ps qs) {d : Direction}
    {us vs : NodeSet} (ht : NodeSet.Alike Same us vs) {b c : Bool} (hr : r.Alike Same s)
    (h₁ : g.reaches d ps us r = .ok b) (h₂ : h.reaches d qs vs s = .ok c) : b = c := by
  unfold Graph.reaches at h₁ h₂
  rcases hr.position.node_cases with ⟨hr₁, hr₂⟩ | ⟨i, j, hi, hj, hij⟩
  · rw [hr₁] at h₁
    rw [hr₂] at h₂
    exact Except.ok.inj (h₁.symm.trans h₂)
  · obtain ⟨is, js, his, hjs, hfar⟩ := hc.neighbors d hij hp
    simp only [hi, his] at h₁
    simp only [hj, hjs] at h₂
    cases h₁
    cases h₂
    exact hfar.any_eq fun _ _ hij => ht hij

theorem passes_eq (hc : g.Corresponds h Same) (m : TextMatcher) (hr : r.Alike Same s) :
    g.passes m r = h.passes m s := by
  obtain ⟨v, hg, hh⟩ := hc.valueAt hr.position
  rw [Graph.passes, Graph.passes, hg, hh]

theorem compares_eq (hc : g.Corresponds h Same) (c : Comparison) (operand : Value)
    (hr : r.Alike Same s) : g.compares c operand r = h.compares c operand s := by
  obtain ⟨v, hg, hh⟩ := hc.valueAt hr.position
  rw [Graph.compares, Graph.compares, hg, hh]

end Graph.Corresponds

/-! ### Order-free steps -/

namespace Step

open Items

/-- Whether a step by itself does not care in which order it meets its rows, nor about their trails.
-/
def isOrderFree : Step → Bool
  | back _ | propertyNames _ _ | limit _ _ | skip _ _ | unique _ | whereAll _ _ | optional _ _
  | select _ _ | selectFirst _ | documents _ => false
  | _ => true

/-- **Order-free steps agree on graphs that correspond**, if their placeholders stand for items that
agree. -/
theorem agree_meaning {sizeLimit : Nat} {g₁ g₂ : Graph} (hc : g₁.Corresponds g₂ Same) {s : Step}
    (hs : ∀ p ∈ s.parts, p.isOrderFree = true) {ph₁ ph₂ : Items} (hph : Agree Same ph₁ ph₂) :
    Agree Same (s.meaning sizeLimit g₁ ph₁) (s.meaning sizeLimit g₂ ph₂) := by
  have hS := hc.oneToOne
  have of_previous {o : Step} (ho : s.previous? = some o) :
      Agree Same (o.meaning sizeLimit g₁ ph₁) (o.meaning sizeLimit g₂ ph₂) := by
    have := sizeOf_lt_of_previous ho
    exact agree_meaning hc (fun p hp => hs p (mem_parts_of_previous ho hp)) hph
  have hself := hs s (mem_parts_self s)
  cases s with
  | entities ids =>
    refine .drain fun values values' h₁ h₂ => ?_
    cases h₁.symm.trans h₂
    exact .atNode (hc.lookupAll values)
  | vertex values =>
    rw [meaning, meaning]
    split
    · exact .atNode hc.nodes
    · exact .atNode (hc.lookupAll values)
  | placeholder => exact hph
  | visit t o property =>
    have hproperty : Agree Same (property.meaning sizeLimit g₁ ph₁)
        (property.meaning sizeLimit g₂ ph₂) :=
      agree_meaning hc (fun p hp => hs p (mem_parts_of_visited hp)) hph
    refine .drain fun ps qs h₁ h₂ => (of_previous rfl).expand fun r₁ r₂ rs₁ rs₂ hr h₁' h₂' => ?_
    exact hc.walk (hproperty.nodeSet? hS h₁ h₂) hr h₁' h₂'
  | has d o property values =>
    have hproperty : Agree Same (property.meaning sizeLimit g₁ ph₁)
        (property.meaning sizeLimit g₂ ph₂) :=
      agree_meaning hc (fun p hp => hs p (mem_parts_of_had hp)) hph
    refine .drain fun ps qs h₁ h₂ => (of_previous rfl).keep fun r₁ r₂ b₁ b₂ hr h₁' h₂' => ?_
    exact hc.reaches (hproperty.nodeSet? hS h₁ h₂) (hc.nodeSet_lookupAll values) hr h₁' h₂'
  | backTo o tag => exact (of_previous rfl).change fun _ _ hr => hr.backTo? tag
  | properties d o names =>
    rw [meaning, meaning]
    have ho := of_previous rfl
    generalize o.meaning sizeLimit g₁ ph₁ = items₁ at ho
    generalize o.meaning sizeLimit g₂ ph₂ = items₂ at ho
    clear of_previous hs hself
    induction names generalizing items₁ items₂ with
    | nil => exact ho
    | cons name names ih =>
      exact ih _ _ (ho.expand fun _ _ _ _ hr => hc.save (hc.nodeSet_lookupAll _) hr)
  | propertyNamesAs d o tag =>
    exact (of_previous rfl).expand fun _ _ _ _ hr => hc.savePredicates hr
  | isOneOf o values =>
    exact (of_previous rfl).isOneOf (hc.nodeSet_lookupAll values) values
  | combine operation o ss =>
    have hss : List.Forall₂ (fun b₁ b₂ => Agree Same (b₁ ()) (b₂ ()))
        (meaningEach sizeLimit g₁ ss ph₁) (meaningEach sizeLimit g₂ ss ph₂) := by
      rw [meaningEach_eq_map, meaningEach_eq_map, List.forall₂_map_left_iff,
        List.forall₂_map_right_iff, List.forall₂_same]
      intro b hb
      have := List.sizeOf_lt_of_mem hb
      exact agree_meaning hc (fun p hp => hs p (mem_parts_of_combined hb hp)) hph
    cases operation with
    | union => exact ((of_previous rfl).append (.concat hss)).distinct hS
    | intersect => exact .siftBy hS (of_previous rfl) hss
    | difference => exact .siftBy hS (of_previous rfl) hss
  | filter o condition =>
    refine .drain fun m m' h₁ h₂ => (of_previous rfl).keep fun r₁ r₂ b₁ b₂ hr hb₁ hb₂ => ?_
    cases h₁.symm.trans h₂
    rw [hc.passes_eq m hr, hb₂] at hb₁
    exact (Except.ok.inj hb₁).symm
  | compare c o operand =>
    refine (of_previous rfl).keep fun r₁ r₂ b₁ b₂ hr hb₁ hb₂ => ?_
    rw [hc.compares_eq c operand hr, hb₂] at hb₁
    exact (Except.ok.inj hb₁).symm
  | count o => exact (of_previous rfl).count
  | order o => exact (of_previous rfl).order
  | tagged o name => exact (of_previous rfl).change fun _ _ hr => .some (hr.mark name)
  | follow o f =>
    exact agree_meaning hc (fun p hp => hs p (mem_parts_of_fragment hp)) (of_previous rfl)
  | _ => simp [isOrderFree] at hself
termination_by sizeOf s

end Step

end QuadWalk
