import QuadWalk.Proofs.Alike
import QuadWalk.Proofs.FirstSeen
import QuadWalk.Proofs.TotalOrder

/-!
# Items that agree on two graphs

Two runs of one query on graphs that correspond meet the same rows in different orders. Their items
agree if the rows are alike, whenever there is no error among the items (`Items.Agree`). Errors are
left out because which of several comes first depends on the order.

Here is what each operator does to items that agree. Those that go row by row, count, sort or look
for places among other rows have items that agree again; and so has a union, although of the rows
with one place and the same tags it keeps whichever comes first.
-/

namespace QuadWalk

variable {Same : NodeId → NodeId → Prop}

namespace Items

variable {items items₁ items₂ : Items} {rows : List Row}

/-! ### Items that agree -/

/-- If there are no errors among the items, then like rows are. -/
def Agree (Same : NodeId → NodeId → Prop) (items₁ items₂ : Items) : Prop :=
  ∀ rows₁ rows₂, Lists items₁ rows₁ → Lists items₂ rows₂ →
    Paired (Row.Alike Same) rows₁ rows₂

namespace Agree

theorem ofRows {rows₁ rows₂ : List Row} (h : Paired (Row.Alike Same) rows₁ rows₂) :
    Agree Same (ofRows rows₁) (ofRows rows₂) := by
  intro rs₁ rs₂ h₁ h₂
  rw [← lists_ofRows_iff.1 h₁, ← lists_ofRows_iff.1 h₂]
  exact h

/-- Rows at the same nodes. -/
theorem atNode {is js : List NodeId} (h : Paired Same is js) :
    Agree Same (Items.ofRows (is.map .atNode)) (Items.ofRows (js.map .atNode)) :=
  .ofRows (Paired.map_iff.2 (h.mono fun _ _ _ _ hij => .atNode hij))

/-! ### One row after the other -/

theorem expand {f₁ f₂ : Row → Except QueryError (List Row)} (h : Agree Same items₁ items₂)
    (hf : ∀ r₁ r₂ rs₁ rs₂, Row.Alike Same r₁ r₂ → f₁ r₁ = .ok rs₁ → f₂ r₂ = .ok rs₂ →
      Paired (Row.Alike Same) rs₁ rs₂) :
    Agree Same (expand f₁ items₁) (expand f₂ items₂) := by
  intro rows₁ rows₂ h₁ h₂
  obtain ⟨origin₁, ho₁, hok₁, rfl⟩ := exists_of_lists_expand h₁
  obtain ⟨origin₂, ho₂, hok₂, rfl⟩ := exists_of_lists_expand h₂
  refine (h origin₁ origin₂ ho₁ ho₂).flatMap fun r₁ hr₁ r₂ hr₂ hr => ?_
  obtain ⟨rs₁, hrs₁⟩ := hok₁ r₁ hr₁
  obtain ⟨rs₂, hrs₂⟩ := hok₂ r₂ hr₂
  rw [hrs₁, hrs₂]
  exact hf r₁ r₂ rs₁ rs₂ hr hrs₁ hrs₂

theorem keep {test₁ test₂ : Row → Except QueryError Bool} (h : Agree Same items₁ items₂)
    (ht : ∀ r₁ r₂ b₁ b₂, Row.Alike Same r₁ r₂ → test₁ r₁ = .ok b₁ → test₂ r₂ = .ok b₂ → b₁ = b₂) :
    Agree Same (keep test₁ items₁) (keep test₂ items₂) := by
  refine h.expand fun r₁ r₂ rs₁ rs₂ hr hrs₁ hrs₂ => ?_
  cases ht₁ : test₁ r₁ with
  | error e => simp [ht₁, Except.map] at hrs₁
  | ok b₁ =>
    cases ht₂ : test₂ r₂ with
    | error e => simp [ht₂, Except.map] at hrs₂
    | ok b₂ =>
      obtain rfl := ht r₁ r₂ b₁ b₂ hr ht₁ ht₂
      simp only [ht₁, ht₂, Except.map, Except.ok.injEq] at hrs₁ hrs₂
      subst hrs₁ hrs₂
      split
      · exact .cons hr .nil
      · exact .nil

theorem change {f₁ f₂ : Row → Option Row} (h : Agree Same items₁ items₂)
    (hf : ∀ r₁ r₂, Row.Alike Same r₁ r₂ → Option.Rel (Row.Alike Same) (f₁ r₁) (f₂ r₂)) :
    Agree Same (change f₁ items₁) (change f₂ items₂) := by
  refine h.expand fun r₁ r₂ rs₁ rs₂ hr hrs₁ hrs₂ => ?_
  cases hrs₁
  cases hrs₂
  exact .of_option (hf r₁ r₂ hr)

theorem isOneOf {ps qs : NodeSet} (h : Agree Same items₁ items₂) (hp : NodeSet.Alike Same ps qs)
    (values : List Value) : Agree Same (isOneOf ps values items₁) (isOneOf qs values items₂) := by
  refine h.keep fun r₁ r₂ b₁ b₂ hr h₁ h₂ => ?_
  have hpos := hr.position
  generalize r₁.position = p at hpos h₁
  generalize r₂.position = q at hpos h₂
  cases hpos with
  | stored hij =>
    cases h₁
    cases h₂
    exact hp hij
  | computed v => exact Except.ok.inj (h₁.symm.trans h₂)

/-! ### All rows first -/

theorem drain {α : Type} {p₁ p₂ : Except QueryError α} {f₁ f₂ : α → Items}
    (h : ∀ a₁ a₂, p₁ = .ok a₁ → p₂ = .ok a₂ → Agree Same (f₁ a₁) (f₂ a₂)) :
    Agree Same (drain p₁ f₁) (drain p₂ f₂) := by
  intro rows₁ rows₂ h₁ h₂
  cases p₁ with
  | error e => exact absurd h₁ not_lists_error
  | ok a₁ =>
    cases p₂ with
    | error e => exact absurd h₂ not_lists_error
    | ok a₂ => exact h a₁ a₂ rfl rfl rows₁ rows₂ h₁ h₂

theorem count (h : Agree Same items₁ items₂) : Agree Same (count items₁) (count items₂) := by
  refine drain fun rows₁ rows₂ h₁ h₂ => ofRows ?_
  rw [(h rows₁ rows₂ (rows?_eq_ok.1 h₁) (rows?_eq_ok.1 h₂)).length_eq]
  exact .cons ⟨.computed _, .empty⟩ .nil

end Agree

/-! ### Sets of places -/

/-- Sets that have like places. -/
def PlacesAlike (Same : NodeId → NodeId → Prop) (ps qs : Std.HashSet Position) : Prop :=
  ∀ ⦃p q⦄, Position.Alike Same p q → ps.contains p = qs.contains q

theorem PlacesAlike.contains_each {sets₁ sets₂ : List (Std.HashSet Position)}
    (h : List.Forall₂ (PlacesAlike Same) sets₁ sets₂) {p q : Position} (hpq : p.Alike Same q) :
    sets₁.map (·.contains p) = sets₂.map (·.contains q) := by
  induction h with
  | nil => rfl
  | cons hset _ ih => rw [List.map_cons, List.map_cons, hset hpq, ih]

theorem mem_positions_iff {rows₁ rows₂ : List Row} (hS : OneToOne Same)
    (h : Paired (Row.Alike Same) rows₁ rows₂) {p q : Position} (hpq : p.Alike Same q) :
    p ∈ rows₁.map (·.position) ↔ q ∈ rows₂.map (·.position) :=
  (Paired.map_iff.2 (h.mono fun _ _ _ _ hr => hr.position)).mem_iff (Position.Alike.oneToOne hS) hpq

namespace Agree

/-- The nodes of rows that agree. -/
theorem nodeSet? (hS : OneToOne Same) (h : Agree Same items₁ items₂) {ps qs : NodeSet}
    (h₁ : nodeSet? items₁ = .ok ps) (h₂ : nodeSet? items₂ = .ok qs) : NodeSet.Alike Same ps qs := by
  obtain ⟨rows₁, hrows₁, rfl⟩ := map_ok_iff.1 h₁
  obtain ⟨rows₂, hrows₂, rfl⟩ := map_ok_iff.1 h₂
  have hrows := h rows₁ rows₂ (rows?_eq_ok.1 hrows₁) (rows?_eq_ok.1 hrows₂)
  exact .ofList hS (hrows.filterMap fun _ _ _ _ hr => hr.position.node?)

/-- The places of rows that agree. -/
theorem positions? (hS : OneToOne Same) (h : Agree Same items₁ items₂)
    {ps qs : Std.HashSet Position} (h₁ : positions? items₁ = .ok ps)
    (h₂ : positions? items₂ = .ok qs) : PlacesAlike Same ps qs := by
  obtain ⟨rows₁, hrows₁, rfl⟩ := map_ok_iff.1 h₁
  obtain ⟨rows₂, hrows₂, rfl⟩ := map_ok_iff.1 h₂
  have hrows := h rows₁ rows₂ (rows?_eq_ok.1 hrows₁) (rows?_eq_ok.1 hrows₂)
  intro p q hpq
  rw [Std.HashSet.contains_ofList, Std.HashSet.contains_ofList, Bool.eq_iff_iff,
    List.contains_iff_mem, List.contains_iff_mem]
  exact mem_positions_iff hS hrows hpq

/-- The places of branches that agree, each with its like. -/
theorem sets (hS : OneToOne Same) {bs₁ bs₂ : List (Unit → Items)}
    (h : List.Forall₂ (fun b₁ b₂ => Agree Same (b₁ ()) (b₂ ())) bs₁ bs₂)
    {sets₁ sets₂ : List (Std.HashSet Position)}
    (h₁ : (bs₁.mapM fun b => Items.positions? (b ())) = .ok sets₁)
    (h₂ : (bs₂.mapM fun b => Items.positions? (b ())) = .ok sets₂) :
    List.Forall₂ (PlacesAlike Same) sets₁ sets₂ := by
  induction h generalizing sets₁ sets₂ with
  | nil =>
    cases h₁
    cases h₂
    exact .nil
  | cons hb _ ih =>
    rw [List.mapM_cons] at h₁ h₂
    obtain ⟨set₁, hset₁, h₁⟩ := bind_ok_iff.1 h₁
    obtain ⟨rest₁, hrest₁, h₁⟩ := bind_ok_iff.1 h₁
    obtain ⟨set₂, hset₂, h₂⟩ := bind_ok_iff.1 h₂
    obtain ⟨rest₂, hrest₂, h₂⟩ := bind_ok_iff.1 h₂
    cases h₁
    cases h₂
    exact .cons (hb.positions? hS hset₁ hset₂) (ih hrest₁ hrest₂)

theorem siftBy (hS : OneToOne Same) {inAll : Bool} {bs₁ bs₂ : List (Unit → Items)}
    {items₁ items₂ : Unit → Items} (h : Agree Same (items₁ ()) (items₂ ()))
    (hb : List.Forall₂ (fun b₁ b₂ => Agree Same (b₁ ()) (b₂ ())) bs₁ bs₂) :
    Agree Same (siftBy inAll bs₁ items₁) (siftBy inAll bs₂ items₂) := by
  refine drain fun sets₁ sets₂ h₁ h₂ => h.keep fun r₁ r₂ b₁ b₂ hr hb₁ hb₂ => ?_
  have hsets := PlacesAlike.contains_each (sets hS hb h₁ h₂) hr.position
  have hall := congrArg (List.all · id) hsets
  have hany := congrArg (List.any · id) hsets
  simp only [List.all_map, List.any_map, Function.comp_def, id] at hall hany
  cases hb₁
  cases hb₂
  rw [hall, hany]

end Agree

/-! ### Unions -/

/-- The place and the tags of a row. -/
def rowKey (r : Row) : Position × TagMap Position := (r.position, r.tags)

/-- Rows are alike if their keys are. -/
def KeyAlike (Same : NodeId → NodeId → Prop) (k l : Position × TagMap Position) : Prop :=
  Position.Alike Same k.1 l.1 ∧ TagMap.Alike (Position.Alike Same) k.2 l.2

theorem KeyAlike.oneToOne (hS : OneToOne Same) : OneToOne (KeyAlike Same) := by
  rintro ⟨p, m⟩ ⟨p', m'⟩ ⟨q, n⟩ ⟨q', n'⟩ ⟨hp, hm⟩ ⟨hp', hm'⟩
  have hpos := Position.Alike.oneToOne hS
  simp [hpos hp hp', TagMap.Alike.oneToOne hpos hm hm']

theorem paired_iff_keys {rows₁ rows₂ : List Row} :
    Paired (Row.Alike Same) rows₁ rows₂ ↔
      Paired (KeyAlike Same) (rows₁.map rowKey) (rows₂.map rowKey) := by
  rw [Paired.map_iff]
  constructor
  · exact fun h => h.mono fun _ _ _ _ hr => ⟨hr.position, hr.tags⟩
  · exact fun h => h.mono fun _ _ _ _ hr => ⟨hr.1, hr.2⟩

/-- Without errors, what is left when repetitions are dropped has each key once. -/
theorem exists_of_lists_distinct (h : Lists (distinct items) rows) :
    ∃ all, Lists items all ∧ (rows.map rowKey).Nodup ∧
      ∀ k, k ∈ rows.map rowKey ↔ k ∈ all.map rowKey := by
  have herrors (e : QueryError) : .error e ∉ items.toList := by
    intro he
    obtain ⟨item, hitem, hsame⟩ :
        ∃ item ∈ (distinct items).toList,
          item = .error e ∨ LazyList.sameKey key? (.error e) item = true := by
      rw [distinct, LazyList.toList_distinct]
      exact exists_mem_eraseDupsBy he
    have hitem' : item = .error e := hsame.resolve_right (by simp [LazyList.sameKey, key?])
    rw [h, hitem'] at hitem
    simp at hitem
  obtain ⟨all, hall⟩ := exists_lists herrors
  have hkeys : rows.map rowKey = (all.map rowKey).eraseDups := by
    have hmap (rs : List Row) : (rs.map Except.ok).filterMap key? = rs.map rowKey := by
      rw [List.filterMap_map, ← List.filterMap_eq_map]
      rfl
    rw [← hmap, ← hmap, ← show (distinct items).toList = rows.map .ok from h,
      ← show items.toList = all.map .ok from hall, distinct, LazyList.toList_distinct,
      filterMap_eraseDupsBy]
  rw [hkeys]
  exact ⟨all, hall, nodup_eraseDups _, fun _ => List.mem_eraseDups⟩

namespace Agree

theorem append {more₁ more₂ : Unit → Items} (h : Agree Same items₁ items₂)
    (hmore : Agree Same (more₁ ()) (more₂ ())) :
    Agree Same (items₁.append more₁) (items₂.append more₂) := by
  intro rows₁ rows₂ h₁ h₂
  unfold Lists at h₁ h₂
  rw [LazyList.toList_append] at h₁ h₂
  obtain ⟨as₁, bs₁, rfl, has₁, hbs₁⟩ := List.map_eq_append_iff.1 h₁.symm
  obtain ⟨as₂, bs₂, rfl, has₂, hbs₂⟩ := List.map_eq_append_iff.1 h₂.symm
  exact (h as₁ as₂ has₁.symm has₂.symm).append (hmore bs₁ bs₂ hbs₁.symm hbs₂.symm)

theorem concat {bs₁ bs₂ : List (Unit → Items)}
    (h : List.Forall₂ (fun b₁ b₂ => Agree Same (b₁ ()) (b₂ ())) bs₁ bs₂) :
    Agree Same (.concat bs₁) (.concat bs₂) := by
  induction h with
  | nil => exact .ofRows .nil
  | cons hb _ ih => exact hb.append ih

/-- The first rows with each key agree, although which rows these are depends on the order. -/
theorem distinct (hS : OneToOne Same) (h : Agree Same items₁ items₂) :
    Agree Same (distinct items₁) (distinct items₂) := by
  intro rows₁ rows₂ h₁ h₂
  obtain ⟨all₁, hall₁, hnodup₁, hkeys₁⟩ := exists_of_lists_distinct h₁
  obtain ⟨all₂, hall₂, hnodup₂, hkeys₂⟩ := exists_of_lists_distinct h₂
  have hall := paired_iff_keys.1 (h all₁ all₂ hall₁ hall₂)
  refine paired_iff_keys.2 (.of_nodup (KeyAlike.oneToOne hS) hnodup₁ hnodup₂ ?_ ?_)
  · intro k hk
    obtain ⟨l, hl, hkl⟩ := hall.exists_right ((hkeys₁ k).1 hk)
    exact ⟨l, (hkeys₂ l).2 hl, hkl⟩
  · intro l hl
    obtain ⟨k, hk, hkl⟩ := hall.exists_left ((hkeys₂ l).1 hl)
    exact ⟨k, (hkeys₁ k).2 hk, hkl⟩

end Agree

/-! ### Sorting -/

/-- Items to which values were found are rows that have these values. -/
theorem eq_of_mapM_withValue {g : Graph} {l : List Item} {valued : List (Value × Row)}
    (h : l.mapM (withValue g) = .ok valued) :
    l = valued.map (fun p => .ok p.2) ∧ ∀ p ∈ valued, g.valueAt p.2.position = .ok p.1 := by
  induction l generalizing valued with
  | nil =>
    cases h
    simp
  | cons item l ih =>
    rw [List.mapM_cons] at h
    obtain ⟨⟨v, r⟩, hitem, h⟩ := bind_ok_iff.1 h
    obtain ⟨rest, hrest, h⟩ := bind_ok_iff.1 h
    cases h
    obtain ⟨rfl, hvalue⟩ := withValue_eq_ok.1 hitem
    obtain ⟨rfl, hall⟩ := ih hrest
    exact ⟨rfl, List.forall_mem_cons.2 ⟨hvalue, hall⟩⟩

/-- Without errors, sorting only changes the order of rows, which then ascend by their values. -/
theorem exists_of_lists_order {g : Graph} (h : Lists (order g items) rows) :
    ∃ origin, Lists items origin ∧ rows.Perm origin ∧
      ∃ values : List Value, rows.map (g.valueAt ·.position) = values.map .ok ∧
        values.Pairwise fun v w => v.totalLe w = true := by
  cases hv : items.traverse (withValue g) with
  | error e =>
    rw [order, hv] at h
    exact absurd h not_lists_error
  | ok valued =>
    rw [order, hv] at h
    obtain rfl := lists_ofRows_iff.1 h
    rw [LazyList.traverse_eq] at hv
    obtain ⟨hitems, hvalues⟩ := eq_of_mapM_withValue hv
    let sorted := valued.mergeSort fun a b => a.1.totalLe b.1
    have hsorted : sorted.Perm valued := List.mergeSort_perm _ _
    refine ⟨valued.map Prod.snd, ?_, hsorted.map _, sorted.map Prod.fst, ?_, ?_⟩
    · rw [Lists, hitems, List.map_map]
      rfl
    · rw [List.map_map, List.map_map]
      exact List.map_congr_left fun p hp => hvalues p (hsorted.mem_iff.1 hp)
    · rw [List.pairwise_map]
      exact List.pairwise_mergeSort (fun _ _ _ => Std.TransCmp.isLE_trans)
        (fun a b => Value.totalLe_total a.1 b.1) valued

theorem Agree.order {g₁ g₂ : Graph} (h : Agree Same items₁ items₂) :
    Agree Same (order g₁ items₁) (order g₂ items₂) := by
  intro rows₁ rows₂ h₁ h₂
  obtain ⟨origin₁, ho₁, hperm₁, -⟩ := exists_of_lists_order h₁
  obtain ⟨origin₂, ho₂, hperm₂, -⟩ := exists_of_lists_order h₂
  exact (h origin₁ origin₂ ho₁ ho₂).of_perm hperm₁ hperm₂

end Items

end QuadWalk
