import QuadWalk.Proofs.Rows

/-!
# What becomes of rows and errors

`Yields P E x` says of a computation that its result has the property `P` or its error the property
`E`, and `Items.All R E` says so of each of some items. For each operator on items there is one
lemma here: what it has to do with single rows for its items to have such properties, given that
those of its origin have them. No operator makes errors of its own; they come from its origin, from
its side plans and branches, or from what it does with a row.
-/

namespace QuadWalk

variable {ε ε' α β : Type} {P : α → Prop} {Q : β → Prop} {E : ε → Prop}

/-- A computation gives a result with one property or an error with another one. -/
def Yields (P : α → Prop) (E : ε → Prop) : Except ε α → Prop
  | .ok a => P a
  | .error e => E e

namespace Yields

variable {x : Except ε α}

theorem mono {P' : α → Prop} {E' : ε → Prop} (h : Yields P E x) (hP : ∀ a, P a → P' a)
    (hE : ∀ e, E e → E' e) : Yields P' E' x := by
  cases x with
  | ok a => exact hP a h
  | error e => exact hE e h

theorem map {f : α → β} (h : Yields P E x) (hf : ∀ a, P a → Q (f a)) : Yields Q E (x.map f) := by
  cases x with
  | ok a => exact hf a h
  | error e => exact h

theorem bind {f : α → Except ε β} (h : Yields P E x) (hf : ∀ a, P a → Yields Q E (f a)) :
    Yields Q E (x >>= f) := by
  cases x with
  | ok a => exact hf a h
  | error e => exact h

theorem mapM {f : α → Except ε β} {as : List α} (h : ∀ a ∈ as, Yields Q E (f a)) :
    Yields (fun bs => ∀ b ∈ bs, Q b) E (as.mapM f) := by
  induction as with
  | nil => exact fun b hb => absurd hb List.not_mem_nil
  | cons a as ih =>
    rw [List.mapM_cons]
    refine bind (h a List.mem_cons_self) fun b hb => ?_
    refine bind (ih fun a' ha' => h a' (List.mem_cons_of_mem _ ha')) fun bs hbs => ?_
    intro b' hb'
    rcases List.mem_cons.1 hb' with rfl | hb'
    · exact hb
    · exact hbs b' hb'

theorem foldlM {f : β → α → Except ε β} {as : List α} {b : β} (hb : Q b)
    (h : ∀ b, Q b → ∀ a ∈ as, Yields Q E (f b a)) : Yields Q E (as.foldlM f b) := by
  induction as generalizing b with
  | nil => exact hb
  | cons a as ih =>
    rw [List.foldlM_cons]
    refine bind (h b hb a List.mem_cons_self) fun b' hb' => ?_
    exact ih hb' fun b'' hb'' a' ha' => h b'' hb'' a' (List.mem_cons_of_mem _ ha')

end Yields

namespace Items

variable {R R' : Row → Prop} {E E' : QueryError → Prop} {items : Items} {g : Graph}

/-- All rows among some items have one property, and all errors another one. -/
def All (R : Row → Prop) (E : QueryError → Prop) (items : Items) : Prop :=
  ∀ item ∈ items.toList, Yields R E item

namespace All

theorem mono (h : items.All R E) (hR : ∀ r, R r → R' r) (hE : ∀ e, E e → E' e) :
    items.All R' E' :=
  fun item hitem => (h item hitem).mono hR hE

/-- An operator that only leaves items out. -/
theorem of_subset {items' : Items} (h : items.All R E)
    (hsub : ∀ item ∈ items'.toList, item ∈ items.toList) : items'.All R E :=
  fun item hitem => h item (hsub item hitem)

theorem ofRows {rows : List Row} (h : ∀ r ∈ rows, R r) : (ofRows rows).All R E := by
  intro item hitem
  rw [toList_ofRows] at hitem
  obtain ⟨r, hr, rfl⟩ := List.mem_map.1 hitem
  exact h r hr

/-! ### One row after the other -/

theorem expand {f : Row → Except QueryError (List Row)} (h : items.All R E)
    (hf : ∀ r, .ok r ∈ items.toList → R r → Yields (fun rows => ∀ r' ∈ rows, R' r') E (f r)) :
    (expand f items).All R' E := by
  intro item hitem
  rw [Items.expand, LazyList.toList_flatMap, List.mem_flatMap] at hitem
  obtain ⟨item₀, hitem₀, hitem⟩ := hitem
  have h₀ := h item₀ hitem₀
  cases item₀ with
  | error e =>
    obtain rfl := List.mem_singleton.1 hitem
    exact h₀
  | ok r =>
    have hyields := hf r hitem₀ h₀
    cases hr : f r with
    | error e =>
      simp only [hr, List.mem_singleton] at hitem hyields
      subst hitem
      exact hyields
    | ok rows =>
      simp only [hr, List.mem_map] at hitem hyields
      obtain ⟨r', hr', rfl⟩ := hitem
      exact hyields r' hr'

theorem keep {test : Row → Except QueryError Bool} (h : items.All R E)
    (ht : ∀ r, .ok r ∈ items.toList → R r → Yields (fun _ => True) E (test r)) :
    (keep test items).All R E := by
  refine h.expand fun r hr hR => (ht r hr hR).map fun passes _ => ?_
  cases passes <;> simp [hR]

theorem change {f : Row → Option Row} (h : items.All R E)
    (hf : ∀ r r', R r → f r = some r' → R' r') : (change f items).All R' E := by
  refine h.expand fun r _ hR r' hr' => ?_
  exact hf r r' hR (by simpa using hr')

theorem skip {n : Nat} (h : items.All R E) : (skip n items).All R E :=
  h.of_subset fun _ => mem_of_mem_skip

theorem limit {n : Nat} {items : Unit → Items} (h : (items ()).All R E) :
    Items.All R E (.limit n items) :=
  h.of_subset fun _ => mem_of_mem_limit

theorem isOneOf {nodes : NodeSet} {values : List Value} (h : items.All R E) :
    (isOneOf nodes values items).All R E :=
  h.keep fun _ _ _ => trivial

/-- The rows of several plans, each once. -/
theorem union {branches : List (Unit → Items)} (h : items.All R E)
    (hb : ∀ b ∈ branches, (b ()).All R E) :
    (distinct (items.append fun _ => .concat branches)).All R E := by
  intro item hitem
  rcases mem_append_concat.1 (mem_of_mem_distinct hitem) with hitem | ⟨b, hbranch, hitem⟩
  · exact h item hitem
  · exact hb b hbranch item hitem

/-! ### All rows first -/

theorem drain {prepared : Except QueryError α} {f : α → Items} (h : Yields P E prepared)
    (hf : ∀ a, P a → (f a).All R E) : (drain prepared f).All R E := by
  cases prepared with
  | ok a => exact hf a h
  | error e =>
    intro item hitem
    obtain rfl : item = .error e := by simpa [Items.drain] using hitem
    exact h

theorem rows? (h : items.All R E) : Yields (fun rows => ∀ r ∈ rows, R r) E (rows? items) := by
  rw [Items.rows?, LazyList.traverse_eq]
  exact Yields.mapM h

theorem nodeSet? (h : items.All R E) : Yields (fun _ => True) E (nodeSet? items) :=
  h.rows?.map fun _ _ => trivial

theorem positions? (h : items.All R E) : Yields (fun _ => True) E (positions? items) :=
  h.rows?.map fun _ _ => trivial

theorem unique (h : items.All R E) : (unique items).All R E := by
  refine drain h.rows? fun rows hrows => ofRows fun r hr => ?_
  rw [LazyList.toList_distinct, LazyList.toList_ofList] at hr
  exact hrows r (mem_of_mem_eraseDupsBy hr)

theorem order (h : items.All R E) (hv : ∀ r, R r → Yields (fun _ => True) E (g.valueAt r.position)) :
    (order g items).All R E := by
  have hvalues : Yields (fun rows => ∀ p ∈ rows, R p.2) E (items.traverse (withValue g)) := by
    rw [LazyList.traverse_eq]
    refine Yields.mapM fun item hitem => (h item hitem).bind fun r hr => ?_
    exact (hv r hr).bind fun _ _ => hr
  refine drain hvalues fun rows hrows => ofRows fun r hr => ?_
  obtain ⟨p, hp, rfl⟩ := List.mem_map.1 hr
  exact hrows p (List.mem_mergeSort.1 hp)

theorem count (h : items.All R E) (hc : ∀ n : Int64, R' { position := .computed (.int n) }) :
    (count items).All R' E := by
  refine drain h.rows? fun rows _ => ofRows fun r hr => ?_
  obtain rfl := List.mem_singleton.1 hr
  exact hc _

theorem siftBy {inAll : Bool} {branches : List (Unit → Items)} {items : Unit → Items}
    (h : (items ()).All R E) (hb : ∀ b ∈ branches, (b ()).All R E) :
    (siftBy inAll branches items).All R E := by
  refine drain (Yields.mapM fun b hbranch => (hb b hbranch).positions?) fun sets _ => ?_
  exact h.keep fun _ _ _ => trivial

/-! ### Joins -/

theorem head? (h : items.All R E) {item : Item} (hhead : items.head? = some item) :
    Yields R E item := by
  rw [← LazyList.head?_toList] at hhead
  exact h item (List.mem_of_head? hhead)

theorem joinTags {T : TagMap Position → Prop} {branches : List (Unit → Items)}
    {tags : TagMap Position} (hb : ∀ b ∈ branches, (b ()).All R E)
    (hover : ∀ tags r, T tags → R r → T (tags.overlay r.tags)) (h : T tags) :
    Yields (fun joined => ∀ tags' ∈ joined, T tags') E (joinTags tags branches) := by
  induction branches generalizing tags with
  | nil => simpa [Items.joinTags, Yields] using h
  | cons b branches ih =>
    unfold Items.joinTags
    split
    · exact fun _ hn => absurd hn (by simp)
    · rename_i e hhead
      exact (hb b List.mem_cons_self).head? hhead
    · rename_i r hhead
      have hr : R r := (hb b List.mem_cons_self).head? hhead
      exact ih (fun b' hb' => hb b' (List.mem_cons_of_mem _ hb')) (hover tags r h hr)

/-- A join keeps what holds of the row, of the first rows of its branches, and of a row on which
tags of these are laid. -/
theorem join {isOptional : Bool} {branches : List (Unit → Items)} {r : Row}
    (hb : ∀ b ∈ branches, (b ()).All R E)
    (hover : ∀ tags m, R { r with tags } → R m → R { r with tags := tags.overlay m.tags })
    (h : R r) : Yields (fun rows => ∀ r' ∈ rows, R r') E (join isOptional r branches) := by
  have hjoined := joinTags (T := fun tags => R { r with tags }) hb hover h
  refine hjoined.map fun joined hjoined r' hr' => ?_
  cases joined with
  | some tags =>
    obtain rfl := List.mem_singleton.1 hr'
    exact hjoined tags rfl
  | none =>
    cases isOptional with
    | true =>
      obtain rfl := List.mem_singleton.1 hr'
      exact h
    | false => exact absurd hr' List.not_mem_nil

end All

end Items

end QuadWalk
