import QuadWalk.Proofs.Paired
import QuadWalk.Proofs.TagMap

/-!
# What is alike on two graphs

Two graphs that are made of the same facts give their nodes different numbers and list them in
different orders. Here it is said which places, tags and rows on one are like which on the other,
given which nodes are the same, and when the graphs correspond (`Graph.Corresponds`): the same nodes
have one value and, up to the order, the same edges.

Likeness is one to one, as far as it goes; so whether things are equal or occur somewhere can be
told on either graph. The trails of rows play no part in it.
-/

namespace QuadWalk

variable {α β : Type} {R : α → β → Prop} {Same : NodeId → NodeId → Prop}

/-! ### Places -/

/-- Places at the same node or at one computed value. -/
inductive Position.Alike (Same : NodeId → NodeId → Prop) : Position → Position → Prop
  | stored {i j : NodeId} (h : Same i j) : Alike Same (.stored i) (.stored j)
  | computed (v : Value) : Alike Same (.computed v) (.computed v)

theorem Position.Alike.oneToOne (h : OneToOne Same) : OneToOne (Position.Alike Same) := by
  intro p p' q q' hpq hpq'
  cases hpq with
  | stored hij =>
    cases hpq' with
    | stored hij' => simp [h hij hij']
    | computed v => simp
  | computed v =>
    cases hpq' with
    | stored hij' => simp
    | computed w => simp

theorem Position.Alike.node? {p q : Position} (h : p.Alike Same q) :
    Option.Rel Same p.node? q.node? := by
  cases h with
  | stored hij => exact .some hij
  | computed v => exact .none

/-- Like places are both at computed values, or at the same node. -/
theorem Position.Alike.node_cases {p q : Position} (h : p.Alike Same q) :
    (p.node? = none ∧ q.node? = none) ∨
      ∃ i j, p.node? = some i ∧ q.node? = some j ∧ Same i j := by
  cases h with
  | stored hij => exact .inr ⟨_, _, rfl, rfl, hij⟩
  | computed v => exact .inl ⟨rfl, rfl⟩

/-! ### Tags -/

theorem OneToOne.forall₂ (h : OneToOne R) : OneToOne (List.Forall₂ R) := by
  intro as as' bs bs' hab hab'
  induction hab generalizing as' bs' with
  | nil => cases hab' <;> simp
  | cons hR _ ih =>
    cases hab' with
    | nil => simp
    | cons hR' hrest' => rw [List.cons.injEq, List.cons.injEq, h hR hR', ih hrest']

namespace TagMap

/-- Entries of one tag that bind it to related things. -/
def AlikeEntry (R : α → β → Prop) (e : String × α) (f : String × β) : Prop :=
  e.1 = f.1 ∧ R e.2 f.2

theorem AlikeEntry.oneToOne (h : OneToOne R) : OneToOne (AlikeEntry R) := by
  rintro ⟨t, a⟩ ⟨t', a'⟩ ⟨u, b⟩ ⟨u', b'⟩ ⟨rfl, hab⟩ ⟨rfl, hab'⟩
  simp [h hab hab']

/-- Maps that bind the same tags to related things. -/
def Alike (R : α → β → Prop) (m : TagMap α) (n : TagMap β) : Prop :=
  List.Forall₂ (AlikeEntry R) m.entries n.entries

namespace Alike

variable {m : TagMap α} {n : TagMap β}

theorem empty : Alike R .empty .empty := .nil

theorem oneToOne (h : OneToOne R) : OneToOne (Alike R) := by
  intro m m' n n' hmn hmn'
  have hentries := (AlikeEntry.oneToOne h).forall₂ hmn hmn'
  obtain ⟨es, _⟩ := m
  obtain ⟨es', _⟩ := m'
  obtain ⟨fs, _⟩ := n
  obtain ⟨fs', _⟩ := n'
  simpa using hentries

theorem insertEntry {es : List (String × α)} {fs : List (String × β)}
    (h : List.Forall₂ (AlikeEntry R) es fs) (tag : String) {a : α} {b : β} (hab : R a b) :
    List.Forall₂ (AlikeEntry R) (insertEntry tag a es) (insertEntry tag b fs) := by
  induction h with
  | nil => exact .cons ⟨rfl, hab⟩ .nil
  | @cons e f es fs hef hrest ih =>
    unfold TagMap.insertEntry
    rw [hef.1]
    split
    · exact .cons ⟨rfl, hab⟩ (.cons hef hrest)
    · split
      · exact .cons ⟨rfl, hab⟩ hrest
      · exact .cons hef ih

theorem insert (h : Alike R m n) (tag : String) {a : α} {b : β} (hab : R a b) :
    Alike R (m.insert tag a) (n.insert tag b) :=
  insertEntry h tag hab

theorem find? (h : Alike R m n) (t : String) : Option.Rel R (m.find? t) (n.find? t) := by
  have lookup {es : List (String × α)} {fs : List (String × β)}
      (h : List.Forall₂ (AlikeEntry R) es fs) : Option.Rel R (es.lookup t) (fs.lookup t) := by
    induction h with
    | nil => exact .none
    | cons hef _ ih =>
      rw [lookup_cons_eq_ite, lookup_cons_eq_ite, hef.1]
      split
      · exact .some hef.2
      · exact ih
  exact lookup h

/-- Maps to things that have one value have one map of values. -/
theorem exists_traverse {γ ε : Type} {f : α → Except ε γ} {g : β → Except ε γ} (h : Alike R m n)
    (hR : ∀ a b, R a b → ∃ c, f a = .ok c ∧ g b = .ok c) :
    ∃ k, m.traverse f = .ok k ∧ n.traverse g = .ok k := by
  have mapM {es : List (String × α)} {fs : List (String × β)}
      (h : List.Forall₂ (AlikeEntry R) es fs) :
      ∃ ks, (es.mapM fun e => (f e.2).map (e.1, ·)) = .ok ks ∧
        (fs.mapM fun e => (g e.2).map (e.1, ·)) = .ok ks := by
    induction h with
    | nil => exact ⟨[], rfl, rfl⟩
    | @cons e e' es fs hef _ ih =>
      obtain ⟨ks, hes, hfs⟩ := ih
      obtain ⟨c, ha, hb⟩ := hR _ _ hef.2
      refine ⟨(e.1, c) :: ks, ?_, ?_⟩
      · rw [List.mapM_cons, hes, ha]
        rfl
      · rw [List.mapM_cons, hfs, hb, ← hef.1]
        rfl
  obtain ⟨ks, hes, hfs⟩ := mapM h
  refine ⟨.ofList ks, ?_, ?_⟩
  · rw [traverse, hes]
    rfl
  · rw [traverse, hfs]
    rfl

end Alike

end TagMap

/-! ### Rows -/

/-- Rows at like places with like tags. -/
structure Row.Alike (Same : NodeId → NodeId → Prop) (r s : Row) : Prop where
  position : Position.Alike Same r.position s.position
  tags : TagMap.Alike (Position.Alike Same) r.tags s.tags

namespace Row.Alike

variable {r s : Row} {i j : NodeId}

theorem atNode (h : Same i j) : Row.Alike Same (.atNode i) (.atNode j) where
  position := .stored h
  tags := .empty

theorem moveTo (h : Row.Alike Same r s) (hij : Same i j) :
    Row.Alike Same (r.moveTo i) (s.moveTo j) where
  position := .stored hij
  tags := h.tags

theorem bind (h : Row.Alike Same r s) (tag : String) (hij : Same i j) :
    Row.Alike Same (r.bind tag i) (s.bind tag j) where
  position := h.position
  tags := h.tags.insert tag (.stored hij)

theorem mark (h : Row.Alike Same r s) (tag : String) :
    Row.Alike Same (r.mark tag) (s.mark tag) where
  position := h.position
  tags := h.tags.insert tag h.position

theorem backTo? (h : Row.Alike Same r s) (tag : String) :
    Option.Rel (Row.Alike Same) (r.backTo? tag) (s.backTo? tag) := by
  have hfind := h.tags.find? tag
  unfold Row.backTo?
  generalize r.tags.find? tag = p at hfind
  generalize s.tags.find? tag = q at hfind
  cases hfind with
  | none => exact .none
  | some hpq => exact .some ⟨hpq, h.tags⟩

end Row.Alike

/-! ### Graphs -/

/-- Sets that have the same nodes. -/
def NodeSet.Alike (Same : NodeId → NodeId → Prop) (ps qs : NodeSet) : Prop :=
  ∀ ⦃i j⦄, Same i j → ps i = qs j

theorem NodeSet.Alike.ofList (hS : OneToOne Same) {is js : List NodeId} (h : Paired Same is js) :
    NodeSet.Alike Same (.ofList is) (.ofList js) := by
  intro i j hij
  rw [Bool.eq_iff_iff]
  simpa [NodeSet.ofList] using h.mem_iff hS hij

/-- Two graphs have the same nodes, values and edges, though not in the same order. -/
structure Graph.Corresponds (g h : Graph) (Same : NodeId → NodeId → Prop) : Prop where
  oneToOne : OneToOne Same
  nodes : Paired Same g.nodes h.nodes
  lookup : ∀ v, Option.Rel Same (g.lookup v) (h.lookup v)
  valueOf : ∀ {i j}, Same i j → ∃ v, g.valueOf i = .ok v ∧ h.valueOf j = .ok v
  neighbors : ∀ {i j ps qs} (d : Direction), Same i j → NodeSet.Alike Same ps qs →
    ∃ is js, g.neighbors i ps d = .ok is ∧ h.neighbors j qs d = .ok js ∧ Paired Same is js
  predicates : ∀ {i j} (d : Direction), Same i j →
    ∃ is js, g.predicates i d = .ok is ∧ h.predicates j d = .ok js ∧ Paired Same is js

namespace Graph.Corresponds

variable {g h : Graph}

theorem valueAt (hc : g.Corresponds h Same) {p q : Position} (hpq : p.Alike Same q) :
    ∃ v, g.valueAt p = .ok v ∧ h.valueAt q = .ok v := by
  cases hpq with
  | computed v => exact ⟨v, rfl, rfl⟩
  | stored hij =>
    obtain ⟨v, hg, hh⟩ := hc.valueOf hij
    exact ⟨v, by simp [Graph.valueAt, hg, ofStore], by simp [Graph.valueAt, hh, ofStore]⟩

end Graph.Corresponds

end QuadWalk
