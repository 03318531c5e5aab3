import QuadWalk.Proofs.Mismatch

/-!
# What a query reports

The rows of a query become answers, and a cursor gives these one at a time. On the way errors are
passed on, but no new ones are made apart from those that the graph answers with when it is asked
for the value of a node.

`PreparedQuery.Shows` gathers the errors that someone who runs a query can see: among its items,
among the results that a cursor gives, and as the error that a cursor remembers. They are faults of
the graph and mismatches, and nothing else (`Step.cause_of_shows`).
-/

namespace QuadWalk

/-! ### Answers -/

section Answers

variable {ε α β : Type} {P : α → Prop} {E : ε → Prop}

theorem Yields.traverse {m : TagMap α} {f : α → Except ε β}
    (h : ∀ e ∈ m.entries, Yields (fun _ => True) E (f e.2)) :
    Yields (fun _ => True) E (m.traverse f) := by
  have hentries : Yields (fun es : List (String × β) => ∀ e ∈ es, True) E
      (m.entries.mapM fun e => (f e.2).map (e.1, ·)) :=
    Yields.mapM fun e he => (h e he).map fun _ _ => trivial
  exact hentries.map fun _ _ => trivial

end Answers

/-- All groups of some documents are at places on a set of nodes. -/
def GroupsOn (N : NodeId → Prop) (groups : List Group) : Prop := ∀ group ∈ groups, group.1.On N

variable {N : NodeId → Prop} {F : StoreError → Prop} {E : QueryError → Prop} {g : Graph}

theorem GroupsOn.add {p : Position} {bindings : TagMap Value} {groups : List Group}
    (h : GroupsOn N groups) (hp : p.On N) : GroupsOn N (addToGroup p bindings groups) := by
  induction groups with
  | nil => simpa [addToGroup, GroupsOn] using hp
  | cons group groups ih =>
    obtain ⟨hgroup, hgroups⟩ := List.forall_mem_cons.1 h
    unfold addToGroup
    split
    · exact List.forall_mem_cons.2 ⟨hp, hgroups⟩
    · exact List.forall_mem_cons.2 ⟨hgroup, ih hgroups⟩

namespace Graph.Serves

variable (hg : g.Serves N F) (hE : ∀ f, F f → E (.storeFault f))

include hg hE

theorem traverse {tags : TagMap Position} (h : ∀ e ∈ tags.entries, e.2.On N) :
    Yields (fun _ => True) E (tags.traverse g.valueAt) :=
  Yields.traverse fun e he => hg.valueAt hE (h e he)

theorem tagAnswer {r : Row} (hr : r.On N) (wanted : Option (List String)) :
    Yields (fun _ => True) E (g.tagAnswer wanted r) := by
  unfold Graph.tagAnswer
  cases wanted with
  | none => exact (hg.traverse hE hr.entries).map fun _ _ => trivial
  | some names =>
    refine (hg.traverse hE fun e he => ?_).map fun _ _ => trivial
    exact hr.entries e (List.mem_filter.1 he).1

theorem addItem {groups : List Group} {item : Item} (h : GroupsOn N groups)
    (hitem : Yields (Row.On N) E item) : Yields (GroupsOn N) E (g.addItem groups item) := by
  refine hitem.bind fun r hr => ?_
  exact (hg.traverse hE hr.entries).bind fun _ _ => h.add hr.position

theorem documents {items : Items} (h : items.All (Row.On N) E) :
    Yields (fun _ => True) E (g.documents items) := by
  have hgroups : Yields (GroupsOn N) E (items.foldlM g.addItem []) := by
    rw [LazyList.foldlM_eq]
    refine Yields.foldlM (fun _ hgroup => absurd hgroup List.not_mem_nil) ?_
    exact fun groups hgroups item hitem => hg.addItem hE hgroups (h item hitem)
  refine hgroups.bind fun groups hgroups => ?_
  have hdocuments : Yields (fun ds : List Document => ∀ d ∈ ds, True) E
      (groups.mapM g.document) :=
    Yields.mapM fun group hgroup =>
      (hg.valueAt hE (hgroups group hgroup)).bind fun _ _ => trivial
  exact hdocuments.mono (fun _ _ => trivial) fun _ he => he

omit hg hE in
theorem answerEach {R : Row → Prop} {f : Row → Except QueryError Answer} {items : Items}
    (h : items.All R E) (hf : ∀ r, R r → Yields (fun _ => True) E (f r)) :
    ∀ answer ∈ (Graph.answerEach f items).toList, Yields (fun _ => True) E answer := by
  intro answer hanswer
  rw [Graph.answerEach, LazyList.toList_map] at hanswer
  obtain ⟨item, hitem, rfl⟩ := List.mem_map.1 hanswer
  exact (h item hitem).bind hf

/-- Whatever the shape of its answers, a query has no errors but those of its items and of the
graph. -/
theorem answers {shape : Shape} {items : Unit → Items} (h : (items ()).All (Row.On N) E) :
    ∀ answer ∈ (g.answers shape items).toList, Yields (fun _ => True) E answer := by
  cases shape with
  | values =>
    exact answerEach h fun r hr => (hg.valueAt hE hr.position).map fun _ _ => trivial
  | tags wanted => exact answerEach h fun r hr => hg.tagAnswer hE hr wanted
  | first => exact answerEach (.limit h) fun r hr => hg.tagAnswer hE hr none
  | documents =>
    have hdocuments := hg.documents hE h
    intro answer hanswer
    unfold Graph.answers at hanswer
    cases hds : g.documents (items ()) with
    | ok ds =>
      simp only [hds, LazyList.toList_ofList] at hanswer
      obtain ⟨d, -, rfl⟩ := List.mem_map.1 hanswer
      trivial
    | error e =>
      rw [hds] at hdocuments
      simp only [hds, LazyList.toList_ofList, List.mem_singleton] at hanswer
      subst hanswer
      exact hdocuments

end Graph.Serves

/-! ### Cursors -/

namespace Cursor

variable {ε α : Type}

/-- What a cursor gives is the next item of its source, and what it keeps as its error it gives. -/
theorem next_eq (c : Cursor (Feed ε α) ε) :
    (∀ x, (c.next pullFeed).1 = some x → x ∈ (c.source ()).toList) ∧
      (∀ x ∈ ((c.next pullFeed).2.source ()).toList, x ∈ (c.source ()).toList) ∧
      ∀ e, (c.next pullFeed).2.error = some e →
        c.error = some e ∨ .error e ∈ (c.source ()).toList := by
  unfold Cursor.next
  split
  · exact ⟨nofun, fun _ h => h, fun _ h => .inl h⟩
  split
  · exact ⟨nofun, fun _ h => h, fun _ h => .inl h⟩
  unfold pullFeed
  cases hs : c.source () with
  | nil => simp
  | cons item tail =>
    have htail (x : Except ε α) (hx : x ∈ (tail ()).toList) :
        x ∈ (LazyList.cons item tail).toList := by
      rw [LazyList.toList_cons]
      exact List.mem_cons_of_mem _ hx
    cases item with
    | ok a => exact ⟨by simp, htail, fun _ h => .inl h⟩
    | error e => exact ⟨by simp, htail, by simp⟩

/-- All that a cursor gives comes from its source, and so does the error it is left with, if it did
not have it before. -/
theorem take_eq (c : Cursor (Feed ε α) ε) (n : Nat) :
    (∀ x, some x ∈ (c.take pullFeed n).1 → x ∈ (c.source ()).toList) ∧
      ∀ e, (c.take pullFeed n).2.error = some e →
        c.error = some e ∨ .error e ∈ (c.source ()).toList := by
  induction n generalizing c with
  | zero => exact ⟨nofun, fun _ h => .inl h⟩
  | succ n ih =>
    obtain ⟨hgiven, hsource, herror⟩ := c.next_eq
    obtain ⟨ihgiven, iherror⟩ := ih (c.next pullFeed).2
    refine ⟨fun x hx => ?_, fun e he => ?_⟩
    · rcases List.mem_cons.1 hx with hx | hx
      · exact hgiven x hx.symm
      · exact hsource x (ihgiven x hx)
    · rcases iherror e he with he | he
      · exact herror e he
      · exact .inr (hsource _ he)

end Cursor

/-! ### Queries -/

namespace PreparedQuery

/-- The errors that can be seen of a query on a graph: among its items, among the results that a
cursor on it gives, whatever the settings, and in a cursor after some results were taken. -/
inductive Shows (q : PreparedQuery) (g : Graph) (e : QueryError) : Prop
  | item (h : .error e ∈ (q.items g).toList)
  | given {settings : Settings} {n : Nat}
      (h : some (.error e) ∈ ((q.run g settings).take pullFeed n).1)
  | kept {settings : Settings} {n : Nat}
      (h : ((q.run g settings).take pullFeed n).2.error = some e)

/-- **If the items of a query keep to the nodes that the graph serves, all errors that can be seen
of the query are of the kinds that its items and the graph have.** -/
theorem shows_of_all {q : PreparedQuery} (hg : g.Serves N F) (hE : ∀ f, F f → E (.storeFault f))
    (h : (q.items g).All (Row.On N) E) {e : QueryError} (he : q.Shows g e) : E e := by
  have hanswers (he : .error e ∈ (q.answers g).toList) : E e := hg.answers hE h (.error e) he
  cases he with
  | item he => exact h _ he
  | given he => exact hanswers ((Cursor.take_eq _ _).1 _ he)
  | kept he =>
    rcases (Cursor.take_eq _ _).2 e he with he | he
    · exact absurd he (by simp [run])
    · exact hanswers he

end PreparedQuery

namespace Step

variable {sizeLimit : Nat} {s : Step} {ph : Items} {e : QueryError}

/-- To report rows in some shape compares nothing. -/
theorem Mismatch.of_shape (h : Mismatch sizeLimit g s.shape.1 ph e) :
    Mismatch sizeLimit g s ph e := by
  revert h
  fun_cases shape s with
  | case1 | case2 | case3 => exact fun h => h.call (.previous rfl)
  | case4 => exact fun h => h

/-- **An error that can be seen of a prepared query is a fault of the graph or a mismatch**, on any
graph that serves a set of nodes. -/
theorem cause_of_shows {settings : Settings} {q : PreparedQuery} (hg : g.Serves N F)
    (h : s.prepare settings = .ok q) (he : q.Shows g e) :
    (∃ f, F f ∧ e = .storeFault f) ∨
      Mismatch settings.patternSizeLimit g s (Items.ofRows (g.nodes.map .atNode)) e := by
  obtain ⟨p, m, hp, -, -, -⟩ := plans_of_prepare h
  have hnodes : (Items.ofRows (g.nodes.map .atNode)).All (Row.On N)
      fun e => ∃ f, F f ∧ e = .storeFault f := by
    refine Items.All.ofRows fun r hr => ?_
    obtain ⟨id, hid, rfl⟩ := List.mem_map.1 hr
    exact .atNode (hg.nodes id hid)
  have hitems := all_of_plans hg hp (fun f hf => ⟨f, hf, rfl⟩) hnodes
  rw [meaning_shape, ← items_of_prepare h] at hitems
  have hcause := PreparedQuery.shows_of_all hg (fun f hf => .inl ⟨f, hf, rfl⟩) hitems he
  exact hcause.imp_right .of_shape

end Step

end QuadWalk
