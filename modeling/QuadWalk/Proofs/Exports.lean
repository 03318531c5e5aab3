import QuadWalk.Proofs.Flow
import QuadWalk.Proofs.Scope
import QuadWalk.Store.QuadStore

/-!
# Tags that rows carry

A prepared query lists the tags in scope at its root. This module says when the rows of a query
carry no others.

A *stage* is a step at the place where it is run. The stages on the way to the rows of a query are
those from which its rows come: origins, the branches of conditions and options, fragments and, if
these go on with it, what they follow. Properties and the branches of an intersection or a
difference are on no way. Every operator takes rows with tags in scope to rows with tags in scope,
apart from a union, which lets the rows of its branches through with tags that are not in scope
after it. So rows carry only tags in scope, at every stage, exactly if no union on the way lets in
others (`Stage.sound_iff_unionKeeps`).
-/

namespace QuadWalk

/-- The tags of a row are among some names. -/
def Row.TagsWithin (r : Row) (names : List String) : Prop := ∀ t ∈ r.tags.tags, t ∈ names

/-- The tags of all rows among some items are among some names. -/
def Items.TagsWithin (items : Items) (names : List String) : Prop :=
  ∀ r, .ok r ∈ items.toList → r.TagsWithin names

theorem Row.TagsWithin.mono {r : Row} {names more : List String} (h : r.TagsWithin names)
    (hsub : ∀ t ∈ names, t ∈ more) : r.TagsWithin more :=
  fun t ht => hsub t (h t ht)

theorem Row.tagsWithin_iff {r : Row} {names : List String} :
    r.TagsWithin names ↔ ∀ t ∉ names, r.tags.find? t = none := by
  unfold TagsWithin
  simp only [TagMap.mem_tags_iff]
  constructor
  · intro h t ht
    exact Option.not_isSome_iff_eq_none.1 fun hs => ht (h t hs)
  · intro h t hs
    refine Decidable.byContradiction fun ht => ?_
    simp [h t ht] at hs

/-- The items of one row have the tags of that row. -/
theorem Row.TagsWithin.ofRows {r : Row} {names : List String} (h : r.TagsWithin names) :
    (Items.ofRows [r]).TagsWithin names := by
  intro r' hr'
  obtain rfl := Items.mem_ofRows_singleton.1 hr'
  exact h

theorem Row.tagsWithin_of_tags_eq_empty {r : Row} {names : List String} (h : r.tags = .empty) :
    r.TagsWithin names := by
  simp [tagsWithin_iff, h]

/-- A step where it is run: the tags in scope around it, and the items for which its placeholder
stands. -/
structure Stage where
  step : Step
  outer : List String
  input : Items

namespace Stage

open Items Step

/-- The items of a stage. -/
def items (sizeLimit : Nat) (g : Graph) (st : Stage) : Items :=
  st.step.meaning sizeLimit g st.input

/-- The tags in scope after a stage. -/
def exports (st : Stage) : List String := st.step.scope st.outer

/-- The rows of a stage carry only tags that are in scope after it. -/
def Sound (sizeLimit : Nat) (g : Graph) (st : Stage) : Prop :=
  (st.items sizeLimit g).TagsWithin st.exports

/-- What the placeholder stands for carries only tags in scope, if any rows are made of it. -/
def Supplied (st : Stage) : Prop :=
  st.step.startsFresh = true ∨ st.input.TagsWithin st.outer

/-- If the stage is a union, the rows of its branches carry only tags in scope after the union. -/
def UnionKeeps (sizeLimit : Nat) (g : Graph) (st : Stage) : Prop :=
  ∀ o ss, st.step = .combine .union o ss → ∀ b ∈ ss,
    (b.meaning sizeLimit g st.input).TagsWithin st.exports

/-- The rows of the second stage are made of the rows of the first. -/
inductive Source (sizeLimit : Nat) (g : Graph) : Stage → Stage → Prop
  | origin {s o : Step} {marks outer : List String} {input : Items}
      (h : s.origin? = some (o, marks)) : Source sizeLimit g ⟨o, outer, input⟩ ⟨s, outer, input⟩
  | united {o : Step} {ss : List Step} {outer : List String} {input : Items} :
      Source sizeLimit g ⟨o, outer, input⟩ ⟨.combine .union o ss, outer, input⟩
  | asked {o : Step} {ss : List Step} {outer : List String} {input : Items} :
      Source sizeLimit g ⟨o, outer, input⟩ ⟨.whereAll o ss, outer, input⟩
  | condition {o b : Step} {ss : List Step} {outer : List String} {input : Items} {r : Row}
      (hb : b ∈ ss) (hr : .ok r ∈ (o.meaning sizeLimit g input).toList) :
      Source sizeLimit g ⟨b, o.scope outer, ofRows [r]⟩ ⟨.whereAll o ss, outer, input⟩
  | offered {o b : Step} {outer : List String} {input : Items} :
      Source sizeLimit g ⟨o, outer, input⟩ ⟨.optional o b, outer, input⟩
  | option {o b : Step} {outer : List String} {input : Items} {r : Row}
      (hr : .ok r ∈ (o.meaning sizeLimit g input).toList) :
      Source sizeLimit g ⟨b, o.scope outer, ofRows [r]⟩ ⟨.optional o b, outer, input⟩
  | fragment {o s : Step} {outer : List String} {input : Items} :
      Source sizeLimit g ⟨s, o.scope outer, o.meaning sizeLimit g input⟩
        ⟨.follow o s, outer, input⟩
  | followed {o s : Step} {outer : List String} {input : Items} (h : s.startsFresh = false) :
      Source sizeLimit g ⟨o, outer, input⟩ ⟨.follow o s, outer, input⟩

/-- The first stage is on the way to the rows of the second. -/
inductive OnWay (sizeLimit : Nat) (g : Graph) : Stage → Stage → Prop
  | refl {st : Stage} : OnWay sizeLimit g st st
  | source {st mid last : Stage} (h : OnWay sizeLimit g st mid)
      (hs : Source sizeLimit g mid last) : OnWay sizeLimit g st last

variable {sizeLimit : Nat} {g : Graph} {st st' : Stage}

theorem sizeOf_lt_of_source (h : Source sizeLimit g st' st) : sizeOf st'.step < sizeOf st.step := by
  cases h with
  | origin h => exact sizeOf_lt_of_origin h
  | condition hb _ =>
    have := List.sizeOf_lt_of_mem hb
    simp
    omega
  | _ => simp; try omega

/-! ### One stage -/

theorem scope_of_origin {s o : Step} {marks : List String} (h : s.origin? = some (o, marks))
    (outer : List String) : s.scope outer = marks ++ o.scope outer := by
  revert h
  fun_cases origin? s <;> simp [scope] <;> rintro rfl rfl <;> simp

/-- Tags in scope stay in scope when a row is marked. -/
theorem tagsWithin_of_marked {marks names : List String} {r₀ r : Row} (h : Row.Marked marks r₀ r)
    (h₀ : r₀.TagsWithin names) : r.TagsWithin (marks ++ names) := by
  rw [Row.tagsWithin_iff] at h₀ ⊢
  intro t ht
  obtain ⟨hmarks, hnames⟩ : t ∉ marks ∧ t ∉ names := by simpa using ht
  rw [h.kept t hmarks, h₀ t hnames]

/-- Tags in scope stay in scope when a row is joined with first rows that carry no others. -/
theorem tagsWithin_of_mem_join {isOptional : Bool} {r r' : Row} {branches : List (Unit → Items)}
    {rows : List Row} {names : List String} (hj : join isOptional r branches = .ok rows)
    (hr' : r' ∈ rows) (hr : r.TagsWithin names)
    (hb : ∀ b ∈ branches, ∀ m, (b ()).head? = some (.ok m) → m.TagsWithin names) :
    r'.TagsWithin names := by
  rcases mem_join hj hr' with ⟨firsts, hf, rfl⟩ | ⟨-, rfl⟩
  · have hfirsts (m : Row) (hm : m ∈ firsts) : m.TagsWithin names := by
      obtain ⟨b, hbranch, hhead⟩ := hf.exists_branch hm
      exact hb b hbranch m hhead
    simp only [Row.tagsWithin_iff] at hr hfirsts ⊢
    intro t ht
    rw [find?_layer, hr t ht, Option.or_none, List.findSome?_eq_none_iff]
    intro m hm
    exact hfirsts m (List.mem_reverse.1 hm) t ht
  · exact hr

/-- **Stages carry on what their sources have**: if these carry only tags in scope, so does the
stage, provided that it is no union that lets in others. -/
theorem sound_of_sources (hs : st.Supplied) (hu : st.UnionKeeps sizeLimit g)
    (h : ∀ st', Source sizeLimit g st' st → st'.Sound sizeLimit g) : st.Sound sizeLimit g := by
  obtain ⟨s, outer, input⟩ := st
  have of_origin {o : Step} {marks : List String} (ho : s.origin? = some (o, marks)) :
      Sound sizeLimit g ⟨s, outer, input⟩ := by
    intro r hr
    obtain ⟨r₀, h₀, marked⟩ := exists_origin_row ho hr
    rw [exports, scope_of_origin ho]
    exact tagsWithin_of_marked marked (h _ (.origin ho) r₀ h₀)
  intro r hr
  cases s with
  | entities ids =>
    obtain ⟨values, -, hr⟩ := mem_drain.1 hr
    exact Row.tagsWithin_of_tags_eq_empty (tags_of_mem_ofRows_atNode hr)
  | vertex values => exact Row.tagsWithin_of_tags_eq_empty (tags_of_mem_ofRows_atNode hr)
  | placeholder => exact (hs.resolve_left (by simp [startsFresh])) r hr
  | combine operation o ss =>
    cases operation with
    | union =>
      rcases mem_append_concat.1 (mem_of_mem_distinct hr) with hr | ⟨_, hbranch, hr⟩
      · exact h _ .united r hr
      · rw [meaningEach_eq_map] at hbranch
        obtain ⟨b, hb, rfl⟩ := List.mem_map.1 hbranch
        exact hu o ss rfl b hb r hr
    | intersect => exact of_origin rfl r hr
    | difference => exact of_origin rfl r hr
  | count o =>
    obtain ⟨n, rfl⟩ := eq_of_mem_count hr
    exact Row.tagsWithin_of_tags_eq_empty rfl
  | whereAll o ss =>
    obtain ⟨r₀, rows, h₀, hj, hr⟩ := mem_expand.1 hr
    rw [exports, scope]
    refine tagsWithin_of_mem_join hj hr ?_ ?_
    · exact (h _ .asked r₀ h₀).mono fun t => List.mem_append_right _
    · rw [meaningEach_eq_map]
      intro _ hbranch m hhead
      obtain ⟨b, hb, rfl⟩ := List.mem_map.1 hbranch
      refine (h _ (.condition hb h₀) m (mem_of_head? hhead)).mono fun t ht => ?_
      exact List.mem_append_left _ (mem_scopeEach_iff.2 ⟨b, hb, ht⟩)
  | optional o b =>
    obtain ⟨r₀, rows, h₀, hj, hr⟩ := mem_expand.1 hr
    rw [exports, scope]
    refine tagsWithin_of_mem_join hj hr ?_ ?_
    · exact (h _ .offered r₀ h₀).mono fun t => List.mem_append_right _
    · intro _ hbranch m hhead
      obtain rfl := List.mem_singleton.1 hbranch
      exact (h _ (.option h₀) m (mem_of_head? hhead)).mono fun t => List.mem_append_left _
  | follow o s => exact h _ .fragment r hr
  | _ => exact of_origin rfl r hr

/-- A stage whose rows carry only tags in scope is no union that lets in others. -/
theorem unionKeeps_of_sound (h : st.Sound sizeLimit g) : st.UnionKeeps sizeLimit g := by
  obtain ⟨s, outer, input⟩ := st
  rintro o ss rfl b hb r hr t ht
  have hall : .ok r ∈ ((o.meaning sizeLimit g input).append fun _ =>
      .concat (meaningEach sizeLimit g ss input)).toList := by
    rw [meaningEach_eq_map]
    exact mem_append_concat.2 (.inr ⟨_, List.mem_map.2 ⟨b, hb, rfl⟩, hr⟩)
  -- the union may have dropped the row, but only for one with the same tags
  obtain ⟨r', hr', -, htags⟩ := exists_mem_distinct hall
  exact h r' hr' t (htags ▸ ht)

/-! ### All stages on the way -/

/-- The sources of a stage are supplied if it is, and if those that come before others are sound. -/
theorem supplied_of_source (hs : st.Supplied) (hsrc : Source sizeLimit g st' st)
    (h : ∀ st'', Source sizeLimit g st'' st → st''.Supplied → st''.Sound sizeLimit g) :
    st'.Supplied := by
  cases hsrc with
  | origin ho => exact hs.imp_left fun hfresh => startsFresh_of_origin ho ▸ hfresh
  | united => exact hs
  | asked => exact hs
  | offered => exact hs
  | condition hb hr => exact .inr (h _ .asked hs _ hr).ofRows
  | option hr => exact .inr (h _ .offered hs _ hr).ofRows
  | @fragment o s outer input =>
    cases hfresh : s.startsFresh with
    | true => exact .inl hfresh
    | false =>
      have ho : Supplied ⟨o, outer, input⟩ := hs.imp_left (by simp [startsFresh, hfresh])
      exact .inr (h _ (.followed hfresh) ho)
  | followed hfresh => exact hs.imp_left (by simp [startsFresh, hfresh])

/-- If no union on the way to a stage lets in tags out of scope, no stage on the way has any. -/
theorem sound_of_unionKeeps {st : Stage} (hs : st.Supplied)
    (hu : ∀ st', OnWay sizeLimit g st' st → st'.UnionKeeps sizeLimit g) :
    ∀ st', OnWay sizeLimit g st' st → st'.Sound sizeLimit g := by
  have sources (mid : Stage) (hsrc : Source sizeLimit g mid st) (hmid : mid.Supplied) :
      ∀ st', OnWay sizeLimit g st' mid → st'.Sound sizeLimit g :=
    have := sizeOf_lt_of_source hsrc
    sound_of_unionKeeps hmid fun st' hway => hu st' (.source hway hsrc)
  have supplied (mid : Stage) (hsrc : Source sizeLimit g mid st) : mid.Supplied :=
    supplied_of_source hs hsrc fun st' hsrc' hs' => sources st' hsrc' hs' st' .refl
  intro st' hway
  cases hway with
  | refl =>
    exact sound_of_sources hs (hu st .refl) fun mid hsrc =>
      sources mid hsrc (supplied mid hsrc) mid .refl
  | source hway hsrc => exact sources _ hsrc (supplied _ hsrc) st' hway
termination_by sizeOf st.step

theorem sound_iff_unionKeeps (hs : st.Supplied) :
    (∀ st', OnWay sizeLimit g st' st → st'.Sound sizeLimit g) ↔
      ∀ st', OnWay sizeLimit g st' st → st'.UnionKeeps sizeLimit g :=
  ⟨fun h st' hway => unionKeeps_of_sound (h st' hway), sound_of_unionKeeps hs⟩

end Stage

/-! ### Prepared queries -/

namespace Step

open Items Stage

/-- The stage of the step whose rows a query reports. -/
def rootStage (s : Step) (g : Graph) : Stage where
  step := s.shape.1
  outer := []
  input := ofRows (g.nodes.map .atNode)

theorem supplied_rootStage (s : Step) (g : Graph) : (s.rootStage g).Supplied := by
  exact .inr fun r hr => Row.tagsWithin_of_tags_eq_empty (tags_of_mem_ofRows_atNode hr)

/-- The rows of a query carry only tags that it lists if its root is sound, and only then. -/
theorem sound_rootStage_iff {s : Step} {settings : Settings} {q : PreparedQuery}
    (h : s.prepare settings = .ok q) (g : Graph) :
    (s.rootStage g).Sound settings.patternSizeLimit g ↔ (q.items g).TagsWithin q.tags := by
  have hitems : (s.rootStage g).items settings.patternSizeLimit g = q.items g := by
    rw [items_of_prepare h, ← meaning_shape]
    rfl
  unfold Sound TagsWithin Row.TagsWithin
  simp only [hitems, mem_tags_iff_of_prepare h]
  rfl

/-- **Rows carry listed tags, up to unions**: on any graph, the stages on the way to the rows of a
prepared query carry only tags in scope exactly if each union among them lets only such rows of its
branches through; the rows of the query then carry only tags that it lists. If the stages from which
these rows are made are sound, the rows carry an unlisted tag only because the query is itself a
union that lets it in. -/
theorem tagsWithin_iff_of_prepare {s : Step} {settings : Settings} {q : PreparedQuery}
    (h : s.prepare settings = .ok q) (g : Graph) :
    ((∀ st, OnWay settings.patternSizeLimit g st (s.rootStage g) →
        st.Sound settings.patternSizeLimit g) ↔
      ∀ st, OnWay settings.patternSizeLimit g st (s.rootStage g) →
        st.UnionKeeps settings.patternSizeLimit g) ∧
    ((∀ st, OnWay settings.patternSizeLimit g st (s.rootStage g) →
        st.UnionKeeps settings.patternSizeLimit g) →
      (q.items g).TagsWithin q.tags) ∧
    ((∀ st, Source settings.patternSizeLimit g st (s.rootStage g) →
        st.Sound settings.patternSizeLimit g) →
      ((q.items g).TagsWithin q.tags ↔
        (s.rootStage g).UnionKeeps settings.patternSizeLimit g)) := by
  have hiff := @sound_iff_unionKeeps settings.patternSizeLimit g _ (supplied_rootStage s g)
  refine ⟨hiff, fun hu => ?_, fun hsources => ?_⟩
  · exact (sound_rootStage_iff h g).1 (hiff.2 hu _ .refl)
  · rw [← sound_rootStage_iff h g]
    exact ⟨unionKeeps_of_sound, fun hu => sound_of_sources (supplied_rootStage s g) hu hsources⟩

/-- A union with a branch that binds no tag. -/
def harmless : Step :=
  .tagged (.combine .union (.vertex []) [.isOneOf .placeholder [.iri "bob"]]) "x"

theorem tagsWithin_of_prepare_harmless :
    ∃ q, harmless.prepare {} = .ok q ∧ ∀ g : Graph, (q.items g).TagsWithin q.tags := by
  have hprepare : (harmless.prepare {}).isOk = true := by decide +kernel
  obtain ⟨q, hq⟩ := exists_eq_ok_of_isOk hprepare
  refine ⟨q, hq, fun g => (tagsWithin_iff_of_prepare hq g).2.1 fun st hway => ?_⟩
  -- the only union on the way is the one under the mark
  cases hway with
  | refl => rintro o ss ⟨⟩
  | source hway hsrc =>
    cases hsrc with
    | origin h =>
      cases h
      cases hway with
      | refl =>
        rintro o ss ⟨⟩ b hb r hr
        obtain rfl := List.mem_singleton.1 hb
        exact Row.tagsWithin_of_tags_eq_empty (tags_of_mem_ofRows_atNode (mem_isOneOf hr))
      | source hway hsrc =>
        cases hsrc with
        | origin h => cases h
        | united =>
          cases hway with
          | refl => rintro o ss ⟨⟩
          | source hway hsrc =>
            cases hsrc with
            | origin h => cases h

/-- A union with a branch that binds a tag of its own. -/
def leaky : Step :=
  .combine .union (.vertex [.iri "alice"]) [.tagged (.vertex [.iri "bob"]) "hidden"]

theorem not_tagsWithin_of_prepare :
    ¬ ∀ (s : Step) (settings : Settings) (q : PreparedQuery), s.prepare settings = .ok q →
      ∀ store : QuadStore, (q.items store.graph).TagsWithin q.tags := by
  intro h
  have hprepare : (leaky.prepare {}).isOk = true := by decide +kernel
  obtain ⟨q, hq⟩ := exists_eq_ok_of_isOk hprepare
  have hwithin := h leaky {} q hq (.ofQuads [.ofIris "alice" "likes" "bob" ""])
  have hkeeps := unionKeeps_of_sound ((sound_rootStage_iff hq _).2 hwithin)
  have hid : (QuadStore.ofQuads [.ofIris "alice" "likes" "bob" ""]).graph.lookupAll
      [.iri "bob"] = [2] := by
    decide +kernel
  have hhidden := hkeeps _ _ rfl _ List.mem_cons_self ((Row.atNode 2).mark "hidden")
    (mem_change.2 ⟨.atNode 2, mem_ofRows.2 (by simp [hid]), rfl⟩) "hidden" (by decide)
  simp [exports, rootStage, leaky, shape, scope] at hhidden

end Step

end QuadWalk
