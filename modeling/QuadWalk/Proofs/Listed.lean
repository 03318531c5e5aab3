import QuadWalk.Proofs.Conditions
import QuadWalk.Proofs.Exports
import QuadWalk.Proofs.Parts

/-!
# Queries whose rows bind all listed tags

A prepared query lists the tags in scope at its root, and its rows carry the tags that its steps
bind on their way. The two can part in both directions: a union lets in tags out of scope, and an
option, or a fragment that begins anew, leaves a tag in scope unbound. `Step.isSteady` rules these
out: no unions, no options, and no fragment whose origins lead to anything but its placeholder.

Then a step has in scope what it binds and what was in scope around it, and of the latter nothing
is left in a fragment that does not go on with the rows of what it follows: the only way for it to
begin afresh is to count, which leaves no tag on either side (`Step.mem_scope_cases`). The branches
of a condition may begin anywhere: what they lack is in the row for which they are run.
-/

namespace QuadWalk.Step

open Items

/-! ### Steady steps -/

/-- Whether the origins of a step lead to its placeholder. -/
def isRooted : Step → Bool
  | placeholder => true
  | entities _ | vertex _ => false
  | visit _ o _ | back o | backTo o _ | properties _ o _ | propertyNames _ o
  | propertyNamesAs _ o _ | has _ o _ _ | isOneOf o _ | combine _ o _ | filter o _ | compare _ o _
  | count o | limit o _ | skip o _ | unique o | order o | tagged o _ | whereAll o _ | optional o _
  | follow o _ | select o _ | selectFirst o | documents o => isRooted o

/-- Whether a step leaves no tag in scope unbound by itself, and lets none in that is out of scope.
-/
def isSteady : Step → Bool
  | combine .union _ _ | optional _ _ => false
  | follow _ s => s.isRooted
  | _ => true

variable {s o : Step} {marks : List String} {t : String}

theorem isRooted_of_origin (h : s.origin? = some (o, marks)) : s.isRooted = o.isRooted := by
  revert h
  fun_cases origin? s <;> simp [isRooted] <;> rintro rfl - <;> rfl

/-- Without unions and options, it is definite which steps are on the way of the rows. -/
theorem isDefinite_of_steady {s : Step} (h : ∀ p ∈ s.parts, p.isSteady = true) :
    s.isDefinite = true := by
  induction s using row_induction with
  | entities ids => rfl
  | vertex values => rfl
  | placeholder => rfl
  | count _ => rfl
  | union _ _ => simpa [isSteady] using h _ (mem_parts_self _)
  | optional _ _ => simpa [isSteady] using h _ (mem_parts_self _)
  | origin ho ih =>
    rw [isDefinite_of_origin ho]
    exact ih fun p hp => h p (mem_parts_of_previous (previous_of_origin ho) hp)
  | whereAll iho ihss =>
    have hss := fun b hb => ihss b hb fun p hp => h p (mem_parts_of_branch hb hp)
    have ho := iho fun p hp => h p (mem_parts_of_previous rfl hp)
    simpa [isDefinite, areDefinite_iff, ho] using hss
  | follow iho ihf =>
    have ho := iho fun p hp => h p (mem_parts_of_previous rfl hp)
    have hf := ihf fun p hp => h p (mem_parts_of_fragment hp)
    simp [isDefinite, ho, hf]

/-! ### What is in scope and what is bound -/

/-- A step that goes on with the rows of its placeholder keeps in scope what is in scope around it.
-/
theorem mem_scope_of_mem_outer {s : Step} {outer : List String} (hs : s.startsFresh = false)
    (ht : t ∈ outer) : t ∈ s.scope outer := by
  induction s using row_induction generalizing outer with
  | entities ids => simp [startsFresh] at hs
  | vertex values => simp [startsFresh] at hs
  | count _ => simp [startsFresh] at hs
  | placeholder => exact ht
  | origin ho ih =>
    rw [Stage.scope_of_origin ho]
    exact List.mem_append_right _ (ih (startsFresh_of_origin ho ▸ hs) ht)
  | union iho _ => exact iho hs ht
  | whereAll iho _ => exact List.mem_append_right _ (iho hs ht)
  | optional iho _ => exact List.mem_append_right _ (iho hs ht)
  | @follow o f iho ihf =>
    obtain ⟨hf, ho⟩ : f.startsFresh = false ∧ o.startsFresh = false := by
      simpa [startsFresh] using hs
    exact ihf hf (iho ho ht)

/-- What a step binds is in scope after it. -/
theorem mem_scope_of_mem_bound {s : Step} (outer : List String) (ht : t ∈ s.bound) :
    t ∈ s.scope outer := by
  induction s using row_induction generalizing outer with
  | entities ids => simp [bound] at ht
  | vertex values => simp [bound] at ht
  | placeholder => simp [bound] at ht
  | count _ => simp [bound] at ht
  | origin ho ih =>
    rw [Stage.scope_of_origin ho]
    rw [bound_of_origin ho] at ht
    rcases List.mem_append.1 ht with ht | ht
    · exact List.mem_append_right _ (ih outer ht)
    · exact List.mem_append_left _ ht
  | union iho _ => exact iho outer ht
  | whereAll iho ihss =>
    rw [scope]
    rcases List.mem_append.1 ht with ht | ht
    · exact List.mem_append_right _ (iho outer ht)
    · obtain ⟨b, hb, ht⟩ := mem_boundEach_iff.1 ht
      exact List.mem_append_left _ (mem_scopeEach_iff.2 ⟨b, hb, ihss b hb _ ht⟩)
  | optional iho _ => exact List.mem_append_right _ (iho outer ht)
  | @follow o f iho ihf =>
    rw [scope]
    rcases List.mem_append.1 ht with ht | ht
    · cases hfresh : f.startsFresh with
      | true => simp [hfresh] at ht
      | false =>
        simp only [hfresh, Bool.false_eq_true, if_false] at ht
        exact mem_scope_of_mem_outer hfresh (iho outer ht)
    · exact ihf _ ht

/-- **What is in scope after a steady step is what it binds and what was in scope around it**; and
it is only the former if the origins of the step lead to its placeholder and yet it begins afresh,
which is to say that it counts. -/
theorem mem_scope_cases {s : Step} {outer : List String} (h : ∀ p ∈ s.parts, p.isSteady = true)
    (ht : t ∈ s.scope outer) :
    t ∈ s.bound ∨ t ∈ outer ∧ ¬ (s.isRooted = true ∧ s.startsFresh = true) := by
  induction s using row_induction generalizing outer with
  | entities ids => exact .inr ⟨ht, by simp [isRooted]⟩
  | vertex values => exact .inr ⟨ht, by simp [isRooted]⟩
  | placeholder => exact .inr ⟨ht, by simp [startsFresh]⟩
  | count _ => simp [scope] at ht
  | union _ _ => simpa [isSteady] using h _ (mem_parts_self _)
  | optional _ _ => simpa [isSteady] using h _ (mem_parts_self _)
  | origin ho ih =>
    rw [bound_of_origin ho, isRooted_of_origin ho, startsFresh_of_origin ho, List.mem_append]
    rw [Stage.scope_of_origin ho] at ht
    rcases List.mem_append.1 ht with ht | ht
    · exact .inl (.inr ht)
    · have hparts := fun p hp => h p (mem_parts_of_previous (previous_of_origin ho) hp)
      exact (ih hparts ht).imp_left .inl
  | @whereAll o ss iho ihss =>
    have hparts := fun p hp => h p (mem_parts_of_previous rfl hp)
    have of_scope (ht : t ∈ o.scope outer) :
        t ∈ (whereAll o ss).bound ∨
          t ∈ outer ∧ ¬ ((whereAll o ss).isRooted = true ∧ (whereAll o ss).startsFresh = true) :=
      (iho hparts ht).imp_left (List.mem_append_left _)
    rw [scope] at ht
    rcases List.mem_append.1 ht with ht | ht
    · obtain ⟨b, hb, ht⟩ := mem_scopeEach_iff.1 ht
      -- what a branch lacks is in scope after the origin
      rcases ihss b hb (fun p hp => h p (mem_parts_of_branch hb hp)) ht with ht | ⟨ht, -⟩
      · exact .inl (List.mem_append_right _ (mem_boundEach_iff.2 ⟨b, hb, ht⟩))
      · exact of_scope ht
    · exact of_scope ht
  | @follow o f iho ihf =>
    have hself : f.isRooted = true := h _ (mem_parts_self _)
    rw [scope] at ht
    rcases ihf (fun p hp => h p (mem_parts_of_fragment hp)) ht with ht | ⟨ht, hfresh⟩
    · exact .inl (List.mem_append_right _ ht)
    · -- the fragment leads to its placeholder, so it goes on with the rows of the origin
      have hfresh : f.startsFresh = false := by simpa [hself] using hfresh
      have hbound : (follow o f).bound = o.bound ++ f.bound := by simp [bound, hfresh]
      have hstart : (follow o f).startsFresh = o.startsFresh := by simp [startsFresh, hfresh]
      rw [hbound, hstart]
      exact (iho (fun p hp => h p (mem_parts_of_previous rfl hp)) ht).imp_left
        (List.mem_append_left _)

/-! ### Rows of steady queries -/

/-- The tags of a row of a steady query are those that its steps bind. -/
theorem mem_tags_iff_mem_bound {sizeLimit : Nat} {g : Graph} {r : Row}
    (h : ∀ p ∈ s.parts, p.isSteady = true)
    (hr : .ok r ∈ (s.meaning sizeLimit g (ofRows (g.nodes.map .atNode))).toList) :
    t ∈ r.tags.tags ↔ t ∈ s.bound := by
  obtain ⟨r₀, hbegins, marked⟩ := exists_begins (isDefinite_of_steady h) hr
  have hempty : r₀.tags = .empty := by
    cases hfresh : s.startsFresh with
    | true => exact (begins_of_startsFresh hfresh).1 hbegins
    | false => exact tags_of_mem_ofRows_atNode ((begins_of_not_startsFresh hfresh).1 hbegins)
  rw [TagMap.mem_tags_iff]
  constructor
  · intro hsome
    refine Decidable.byContradiction fun ht => ?_
    simp [marked.kept t ht, hempty] at hsome
  · exact marked.bound t

/-- **A row binds the listed tags, no more and no fewer**, if the query has no union, no option, and
no fragment whose origins lead to anything but its placeholder. -/
theorem mem_tags_iff_listed {s : Step} {settings : Settings} {q : PreparedQuery}
    (h : s.prepare settings = .ok q) (hsteady : ∀ p ∈ s.parts, p.isSteady = true) (g : Graph)
    {r : Row} (hr : .ok r ∈ (q.items g).toList) (t : String) : t ∈ r.tags.tags ↔ t ∈ q.tags := by
  have hshape : ∀ p ∈ s.shape.1.parts, p.isSteady = true :=
    fun p hp => hsteady p (mem_parts_of_shape hp)
  rw [items_of_prepare h, ← meaning_shape] at hr
  rw [mem_tags_iff_mem_bound hshape hr, mem_tags_iff_of_prepare h]
  constructor
  · exact mem_scope_of_mem_bound []
  · intro ht
    exact (mem_scope_cases hshape ht).resolve_right (by simp)

/-- A condition one of whose branches begins anew, followed by a fragment. -/
def followed : Step :=
  .follow
    (.whereAll (.tagged (.vertex []) "person")
      [.tagged (.visit .forward .placeholder (.vertex [.iri "likes"])) "liked",
        .tagged (.count (.vertex [])) "size"])
    (.properties .forward .placeholder ["likes"])

theorem mem_tags_iff_listed_followed :
    ∃ q r, followed.prepare {} = .ok q ∧ (∀ p ∈ followed.parts, p.isSteady = true) ∧
      .ok r ∈ (q.items (QuadStore.ofQuads [.ofIris "alice" "likes" "bob" ""]).graph).toList ∧
      ∀ t, t ∈ r.tags.tags ↔ t ∈ q.tags := by
  let g := (QuadStore.ofQuads [.ofIris "alice" "likes" "bob" ""]).graph
  have hprepare : (followed.prepare {}).isOk = true := by decide +kernel
  obtain ⟨q, hq⟩ := exists_eq_ok_of_isOk hprepare
  have hsteady : ∀ p ∈ followed.parts, p.isSteady = true := by decide
  have hrow : ((followed.meaning 0x100000 g (ofRows (g.nodes.map .atNode))).head?.bind
      Except.toOption).isSome = true := by
    decide +kernel
  obtain ⟨r, hr⟩ := Option.isSome_iff_exists.1 hrow
  obtain ⟨item, hitem, hok⟩ := Option.bind_eq_some_iff.1 hr
  have hmem : .ok r ∈ (q.items g).toList := by
    rw [items_of_prepare hq]
    exact mem_of_head? (eq_ok_of_toOption hok ▸ hitem)
  exact ⟨q, r, hq, hsteady, hmem, mem_tags_iff_listed hq hsteady g hmem⟩

end QuadWalk.Step
