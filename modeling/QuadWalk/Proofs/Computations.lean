import Mathlib.Data.List.Forall2

/-!
# Computations that may fail

When a computation has a result, when it fails, and the same of computations that are made for each
element of a list: they have results exactly if each of them has one (`mapM_ok_iff`), and otherwise
the first one that fails decides (`mapM_error_iff`). What is computed stands beside what it is
computed from, so that lists side by side belong here too.
-/

namespace QuadWalk

variable {α β γ ε : Type}

/-! ### One computation -/

section One

variable {x : Except ε α} {f : α → Except ε γ}

theorem map_ok_iff {f : α → β} {b : β} : x.map f = .ok b ↔ ∃ a, x = .ok a ∧ f a = b := by
  cases x <;> simp [Except.map]

theorem mapError_ok_iff {ε' : Type} {f : ε → ε'} {a : α} : x.mapError f = .ok a ↔ x = .ok a := by
  cases x <;> simp [Except.mapError]

theorem bind_ok_iff {c : γ} : (x >>= f) = .ok c ↔ ∃ a, x = .ok a ∧ f a = .ok c := by
  cases x <;> simp [bind, Except.bind]

theorem bind_error_iff {e : ε} :
    (x >>= f) = .error e ↔ x = .error e ∨ ∃ a, x = .ok a ∧ f a = .error e := by
  cases x <;> simp [bind, Except.bind]

/-- A computation that is seen to succeed has a result. -/
theorem exists_eq_ok_of_isOk (h : x.isOk = true) : ∃ a, x = .ok a := by
  cases x with
  | error e => simp [Except.isOk, Except.toBool] at h
  | ok a => exact ⟨a, rfl⟩

theorem eq_ok_of_toOption {a : α} (h : x.toOption = some a) : x = .ok a := by
  cases x with
  | error e => simp [Except.toOption] at h
  | ok b => simpa [Except.toOption] using h

end One

/-! ### A computation for each element -/

section Each

variable {f : α → Except ε β} {a : α} {as : List α} {b : β} {bs : List β}

theorem map_ok_inj {as' : List α} :
    as'.map Except.ok = as.map (Except.ok (ε := ε)) ↔ as' = as :=
  (List.map_injective_iff.2 fun _ _ => Except.ok.inj).eq_iff

theorem eq_map_ok_of_toOption {xs : List (Except ε α)} (h : xs.map Except.toOption = as.map some) :
    xs = as.map .ok := by
  induction xs generalizing as with
  | nil =>
    obtain rfl : as = [] := by simpa using h.symm
    rfl
  | cons x xs ih =>
    obtain ⟨a, as, rfl, hx, hxs⟩ := List.map_eq_cons_iff.1 h.symm
    rw [eq_ok_of_toOption hx.symm, ih hxs.symm, List.map_cons]

theorem exists_map_eq_ok (h : ∀ a ∈ as, ∃ b, f a = .ok b) :
    ∃ bs : List β, as.map f = bs.map .ok := by
  induction as with
  | nil => exact ⟨[], rfl⟩
  | cons a as ih =>
    obtain ⟨b, hb⟩ := h a List.mem_cons_self
    obtain ⟨bs, hbs⟩ := ih fun a' ha' => h a' (List.mem_cons_of_mem a ha')
    exact ⟨b :: bs, by rw [List.map_cons, List.map_cons, hb, hbs]⟩

/-- A list is computed exactly if each of its elements is. -/
theorem mapM_ok_iff : as.mapM f = .ok bs ↔ as.map f = bs.map .ok := by
  induction as generalizing bs with
  | nil => cases bs <;> simp [pure, Except.pure]
  | cons a as ih =>
    rw [List.mapM_cons, bind_ok_iff]
    simp only [bind_ok_iff, ih, pure, Except.pure, Except.ok.injEq]
    cases bs with
    | nil => simp
    | cons b bs =>
      constructor
      · rintro ⟨_, hb, _, hbs, heq⟩
        cases heq
        rw [List.map_cons, List.map_cons, hb, hbs]
      · intro h
        obtain ⟨hb, hbs⟩ := List.cons.inj h
        exact ⟨b, hb, bs, hbs, rfl⟩

/-- The elements of a computed list stand beside those that they are computed from. -/
theorem mapM_ok_iff_forall₂ :
    as.mapM f = .ok bs ↔ List.Forall₂ (fun a b => f a = .ok b) as bs := by
  rw [mapM_ok_iff, ← List.forall₂_eq_eq_eq, List.forall₂_map_left_iff, List.forall₂_map_right_iff]

/-- Each result of a computation on a list comes from something in the list. -/
theorem exists_of_mem_mapM (h : as.mapM f = .ok bs) (hb : b ∈ bs) : ∃ a ∈ as, f a = .ok b := by
  have hmem : Except.ok b ∈ as.map f := mapM_ok_iff.1 h ▸ List.mem_map_of_mem hb
  exact List.mem_map.1 hmem

/-- What can be computed for each element of a list, element by element. -/
theorem exists_forall₂ (h : ∀ a ∈ as, ∃ b, f a = .ok b) :
    ∃ bs, as.map f = bs.map .ok ∧ List.Forall₂ (fun a b => f a = .ok b) as bs := by
  obtain ⟨bs, hbs⟩ := exists_map_eq_ok h
  exact ⟨bs, hbs, mapM_ok_iff_forall₂.1 (mapM_ok_iff.2 hbs)⟩

/-- Steps that go on with what is computed for an element may be taken when all of it is computed.
-/
theorem foldlM_map_eq {step : γ → β → γ} (as : List α) (c : γ) :
    as.foldlM (fun c a => (f a).map (step c)) c = (as.mapM f).map (·.foldl step c) := by
  induction as generalizing c with
  | nil => rfl
  | cons a as ih =>
    rw [List.foldlM_cons, List.mapM_cons]
    cases f a with
    | error e => rfl
    | ok b =>
      show as.foldlM _ (step c b) = _
      rw [ih]
      cases as.mapM f <;> rfl

end Each

/-! ### What fails first -/

section Failures

variable {f : α → Except ε β} {as : List α} {e : ε}

/-- The error of what has failed. -/
def failure? : Except ε β → Option ε
  | .ok _ => none
  | .error e => some e

theorem failure?_eq_some {x : Except ε β} : failure? x = some e ↔ x = .error e := by
  cases x <;> simp [failure?]

theorem failure?_eq_none {x : Except ε β} : failure? x = none ↔ ∃ b, x = .ok b := by
  cases x <;> simp [failure?]

/-- The first error, if something is tried on each element of a list in turn. -/
def firstFailure? (f : α → Except ε β) (as : List α) : Option ε :=
  as.findSome? fun a => failure? (f a)

theorem mapM_eq_error_iff : as.mapM f = .error e ↔ firstFailure? f as = some e := by
  induction as with
  | nil => simp [firstFailure?, pure, Except.pure]
  | cons a as ih =>
    rw [firstFailure?, List.findSome?_cons, List.mapM_cons]
    cases ha : f a with
    | error e' => simp [failure?, bind, Except.bind]
    | ok b =>
      rw [firstFailure?] at ih
      cases has : as.mapM f with
      | error e' => simpa [has, failure?, bind, Except.bind] using ih
      | ok bs => simpa [has, failure?, bind, Except.bind, pure, Except.pure] using ih

/-- **The first element decides for which the computation fails.** -/
theorem mapM_error_iff : as.mapM f = .error e ↔
    ∃ before a after, as = before ++ a :: after ∧ f a = .error e ∧
      ∀ b ∈ before, ∃ c, f b = .ok c := by
  simp only [mapM_eq_error_iff, firstFailure?, List.findSome?_eq_some_iff, failure?_eq_some,
    failure?_eq_none]

/-- Of two attempts that fail in the same way, the same error comes first. -/
theorem firstFailure?_congr {γ : Type} {f' : α → Except ε γ}
    (h : ∀ a, failure? (f a) = failure? (f' a)) : firstFailure? f as = firstFailure? f' as := by
  rw [firstFailure?, firstFailure?, funext h]

end Failures

/-! ### Lists side by side -/

section Beside

variable {R : α → β → Prop} {S : α → γ → Prop} {T : β → γ → Prop} {a : α} {as : List α}
  {bs : List β} {cs : List γ}

/-- Each element of the first list stands beside one of the second. -/
theorem exists_mem_zip (h : List.Forall₂ R as bs) (ha : a ∈ as) : ∃ b, (a, b) ∈ as.zip bs := by
  rw [← List.map_fst_zip (Nat.le_of_eq h.length_eq)] at ha
  obtain ⟨⟨a, b⟩, hab, rfl⟩ := List.mem_map.1 ha
  exact ⟨b, hab⟩

theorem exists_right_of_forall₂ (h : List.Forall₂ R as bs) (ha : a ∈ as) : ∃ b ∈ bs, R a b := by
  obtain ⟨b, hab⟩ := exists_mem_zip h ha
  exact ⟨b, (List.of_mem_zip hab).2, List.forall₂_zip h hab⟩

/-- Two lists that each follow a third one follow each other. -/
theorem forall₂_of_forall₂ (hbs : List.Forall₂ R as bs) (hcs : List.Forall₂ S as cs)
    (h : ∀ a b c, R a b → S a c → T b c) : List.Forall₂ T bs cs := by
  induction hbs generalizing cs with
  | nil =>
    cases hcs
    exact .nil
  | cons hab _ ih =>
    obtain _ | ⟨hac, hrest⟩ := hcs
    exact .cons (h _ _ _ hab hac) (ih hrest)

end Beside

end QuadWalk
