import Std.Data.HashSet

/-!
# Lazy lists

A query may have many more rows than are asked for. A `LazyList` is a finite list whose items are
worked out one after another, each when it is asked for. What the items are is told by `toList`, and
how an operation changes them by a lemma beside it.
-/

namespace QuadWalk

/-- A list whose tail is worked out when it is asked for. -/
inductive LazyList (α : Type) where
  | nil
  | cons (head : α) (tail : Unit → LazyList α)

namespace LazyList

variable {α β ε κ : Type}

/-! ### The items -/

/-- The items after some others, which are given latest first. -/
def collect (before : List α) : LazyList α → List α
  | nil => before.reverse
  | cons a tail => collect (a :: before) (tail ())

/-- The items of a lazy list. -/
def toList (s : LazyList α) : List α := s.collect []

theorem collect_eq (s : LazyList α) (before : List α) :
    s.collect before = before.reverse ++ s.collect [] := by
  induction s generalizing before with
  | nil => simp [collect]
  | cons a tail ih => rw [collect, ih, collect, ih () [a]]; simp

@[simp]
theorem toList_nil : (nil : LazyList α).toList = [] := rfl

@[simp]
theorem toList_cons (a : α) (tail : Unit → LazyList α) :
    (cons a tail).toList = a :: (tail ()).toList := by
  rw [toList, collect, collect_eq]; rfl

/-- The first items, no more than a given number. -/
def take : Nat → LazyList α → List α
  | 0, _ => []
  | _ + 1, nil => []
  | 1, cons a _ => [a]
  | n + 2, cons a tail => a :: take (n + 1) (tail ())

theorem take_eq (n : Nat) (s : LazyList α) : s.take n = s.toList.take n := by
  fun_induction take n s <;> simp_all

/-- The first item. -/
def head? : LazyList α → Option α
  | nil => none
  | cons a _ => some a

@[simp]
theorem head?_toList (s : LazyList α) : s.toList.head? = s.head? := by
  cases s <;> simp [head?]

/-! ### Building lazy lists -/

/-- Some items, and then those of a lazy list. -/
def prepend : List α → (Unit → LazyList α) → LazyList α
  | [], more => more ()
  | a :: as, more => cons a fun _ => prepend as more

@[simp]
theorem toList_prepend (as : List α) (more : Unit → LazyList α) :
    (prepend as more).toList = as ++ (more ()).toList := by
  induction as with
  | nil => rfl
  | cons a as ih => simp [prepend, ih]

/-- The lazy list of some items. -/
def ofList (as : List α) : LazyList α := prepend as fun _ => nil

@[simp]
theorem toList_ofList (as : List α) : (ofList as).toList = as := by simp [ofList]

/-- The items of one lazy list, and then those of another. -/
def append : LazyList α → (Unit → LazyList α) → LazyList α
  | nil, more => more ()
  | cons a tail, more => cons a fun _ => append (tail ()) more

@[simp]
theorem toList_append (s : LazyList α) (more : Unit → LazyList α) :
    (s.append more).toList = s.toList ++ (more ()).toList := by
  induction s with
  | nil => rfl
  | cons a tail ih => simp [append, ih ()]

/-- The items of several lazy lists, one list after another. -/
def concat : List (Unit → LazyList α) → LazyList α
  | [] => nil
  | s :: rest => (s ()).append fun _ => concat rest

@[simp]
theorem toList_concat (lists : List (Unit → LazyList α)) :
    (concat lists).toList = lists.flatMap fun s => (s ()).toList := by
  induction lists with
  | nil => rfl
  | cons s rest ih => simp [concat, ih]

/-! ### Changing lazy lists -/

/-- Replaces each item by some items. -/
def flatMap (f : α → List β) : LazyList α → LazyList β
  | nil => nil
  | cons a tail => prepend (f a) fun _ => flatMap f (tail ())

@[simp]
theorem toList_flatMap (f : α → List β) (s : LazyList α) :
    (s.flatMap f).toList = s.toList.flatMap f := by
  induction s with
  | nil => rfl
  | cons a tail ih => simp [flatMap, ih ()]

/-- Replaces each item by another. -/
def map (f : α → β) : LazyList α → LazyList β
  | nil => nil
  | cons a tail => cons (f a) fun _ => map f (tail ())

@[simp]
theorem toList_map (f : α → β) (s : LazyList α) : (s.map f).toList = s.toList.map f := by
  induction s with
  | nil => rfl
  | cons a tail ih => simp [map, ih ()]

/-- A lazy list cut off after a number of items. What is cut off is not worked out. -/
def limit : Nat → (Unit → LazyList α) → LazyList α
  | 0, _ => nil
  | n + 1, s =>
    match s () with
    | nil => nil
    | cons a tail => cons a fun _ => limit n tail

@[simp]
theorem toList_limit (n : Nat) (s : Unit → LazyList α) :
    (limit n s).toList = (s ()).toList.take n := by
  induction n generalizing s with
  | zero => simp [limit]
  | succ n ih =>
    cases h : s () with
    | nil => simp [limit, h]
    | cons a tail => simp [limit, h, ih]

/-- Whether two items have the same key. An item without a key is like no other. -/
def sameKey [BEq κ] (key? : α → Option κ) (a b : α) : Bool :=
  match key? a, key? b with
  | some k, some l => k == l
  | _, _ => false

/-- Keeps the items without a key and the first one with each key, given the keys of earlier items.
-/
def distinctAfter [BEq κ] [Hashable κ] (key? : α → Option κ) (known : Std.HashSet κ) :
    LazyList α → LazyList α
  | nil => nil
  | cons a tail =>
    match key? a with
    | none => cons a fun _ => distinctAfter key? known (tail ())
    | some k =>
      if known.contains k then distinctAfter key? known (tail ())
      else
        let known := known.insert k
        cons a fun _ => distinctAfter key? known (tail ())

/-- Keeps the items without a key and the first one with each key. -/
def distinct [BEq κ] [Hashable κ] (key? : α → Option κ) (s : LazyList α) : LazyList α :=
  distinctAfter key? ∅ s

theorem loop_eraseDupsBy [BEq κ] [Hashable κ] [LawfulBEq κ] (key? : α → Option κ) (s : LazyList α)
    (seen : List α) (known : Std.HashSet κ)
    (h : ∀ k, known.contains k = seen.any fun a => key? a == some k) :
    List.eraseDupsBy.loop (sameKey key?) s.toList seen =
      seen.reverse ++ (s.distinctAfter key? known).toList := by
  induction s generalizing seen known with
  | nil => simp [List.eraseDupsBy.loop, distinctAfter]
  | cons a tail ih =>
    cases hk : key? a with
    | none =>
      have new : seen.any (sameKey key? a) = false := by simp [sameKey, hk]
      rw [toList_cons, List.eraseDupsBy.loop, new, ih () (a :: seen) known]
      · simp [distinctAfter, hk]
      · simp [h, hk]
    | some k =>
      have old : seen.any (sameKey key? a) = known.contains k := by
        rw [h]
        refine congrArg seen.any (funext fun b => ?_)
        cases hb : key? b <;> simp [sameKey, hk, hb, BEq.comm]
      rw [toList_cons, List.eraseDupsBy.loop, old]
      cases hc : known.contains k with
      | true => simp [distinctAfter, hk, hc, ih () seen known h]
      | false =>
        simp only [distinctAfter, hk, hc, Bool.false_eq_true, ↓reduceIte]
        rw [ih () (a :: seen) (known.insert k)]
        · simp
        · simp [h, hk, Std.HashSet.contains_insert]

/-- The items that are kept are those that no earlier item has the key of. -/
@[simp]
theorem toList_distinct [BEq κ] [Hashable κ] [LawfulBEq κ] (key? : α → Option κ)
    (s : LazyList α) : (s.distinct key?).toList = s.toList.eraseDupsBy (sameKey key?) := by
  rw [distinct, List.eraseDupsBy, loop_eraseDupsBy key? s [] ∅] <;> simp

/-! ### Working through a lazy list -/

/-- Works through the items from the first one on, up to the first error. -/
def foldlM (f : β → α → Except ε β) (b : β) : LazyList α → Except ε β
  | nil => .ok b
  | cons a tail =>
    match f b a with
    | .ok b => foldlM f b (tail ())
    | .error e => .error e

theorem foldlM_eq (f : β → α → Except ε β) (b : β) (s : LazyList α) :
    s.foldlM f b = s.toList.foldlM f b := by
  induction s generalizing b with
  | nil => rfl
  | cons a tail ih =>
    cases h : f b a <;> simp [foldlM, h, ih (), bind, Except.bind]

/-- What a function gives for each item, or its first error. -/
def traverse (f : α → Except ε β) (s : LazyList α) : Except ε (List β) :=
  (s.foldlM (fun before a => (f a).map (· :: before)) []).map List.reverse

theorem foldlM_cons_eq (f : α → Except ε β) (as : List α) (before : List β) :
    (as.foldlM (fun before a => (f a).map (· :: before)) before).map List.reverse =
      (as.mapM f).map (before.reverse ++ ·) := by
  induction as generalizing before with
  | nil => simp [Except.map, pure, Except.pure]
  | cons a as ih =>
    cases h : f a with
    | error e => simp [h, Except.map, bind, Except.bind]
    | ok b =>
      have step := ih (b :: before)
      simp only [List.foldlM_cons, List.mapM_cons, h, Except.map, bind, Except.bind] at step ⊢
      rw [step]
      cases as.mapM f <;> simp [pure, Except.pure]

theorem traverse_eq (f : α → Except ε β) (s : LazyList α) : s.traverse f = s.toList.mapM f := by
  rw [traverse, foldlM_eq, foldlM_cons_eq]
  cases s.toList.mapM f <;> simp [Except.map]

end LazyList

end QuadWalk
