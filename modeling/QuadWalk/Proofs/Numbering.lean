import Mathlib.Data.List.Induction
import QuadWalk.Proofs.Distinct
import QuadWalk.Proofs.Interning

/-!
# Numbers are given out in the order of first sight

Empty tables are asked for the numbers of values and for the values of numbers, in any sequence of
requests. The main statement, `Interner.Tables.numbered_askAll`, says that the numbers that are
given out are 0, 1, 2 and so on, a new one whenever a value is met for the first time; that a value
which is met again is given its number again; and that values and numbers remain each other's
whatever is asked afterwards.

## The invariant

One request keeps the two tables in step with each other and with the counter, and so do many
(`Sound.ask`, `Sound.askAll`). What is proved of the requests by induction may therefore suppose it
of the tables that are reached (`askAll_induction`).

Seen from outside, such tables are a list of different values in the order of their numbers
(`Represents`): a number is a place in the list, and giving out the next number is to write its
value at the end. After some requests the list has the values that were met, each where it was met
first.

As many numbers are used as there are different values, so that numbers of 32 bits are enough for
fewer than `2 ^ 32` values.
-/

namespace QuadWalk.Interner.Tables

/-- What may be asked of tables. -/
inductive Request where
  /-- The number of a value, which is given one if it has none. -/
  | intern (v : Value)
  /-- The number that a value has. -/
  | idOf (v : Value)
  /-- The value that a number has. -/
  | lookup (id : NodeId)

/-- The tables after a request. -/
def ask (t : Tables) : Request → Tables
  | .intern v => (t.intern v).2
  | .idOf _ => t
  | .lookup _ => t

/-- The number that is given out on a request, with the value that it is given to. -/
def given (t : Tables) : Request → List (Value × NodeId)
  | .intern v => [(v, (t.intern v).1)]
  | .idOf _ => []
  | .lookup _ => []

/-- The tables after some requests, one after the other. -/
def askAll (t : Tables) (requests : List Request) : Tables := requests.foldl ask t

/-- All numbers that are given out on some requests, one after the other, with their values. -/
def givenAll (t : Tables) : List Request → List (Value × NodeId)
  | [] => []
  | r :: requests => t.given r ++ (t.ask r).givenAll requests

variable {t : Tables} {id : NodeId} {v : Value} {requests : List Request}

theorem askAll_append (t : Tables) (requests later : List Request) :
    t.askAll (requests ++ later) = (t.askAll requests).askAll later := List.foldl_append

theorem givenAll_append (t : Tables) (requests later : List Request) :
    t.givenAll (requests ++ later) = t.givenAll requests ++ (t.askAll requests).givenAll later := by
  induction requests generalizing t with
  | nil => rfl
  | cons r requests ih => rw [List.cons_append, givenAll, ih, givenAll, List.append_assoc]; rfl

/-! ### The tables stay in step -/

/-- A request keeps the tables in step: what looks up leaves them as they are. -/
theorem Sound.ask (h : t.Sound) (r : Request) : (t.ask r).Sound := by
  cases r with
  | intern v => exact h.intern v
  | idOf v => exact h
  | lookup id => exact h

/-- **After any requests the tables are each other's inverse, up to the counter.** -/
theorem Sound.askAll (h : t.Sound) (requests : List Request) : (t.askAll requests).Sound := by
  induction requests generalizing t with
  | nil => exact h
  | cons r requests ih => exact ih (h.ask r)

/-- **What empty tables have, and what is kept by giving out a number, holds after any requests** of
the tables and of all that was given out. -/
theorem askAll_induction {P : Tables → List (Value × NodeId) → Prop} (hempty : P {} [])
    (hintern : ∀ t out v, t.Sound → P t out → P (t.intern v).2 (out ++ [(v, (t.intern v).1)]))
    (requests : List Request) : P (askAll {} requests) (givenAll {} requests) := by
  induction requests using List.reverseRecOn with
  | nil => exact hempty
  | append_singleton requests r ih =>
    rw [askAll_append, givenAll_append]
    have hlookup : P (Tables.askAll {} requests) (Tables.givenAll {} requests ++ []) := by
      rw [List.append_nil]
      exact ih
    cases r with
    | intern v => exact hintern _ _ v (sound_empty.askAll requests) ih
    | idOf v => exact hlookup
    | lookup id => exact hlookup

/-! ### What is given out stays -/

theorem Sound.grows_ask (h : t.Sound) (r : Request) : Grows t (t.ask r) := by
  cases r with
  | intern v => exact h.grows_intern v
  | idOf v => exact Grows.refl t
  | lookup id => exact Grows.refl t

theorem Sound.grows_askAll (h : t.Sound) (requests : List Request) :
    Grows t (t.askAll requests) := by
  induction requests generalizing t with
  | nil => exact Grows.refl t
  | cons r requests ih => exact Grows.trans (h.grows_ask r) (ih (h.ask r))

/-- A number that was given to a value has this value. -/
theorem lookup?_of_mem_givenAll (h : (v, id) ∈ givenAll {} requests) :
    (askAll {} requests).lookup? id = some v := by
  have hall : ∀ p ∈ givenAll {} requests, (askAll {} requests).lookup? p.2 = some p.1 := by
    refine askAll_induction (P := fun t out => ∀ p ∈ out, t.lookup? p.2 = some p.1) (by simp) ?_
      requests
    intro t out v hsound hout p hp
    rcases List.mem_append.1 hp with hp | hp
    · exact hsound.grows_intern v (hout p hp)
    · obtain rfl := List.mem_singleton.1 hp
      exact hsound.lookup?_intern v
  exact hall (v, id) h

/-- The numbers that were given out are those below the counter, in ascending order. -/
theorem eraseDups_numbers (requests : List Request) :
    ((givenAll {} requests).map Prod.snd).eraseDups = List.range (askAll {} requests).size := by
  refine askAll_induction
    (P := fun t out => (out.map Prod.snd).eraseDups = List.range t.size) rfl ?_ requests
  intro t out v hsound hout
  have hmem (id : NodeId) : id ∈ out.map Prod.snd ↔ id < t.size := by
    rw [← List.mem_eraseDups, hout, List.mem_range]
  rw [List.map_append, List.map_singleton, eraseDups_append_singleton, hout]
  obtain ⟨id, hv, hintern⟩ | ⟨-, hintern⟩ := intern_cases t v
  · have hlt : id < t.size := hsound.lt_next ((hsound.inverse v id).1 hv)
    rw [hintern, if_pos ((hmem id).2 hlt)]
  · have hfresh : t.next ∉ out.map Prod.snd := fun h => Nat.lt_irrefl t.next ((hmem t.next).1 h)
    rw [hintern, if_neg hfresh]
    exact List.range_succ.symm

/-! ### The list of values -/

/-- Seen from outside, tables are a list of different values, each at its number. -/
structure Represents (t : Tables) (values : List Value) : Prop where
  nodup : values.Nodup
  idOf?_eq : ∀ v, t.idOf? v = values.idxOf? v
  lookup?_eq : ∀ id : NodeId, t.lookup? id = values[id]?
  size_eq : t.size = values.length

variable {values : List Value}

/-- Of tables that are in step, the values of numbers tell everything. -/
theorem Sound.represents (h : t.Sound) (hvalues : ∀ id : NodeId, t.lookup? id = values[id]?) :
    t.Represents values := by
  have hnodup : values.Nodup := by
    refine List.nodup_iff_getElem?_ne_getElem?.2 fun i j hij hj heq => ?_
    rw [List.getElem?_eq_getElem hj, ← hvalues] at heq
    have hsame : i = j := h.lookup?_inj heq (by rw [hvalues, List.getElem?_eq_getElem hj])
    omega
  refine ⟨hnodup, fun v => Option.ext fun id => ?_, hvalues, ?_⟩
  · rw [h.inverse, hvalues, idxOf?_eq_some_iff_of_nodup hnodup]
  · have hlt (id : NodeId) : id < t.next ↔ id < values.length := by
      rw [← h.dense, hvalues, ← Option.isSome_iff_exists]
      simp
    refine Nat.le_antisymm (Nat.le_of_not_lt fun hless => ?_) (Nat.le_of_not_lt fun hmore => ?_)
    · exact Nat.lt_irrefl _ ((hlt values.length).1 hless)
    · exact Nat.lt_irrefl _ ((hlt t.next).2 hmore)

theorem represents_empty : Represents {} [] := sound_empty.represents lookup?_empty

/-- **To give a value its number is to write it at the end of the list, unless it is in it.** -/
theorem Represents.intern (h : t.Represents values) (hsound : t.Sound) (v : Value) :
    (t.intern v).2.Represents (if v ∈ values then values else values ++ [v]) := by
  have hmem : v ∈ values ↔ t.idOf? v ≠ none := by
    rw [h.idOf?_eq, Ne, List.idxOf?_eq_none_iff, not_not]
  obtain ⟨id, hv, hintern⟩ | ⟨hv, hintern⟩ := intern_cases t v
  · rw [hintern, if_pos (hmem.2 (by simp [hv]))]
    exact h
  · rw [hintern, if_neg fun hold => hmem.1 hold hv]
    refine (hsound.insert hv).represents fun id => ?_
    have hnext : t.next = values.length := h.size_eq
    rw [lookup?_insert, hnext, h.lookup?_eq]
    rcases Nat.lt_trichotomy id values.length with hlt | rfl | hgt
    · rw [if_neg (Nat.ne_of_lt hlt), List.getElem?_append_left hlt]
    · rw [if_pos rfl, List.getElem?_concat_length]
    · have hlength : (values ++ [v]).length ≤ id := by
        rw [List.length_append]
        exact hgt
      rw [if_neg (Nat.ne_of_gt hgt), List.getElem?_eq_none (Nat.le_of_lt hgt),
        List.getElem?_eq_none hlength]

/-- **After some requests, tables are the list of the values that were met**, each where it was met
first. -/
theorem represents_askAll (requests : List Request) :
    (askAll {} requests).Represents ((givenAll {} requests).map Prod.fst).eraseDups := by
  refine askAll_induction
    (P := fun t out => t.Represents (out.map Prod.fst).eraseDups) represents_empty ?_ requests
  intro t out v hsound hout
  have hstep := hout.intern hsound v
  rw [List.map_append, List.map_singleton, eraseDups_append_singleton]
  simpa only [List.mem_eraseDups] using hstep

/-! ### All requests -/

/-- After some requests, values and numbers are one to one, in the order in which the values were
met first, and they remain so. -/
structure Numbered (requests : List Request) : Prop where
  /-- The numbers that were given out are those below the count of values, in ascending order. -/
  numbers : ((givenAll {} requests).map Prod.snd).eraseDups =
    List.range (askAll {} requests).size
  /-- At each number is the value that was met first after as many others. -/
  lookup?_eq : ∀ id : NodeId, (askAll {} requests).lookup? id =
    ((givenAll {} requests).map Prod.fst).eraseDups[id]?
  /-- As many numbers are used as different values were met. -/
  size_eq : (askAll {} requests).size = ((givenAll {} requests).map Prod.fst).eraseDups.length
  /-- The number of a value is the one at which it is found. -/
  idOf?_iff : ∀ (v : Value) (id : NodeId), (askAll {} requests).idOf? v = some id ↔
    ∃ w, (askAll {} requests).lookup? id = some w ∧ w = v
  /-- No two values were given one number, and no value was given two. -/
  oneToOne : ∀ p ∈ givenAll {} requests, ∀ q ∈ givenAll {} requests, p.1 = q.1 ↔ p.2 = q.2
  /-- Whatever is asked afterwards, a number keeps its value, and if the value is met again, then it
  is given its number again and nothing changes. -/
  stable : ∀ p ∈ givenAll {} requests, ∀ later : List Request,
    (askAll {} (requests ++ later)).lookup? p.2 = some p.1 ∧
      (askAll {} (requests ++ later)).intern p.1 = (p.2, askAll {} (requests ++ later))

theorem numbered_askAll (requests : List Request) : Numbered requests where
  numbers := eraseDups_numbers requests
  lookup?_eq := (represents_askAll requests).lookup?_eq
  size_eq := (represents_askAll requests).size_eq
  idOf?_iff := by
    intro v id
    rw [(sound_empty.askAll requests).inverse]
    simp
  oneToOne := by
    intro p hp q hq
    have hp := lookup?_of_mem_givenAll hp
    have hq := lookup?_of_mem_givenAll hq
    constructor
    · intro h
      exact (sound_empty.askAll requests).lookup?_inj hp (h ▸ hq)
    · intro h
      exact Option.some.inj (hp.symm.trans (h ▸ hq))
  stable := by
    intro p hp later
    have hsound : (askAll {} (requests ++ later)).Sound := sound_empty.askAll (requests ++ later)
    have hlater : (askAll {} (requests ++ later)).lookup? p.2 = some p.1 := by
      rw [askAll_append]
      exact (sound_empty.askAll requests).grows_askAll later (lookup?_of_mem_givenAll hp)
    exact ⟨hlater, hsound.intern_of_lookup? hlater⟩

end QuadWalk.Interner.Tables
