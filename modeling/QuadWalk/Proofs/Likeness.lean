import QuadWalk.Proofs.Finding
import QuadWalk.Proofs.Measuring
import QuadWalk.Query.TextFilter

/-!
# Likenesses keep the texts that are like them

A likeness is turned into the text of a search, which is read, given a meaning and searched for as
any other. `IsLike` says directly which texts are like a pattern, and a likeness keeps the values
with such texts and no others (`TextMatcher.keeps_like_iff`).

The way there follows the characters of the pattern. Whatever they are, the text of the search can
be read, and each character is read as one part of it (`PatternReader.read?_likeSearch`): a mark
that means something in a search is written with a backslash, and no question mark comes to stand
behind a repetition. The parts mean what they should, since the flag that lets dots match line ends
stands before them (`Pattern.ofText?_likeSearch`). A match of them that begins at the start of a text
and ends at its end is what `IsLike` asks for (`Pattern.isFoundIn_likeness`). So a likeness is
refused for nothing but its size, and only under limits that are below it.
-/

namespace QuadWalk

/-! ### What a likeness means -/

/-- A text is like a pattern: `%` stands for any run of characters, `_` for one character, and every
other character for itself. -/
inductive IsLike : List Char → List Char → Prop where
  | nil : IsLike [] []
  | any {p t : List Char} (run : List Char) (h : IsLike p t) : IsLike ('%' :: p) (run ++ t)
  | one {p t : List Char} (c : Char) (h : IsLike p t) : IsLike ('_' :: p) (c :: t)
  | same {p t : List Char} {c : Char} (hc : c ≠ '%' ∧ c ≠ '_') (h : IsLike p t) :
    IsLike (c :: p) (c :: t)

namespace IsLike

variable {p t : List Char} {c : Char}

theorem nil_iff : IsLike [] t ↔ t = [] := by
  constructor
  · rintro ⟨⟩
    rfl
  · rintro rfl
    exact .nil

theorem any_iff : IsLike ('%' :: p) t ↔ ∃ n ≤ t.length, IsLike p (t.drop n) := by
  constructor
  · intro h
    cases h with
    | any run h => exact ⟨run.length, by simp, by simpa using h⟩
    | same hc h => exact absurd rfl hc.1
  · rintro ⟨n, -, h⟩
    rw [← List.take_append_drop n t]
    exact .any _ h

/-- Every character of a pattern but `%` stands for one character. -/
theorem cons_iff (hc : c ≠ '%') :
    IsLike (c :: p) t ↔ ∃ d u, t = d :: u ∧ (c = '_' ∨ d = c) ∧ IsLike p u := by
  constructor
  · intro h
    cases h with
    | any run h => exact absurd rfl hc
    | one d h => exact ⟨d, _, rfl, .inl rfl, h⟩
    | same hc h => exact ⟨c, _, rfl, .inr rfl, h⟩
  · rintro ⟨d, u, rfl, hd, h⟩
    by_cases hone : c = '_'
    · exact hone ▸ .one d h
    · obtain rfl := hd.resolve_left hone
      exact .same ⟨hc, hone⟩ h

end IsLike

/-! ### Reading the search -/

namespace PatternReader

open TextFilter

variable {s : State} {fuel : Nat} {c : Char} {cs : List Char}

/-- What a character of a likeness is read as. -/
def likePart (c : Char) : PatternExpr :=
  if c = '%' then .repetition 0 none false .dot
  else if c = '_' then .dot
  else .literal ⟨c, false⟩

theorem escape?_of_isMeta (h : isMeta c = true) :
    escape? false (c :: cs) = some (.literal ⟨c, false⟩, cs) := by
  have hmem : c ∈ ['\\', '.', '+', '*', '?', '(', ')', '|', '[', ']', '\x7b', '\x7d', '^', '$',
      '#', '&', '-', '~'] := List.contains_iff_mem.1 h
  simp only [List.mem_cons, List.not_mem_nil, or_false] at hmem
  rcases hmem with rfl | rfl | rfl | rfl | rfl | rfl | rfl | rfl | rfl | rfl | rfl | rfl | rfl |
    rfl | rfl | rfl | rfl | rfl <;> rfl

theorem loop?_literal (hs : s.extended = false) (h : isMeta c = false) :
    loop? s (fuel + 1) (c :: cs) = loop? (s.push (.literal ⟨c, false⟩)) fuel cs := by
  simp only [isMeta, List.contains_eq_mem, List.mem_cons, List.not_mem_nil, or_false,
    decide_eq_false_iff_not, not_or] at h
  simp [loop?, hs, skip, h]

theorem loop?_escape (hs : s.extended = false) (h : isMeta c = true) :
    loop? s (fuel + 1) ('\\' :: c :: cs) = loop? (s.push (.literal ⟨c, false⟩)) fuel cs := by
  simp [loop?, hs, skip, escape?_of_isMeta h]

theorem loop?_dot (hs : s.extended = false) :
    loop? s (fuel + 1) ('.' :: cs) = loop? (s.push .dot) fuel cs := by
  simp [loop?, hs, skip]

/-- A repetition is not marked unless a question mark follows. -/
theorem loop?_any (hs : s.extended = false) (h : cs.head? ≠ some '?') :
    loop? s (fuel + 2) ('.' :: '*' :: cs) =
      loop? (s.push (.repetition 0 none false .dot)) fuel cs := by
  have hmark : mark cs = (false, cs) := by
    unfold mark
    split
    · simp at h
    · rfl
  rw [loop?_dot hs]
  simp [loop?, State.push, State.repeat?, hs, skip, hmark]

/-- What a character of a likeness becomes in a search is read as one part. An escape leaves fuel. -/
theorem loop?_likePiece (c : Char) (fuel : Nat) (hs : s.extended = false)
    (h : cs.head? ≠ some '?') : ∃ more,
    loop? s (fuel + (likePiece c).length) (likePiece c ++ cs) =
      loop? (s.push (likePart c)) (fuel + more) cs := by
  unfold likePiece likePart
  by_cases hany : c = '%'
  · simp only [if_pos hany]
    exact ⟨0, loop?_any hs h⟩
  by_cases hone : c = '_'
  · simp only [if_neg hany, if_pos hone]
    exact ⟨0, loop?_dot hs⟩
  simp only [if_neg hany, if_neg hone]
  cases hmeta : isMeta c with
  | true => exact ⟨1, loop?_escape hs hmeta⟩
  | false => exact ⟨0, loop?_literal hs hmeta⟩

/-- No part of a search that stands for a likeness is followed by a question mark. -/
theorem head?_likeText (p : List Char) : (p.flatMap likePiece ++ ['$']).head? ≠ some '?' := by
  cases p with
  | nil => simp
  | cons c p =>
    have hmeta : isMeta '?' = true := by decide
    rw [List.flatMap_cons, likePiece]
    split_ifs with hany hone hc
    · simp
    · simp
    · simp
    · rintro h
      obtain rfl : c = '?' := by simpa using h
      exact hc hmeta

theorem loop?_likeText (p : List Char) (fuel : Nat) (hs : s.extended = false)
    (hstack : s.stack = []) :
    loop? s (fuel + (p.flatMap likePiece).length + 2) (p.flatMap likePiece ++ ['$']) =
      some (PatternExpr.ofParts (s.parts.reverse ++ (p.map likePart ++ [.assertion .endLine]))) := by
  induction p generalizing s fuel with
  | nil => simp [loop?, skip, hs, State.push, State.finish, State.sequence, hstack]
  | cons c p ih =>
    obtain ⟨more, hmore⟩ := loop?_likePiece c (fuel + (p.flatMap likePiece).length + 2) hs
      (head?_likeText p)
    have hpush : loop? (s.push (likePart c)) _ _ = _ := ih (fuel + more) hs hstack
    rw [List.flatMap_cons, List.append_assoc, List.length_append]
    have hfuel : fuel + ((likePiece c).length + (p.flatMap likePiece).length) + 2 =
        fuel + (p.flatMap likePiece).length + 2 + (likePiece c).length := by omega
    have hfuel' : fuel + (p.flatMap likePiece).length + 2 + more =
        fuel + more + (p.flatMap likePiece).length + 2 := by omega
    rw [hfuel, hmore, hfuel', hpush]
    simp [State.push]

/-- The written pattern that a likeness is read as. -/
def likeExpr (p : List Char) : PatternExpr :=
  .concat (.assertion .startLine :: .flags [(.dotAll, true)] ::
    (p.map likePart ++ [.assertion .endLine]))

theorem nesting_likePart (c : Char) : (likePart c).nesting ≤ 1 := by
  unfold likePart
  split_ifs <;> simp [PatternExpr.nesting]

theorem nesting_likeExpr (p : List Char) : (likeExpr p).nesting ≤ 2 := by
  have hparts : PatternExpr.nestingAll (p.map likePart ++ [.assertion .endLine]) ≤ 1 := by
    induction p with
    | nil => simp [PatternExpr.nestingAll, PatternExpr.nesting]
    | cons c p ih =>
      have hc := nesting_likePart c
      simp only [List.map_cons, List.cons_append, PatternExpr.nestingAll]
      omega
  simp only [likeExpr, PatternExpr.nesting, PatternExpr.nestingAll]
  omega

theorem loop?_opening (fuel : Nat) (cs : List Char) :
    loop? {} (fuel + 2) ('^' :: '(' :: '?' :: 's' :: ')' :: cs) =
      loop? { parts := [.flags [(.dotAll, true)], .assertion .startLine] } fuel cs := by
  simp [loop?, skip, opening?, flags?, flag?, State.push, State.openGroup?, flagState?]

theorem toList_likeSearch (p : String) : (likeSearch p).toList =
    '^' :: '(' :: '?' :: 's' :: ')' :: (p.toList.flatMap likePiece ++ ['$']) := by
  have hopening : "^(?s)".toList = ['^', '(', '?', 's', ')'] := by decide
  unfold likeSearch
  rw [String.toList_ofList, List.append_assoc, hopening]
  simp only [List.cons_append, List.nil_append]

/-- **Whatever the characters of a likeness are, the search can be read**, each character for itself.
-/
theorem read?_likeSearch (p : String) :
    PatternExpr.read? (likeSearch p).toList = some (likeExpr p.toList) := by
  have hloop : loop? {} ((likeSearch p).toList.length + 1) (likeSearch p).toList =
      some (likeExpr p.toList) := by
    have hfuel : (likeSearch p).toList.length + 1 =
        3 + (p.toList.flatMap likePiece).length + 2 + 2 := by
      rw [toList_likeSearch]
      simp only [List.length_cons, List.length_append, List.length_nil]
      omega
    rw [hfuel, toList_likeSearch, loop?_opening, loop?_likeText p.toList 3 rfl rfl]
    cases p.toList <;> rfl
  have hnesting : (likeExpr p.toList).nesting ≤ PatternExpr.nestingLimit :=
    Nat.le_trans (nesting_likeExpr p.toList) (by decide)
  unfold PatternExpr.read?
  rw [hloop]
  exact if_pos hnesting

end PatternReader

/-! ### Sets of characters -/

namespace CodeSet

theorem mem_all (c : Char) : all.mem c = true := by
  have hvalid : c.toNat.isValidChar := c.valid
  simp only [Nat.isValidChar] at hvalid
  simp only [mem, contains, all, lastCode, List.any_cons, List.any_nil, Nat.zero_le, decide_true,
    Bool.true_and, Bool.or_false, decide_eq_true_eq]
  omega

theorem mem_singleton {c d : Char} : (singleton c).mem d = true ↔ d = c := by
  simp only [mem, contains, singleton, range, List.any_cons, List.any_nil, Bool.or_false,
    Bool.and_eq_true, decide_eq_true_eq, ← Char.toNat_inj]
  omega

end CodeSet

/-! ### What the search means -/

namespace Pattern

open TextFilter

/-- What a character of a likeness means. -/
def likePart (c : Char) : Pattern :=
  if c = '%' then .repeat 0 none false (.chars .all)
  else if c = '_' then .chars .all
  else .chars (.singleton c)

/-- The pattern that a likeness means. -/
def likeness (p : List Char) : Pattern :=
  .seq (.look .start :: .empty :: (p.map likePart ++ [.look .finish]))

theorem pattern?_likePart (c : Char) :
    (PatternReader.likePart c).pattern? { dotAll := true } =
      some (likePart c, { dotAll := true }) := by
  unfold PatternReader.likePart likePart
  split_ifs <;> rfl

theorem patterns?_likeText (p : List Char) :
    PatternExpr.patterns? { dotAll := true }
        (p.map PatternReader.likePart ++ [.assertion .endLine]) =
      some (p.map likePart ++ [.look .finish], { dotAll := true }) := by
  induction p with
  | nil => rfl
  | cons c p ih =>
    simp only [List.map_cons, List.cons_append, PatternExpr.patterns?, pattern?_likePart, ih,
      Option.bind_eq_bind, Option.bind_some]
    rfl

/-- **Every likeness has a meaning.** -/
theorem ofText?_likeSearch (p : String) :
    ofText? (likeSearch p).toList = some (likeness p.toList) := by
  have hparts : PatternExpr.pattern? {} (PatternReader.likeExpr p.toList) =
      some (likeness p.toList, { dotAll := true }) := by
    have hflags : PatternFlags.change {} [(.dotAll, true)] = { dotAll := true } := rfl
    simp only [PatternReader.likeExpr, PatternExpr.pattern?, PatternExpr.patterns?, hflags,
      patterns?_likeText, Option.bind_eq_bind, Option.bind_some]
    rfl
  unfold ofText?
  rw [PatternReader.read?_likeSearch, Option.bind_eq_bind, Option.bind_some, hparts]
  rfl

/-! ### What the search finds -/

variable {text : List Char} {i j : Nat}

theorem spans_chars_all : Spans text (.chars .all) i j ↔ i < text.length ∧ j = i + 1 := by
  simp only [Spans, CodeSet.mem_all, and_true, List.getElem?_eq_some_iff]
  simp

/-- A number of characters lead past as many places. -/
theorem turns_chars_all {n : Nat} (hi : i ≤ text.length) :
    Turns (Spans text (.chars .all)) n i j ↔ j = i + n ∧ j ≤ text.length := by
  induction n generalizing i with
  | zero =>
    simp only [Turns]
    omega
  | succ n ih =>
    simp only [Turns, spans_chars_all]
    constructor
    · rintro ⟨k, ⟨hlt, rfl⟩, hj⟩
      have := (ih hlt).1 hj
      omega
    · rintro ⟨rfl, hle⟩
      have hlt : i < text.length := by omega
      exact ⟨i + 1, ⟨hlt, rfl⟩, (ih hlt).2 ⟨by omega, hle⟩⟩

/-- Any number of characters lead to any place that is not earlier. -/
theorem spans_any (hi : i ≤ text.length) :
    Spans text (.repeat 0 none false (.chars .all)) i j ↔ i ≤ j ∧ j ≤ text.length := by
  rw [spans_repeat]
  simp only [turns_chars_all hi, reduceCtorEq, false_implies, implies_true, true_and]
  constructor
  · rintro ⟨n, rfl, hle⟩
    exact ⟨by omega, hle⟩
  · rintro ⟨hij, hle⟩
    exact ⟨j - i, by omega, hle⟩

/-- What stands for one character leads past it. -/
theorem spans_one {c : Char} (hc : c ≠ '%') : Spans text (likePart c) i j ↔
    (∃ d, text[i]? = some d ∧ (c = '_' ∨ d = c)) ∧ j = i + 1 := by
  unfold likePart
  rw [if_neg hc]
  by_cases hone : c = '_'
  · simp [hone, Spans, CodeSet.mem_all]
  · simp [hone, Spans, CodeSet.mem_singleton]

/-- At the end of the text, and only there, nothing more follows. -/
theorem spans_finish : Spans text (.look .finish) i j ↔ i = text.length ∧ j = i := by
  simp only [Spans, Look.holds, Option.isNone_iff_eq_none, List.getElem?_eq_none_iff]
  omega

theorem drop_eq_cons_iff {c : Char} {rest : List Char} :
    text.drop i = c :: rest ↔ text[i]? = some c ∧ text.drop (i + 1) = rest := by
  by_cases hi : i < text.length
  · rw [List.drop_eq_getElem_cons hi, List.getElem?_eq_getElem hi, List.cons.injEq,
      Option.some.injEq]
  · have hend := Nat.le_of_not_lt hi
    simp [List.drop_of_length_le hend, List.getElem?_eq_none hend]

/-- The parts of a likeness lead from a place to the end of a text exactly if the rest of the text
is like it. -/
theorem spansSeq_likeText (p : List Char) (hi : i ≤ text.length) :
    SpansSeq text (p.map likePart ++ [.look .finish]) i j ↔
      j = text.length ∧ IsLike p (text.drop i) := by
  induction p generalizing i with
  | nil =>
    simp only [List.map_nil, List.nil_append, SpansSeq, spans_finish, IsLike.nil_iff,
      List.drop_eq_nil_iff]
    constructor
    · rintro ⟨k, ⟨hend, rfl⟩, rfl⟩
      exact ⟨hend, Nat.le_of_eq hend.symm⟩
    · rintro ⟨rfl, hle⟩
      have hend : i = text.length := Nat.le_antisymm hi hle
      exact ⟨i, ⟨hend, rfl⟩, hend⟩
  | cons c p ih =>
    simp only [List.map_cons, List.cons_append, SpansSeq]
    by_cases hany : c = '%'
    · subst hany
      have hpart : likePart '%' = .repeat 0 none false (.chars .all) := rfl
      simp only [hpart, spans_any hi, IsLike.any_iff, List.length_drop, List.drop_drop]
      constructor
      · rintro ⟨k, ⟨hik, hk⟩, hj⟩
        obtain ⟨hend, hlike⟩ := (ih hk).1 hj
        have hplace : i + (k - i) = k := by omega
        exact ⟨hend, k - i, by omega, hplace.symm ▸ hlike⟩
      · rintro ⟨hend, n, hn, hlike⟩
        have hk : i + n ≤ text.length := by omega
        exact ⟨i + n, ⟨by omega, hk⟩, (ih hk).2 ⟨hend, hlike⟩⟩
    · simp only [spans_one hany, IsLike.cons_iff hany, drop_eq_cons_iff]
      constructor
      · rintro ⟨k, ⟨⟨d, hd, hdc⟩, rfl⟩, hj⟩
        have hlt : i < text.length := (List.getElem?_eq_some_iff.1 hd).1
        obtain ⟨hend, hlike⟩ := (ih hlt).1 hj
        exact ⟨hend, d, _, ⟨hd, rfl⟩, hdc, hlike⟩
      · rintro ⟨hend, d, _, ⟨hd, rfl⟩, hdc, hlike⟩
        have hlt : i < text.length := (List.getElem?_eq_some_iff.1 hd).1
        exact ⟨i + 1, ⟨⟨d, hd, hdc⟩, rfl⟩, (ih hlt).2 ⟨hend, hlike⟩⟩

/-- **The search finds a likeness in the texts that are like it.** -/
theorem isFoundIn_likeness (p text : List Char) :
    (likeness p).isFoundIn text = true ↔ IsLike p text := by
  have hstart (i k : Nat) : Spans text (.look .start) i k ↔ i = 0 ∧ k = 0 := by
    simp only [Spans, Look.holds, Option.isNone_iff_eq_none]
    cases i with
    | zero => simp [charBefore, eq_comm]
    | succ i =>
      simp only [charBefore, List.getElem?_eq_none_iff]
      omega
  have hseq (i j : Nat) : Spans text (likeness p) i j ↔ i = 0 ∧ j = text.length ∧ IsLike p text := by
    have hrest : SpansSeq text _ 0 j ↔ _ := spansSeq_likeText p (Nat.zero_le text.length)
    rw [List.drop_zero] at hrest
    rw [← hrest]
    show (∃ k, Spans text (.look .start) i k ∧ ∃ l, k = l ∧ SpansSeq text _ l j) ↔ _
    simp only [hstart]
    constructor
    · rintro ⟨_, ⟨rfl, rfl⟩, _, rfl, h⟩
      exact ⟨rfl, h⟩
    · rintro ⟨rfl, h⟩
      exact ⟨0, ⟨rfl, rfl⟩, 0, rfl, h⟩
  rw [isFoundIn_iff]
  simp only [hseq]
  constructor
  · rintro ⟨_, _, -, -, -, h⟩
    exact h
  · intro h
    exact ⟨0, text.length, Nat.zero_le _, rfl, rfl, h⟩

end Pattern

namespace TextMatcher

/-- A likeness is refused for nothing but its size. -/
theorem compile_like (p : String) (limit : Nat) : compile (.like p) limit =
    if (Pattern.likeness p.toList).fits limit then .ok ⟨.like p, Pattern.likeness p.toList⟩
    else .error (.malformedStep (.invalidPattern (TextFilter.likeSearch p) (.tooLarge limit))) := by
  unfold compile Pattern.compile TextFilter.searchText
  rw [Pattern.ofText?_likeSearch]
  by_cases hfits : (Pattern.likeness p.toList).fits limit = true
  · simp only [if_pos hfits]
  · simp only [if_neg hfits]

/-- The texts that likenesses look at are those of IRIs, plain texts and texts in a language. -/
theorem subject?_like_eq_some {p t : String} {v : Value} :
    (TextFilter.like p).subject? v = some t ↔
      v = .iri t ∨ v = .string t ∨ ∃ language, v = .lang t language := by
  cases v <;> simp [TextFilter.subject?, Value.text?]

/-- **A likeness keeps the values whose texts are like it.** Whatever limit it was accepted under, it
keeps an IRI, a plain text or a text in a language if the whole of its text is like the pattern, and
nothing else. -/
theorem keeps_like_iff {p : String} {limit : Nat} {m : TextMatcher}
    (h : compile (.like p) limit = .ok m) (v : Value) :
    m.keeps v = true ↔
      ∃ t, (v = .iri t ∨ v = .string t ∨ ∃ language, v = .lang t language) ∧
        IsLike p.toList t.toList := by
  rw [compile_like] at h
  split at h
  · cases h
    simp only [← subject?_like_eq_some (p := p)]
    unfold keeps
    cases (TextFilter.like p).subject? v with
    | none => simp
    | some t => simp [Pattern.isFoundIn_likeness]
  · cases h

/-- A text begins with the letter and has another character after it, whatever stands between. A
line end may, and nothing may be missing. -/
theorem keeps_like_iff_wildcards : ∃ limit m, compile (.like "a%_") limit = .ok m ∧
    m.keeps (.iri "a\nb") = true ∧ m.keeps (.string "a") = false := by
  obtain ⟨limit, hfits⟩ := Pattern.exists_size (Pattern.likeness "a%_".toList)
  have hm := compile_like "a%_" limit
  rw [if_pos ((hfits limit).2 (Nat.le_refl limit))] at hm
  have hpattern : "a%_".toList = ['a', '%', '_'] := by decide
  have hlike : IsLike "a%_".toList "a\nb".toList := by
    rw [hpattern]
    exact .same (by decide) (.any ['\n'] (.one 'b' .nil))
  have hlong (t : List Char) (h : IsLike "a%_".toList t) : 2 ≤ t.length := by
    rw [hpattern] at h
    obtain ⟨c, u, rfl, -, hany⟩ := (IsLike.cons_iff (by decide)).1 h
    obtain ⟨n, -, hone⟩ := IsLike.any_iff.1 hany
    obtain ⟨d, w, hdrop, -⟩ := (IsLike.cons_iff (by decide)).1 hone
    have hlength := congrArg List.length hdrop
    simp only [List.length_drop, List.length_cons] at hlength ⊢
    omega
  refine ⟨limit, _, hm, (keeps_like_iff hm _).2 ⟨_, .inl rfl, hlike⟩, ?_⟩
  rw [Bool.eq_false_iff, ne_eq, keeps_like_iff hm]
  rintro ⟨t, ht, h⟩
  obtain rfl : t = "a" := by simpa [eq_comm] using ht
  exact absurd (hlong _ h) (by decide)

end TextMatcher

end QuadWalk
