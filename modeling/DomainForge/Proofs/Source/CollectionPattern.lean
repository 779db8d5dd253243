import DomainForge.Proofs.Source.Collections

/-!
# The pattern of a collection type

A collection type is what the pattern `\b(?:Set|List)\s*<\s*([^>]*?)\s*>` matches. The pattern is
read here as a search that backs up: each part lists the ways to read a text, in the order in which
they are tried, and the first way that reaches the end of the pattern is taken (`attempts`). The
match stands at the leftmost place where there is such a way (`IsMatch`).

The search of a line never backs up. Blanks are read as far as they go, the element ends at the
first closing bracket, and the blanks in front of that bracket are left out (`head?_attempts`). It
finds the match of the pattern all the same (`findCollection?_eq_some_iff`), and so what a line
declares is said by the pattern too (`collapses_some_iff`, `collapses_none_iff`).
-/

namespace DomainForge.Source

open Text

namespace CollectionPattern

/-! ## The ways to read a text -/

/-- The ways to read a run of characters of a class, the longest first: the run and what is left. -/
def greedy (p : Char → Bool) : List Char → List (List Char × List Char)
  | [] => [([], [])]
  | c :: rest =>
    (if p c then (greedy p rest).map fun run => (c :: run.1, run.2) else []) ++ [([], c :: rest)]

/-- The ways to read a run of characters of a class, the shortest first. -/
def reluctant (p : Char → Bool) : List Char → List (List Char × List Char)
  | [] => [([], [])]
  | c :: rest =>
    ([], c :: rest) :: if p c then (reluctant p rest).map fun run => (c :: run.1, run.2) else []

/-- The way to read a word, if it stands there: what is left behind it. -/
def literal (word : List Char) (s : List Char) : List (List Char) :=
  if word.isPrefixOf s then [s.drop word.length] else []

/-- The ways to read `\s*([^>]*?)\s*>`: what the group holds, and what is left. -/
def elements (s : List Char) : List (List Char × List Char) :=
  (greedy isBlank s).flatMap fun gap =>
    (reluctant (· != '>') gap.2).flatMap fun group =>
      (greedy isBlank group.2).flatMap fun gap =>
        (literal ['>'] gap.2).map fun left => (group.1, left)

/-- The ways to read `\s*<` and an element. -/
def brackets (s : List Char) : List (List Char × List Char) :=
  (greedy isBlank s).flatMap fun gap => (literal ['<'] gap.2).flatMap elements

/-- The ways to read `(?:Set|List)\s*<\s*([^>]*?)\s*>`, in the order in which they are tried. -/
def attempts (s : List Char) : List (List Char × List Char) :=
  (literal "Set".toList s ++ literal "List".toList s).flatMap brackets

/-- Whether `\b` holds between a character and a text: exactly one of the two belongs to a word. -/
def atBoundary (previous : Option Char) (s : List Char) : Bool :=
  previous.any isWordChar != s.head?.any isWordChar

/-- The match of `\b(?:Set|List)\s*<\s*([^>]*?)\s*>` in a text. It is the leftmost one, and there
the one that is tried first. -/
structure IsMatch (s before element after : List Char) : Prop where
  here : ∃ rest, s = before ++ rest ∧ atBoundary before.getLast? rest = true ∧
    (attempts rest).head? = some (element, after)
  leftmost : ∀ earlier rest, s = earlier ++ rest → earlier.length < before.length →
    atBoundary earlier.getLast? rest = true → attempts rest = []

/-! ## What is read first -/

theorem ne_of_isBlank {c d : Char} (hc : isBlank c = true) (hd : isBlank d = false) : d ≠ c := by
  rintro rfl
  rw [hc] at hd
  cases hd

/-- Blanks are read as far as they go, if what follows cannot start with one. -/
theorem findSome?_greedy {α : Type} {p : Char → Bool} {f : List Char → Option α}
    (hf : ∀ c rest, p c = true → f rest = none → f (c :: rest) = none) (s : List Char) :
    (greedy p s).findSome? (fun run => f run.2) = f (s.dropWhile p) := by
  -- if the longest run fails, so does every shorter one
  have hnone : ∀ s, f (s.dropWhile p) = none → f s = none := by
    intro s
    induction s with
    | nil => exact id
    | cons c rest ih =>
      by_cases hc : p c = true
      · rw [List.dropWhile_cons_of_pos hc]
        exact fun h => hf c rest hc (ih h)
      · rw [List.dropWhile_cons_of_neg hc]
        exact id
  induction s with
  | nil => simp [greedy]
  | cons c rest ih =>
    by_cases hc : p c = true
    · rw [greedy, if_pos hc, List.findSome?_append, List.findSome?_map,
        List.dropWhile_cons_of_pos hc]
      have hcomp : ((fun run : List Char × List Char => f run.2) ∘
          fun run : List Char × List Char => (c :: run.1, run.2)) = fun run => f run.2 := rfl
      rw [hcomp, ih]
      cases hlongest : f (rest.dropWhile p) with
      | none => simp [hf c rest hc (hnone rest hlongest)]
      | some found => rfl
    · rw [greedy, if_neg hc, List.dropWhile_cons_of_neg hc]
      simp

theorem breakOn_bracket_cons {c : Char} (hc : c ≠ '>') (rest : List Char) :
    breakOn ['>'] (c :: rest) =
      (breakOn ['>'] rest).map fun found => (c :: found.1, found.2) := by
  refine breakOn_cons_neg ?_
  rintro ⟨tail, htail⟩
  exact hc (List.cons.inj htail).1.symm

theorem breakOn_bracket_eq_none_iff {s : List Char} : breakOn ['>'] s = none ↔ '>' ∉ s := by
  rw [breakOn_eq_none_iff, List.singleton_infix_iff]

/-- What closes an element: blanks, and a bracket. -/
def closing? (s : List Char) : Option (List Char) :=
  (literal ['>'] (trimStart s)).head?

theorem literal_singleton_cons (c d : Char) (rest : List Char) :
    literal [c] (d :: rest) = if c = d then [rest] else [] := by
  simp [literal, List.isPrefixOf]

/-- Blanks and a bracket are read without backing up. -/
theorem head?_closings (group : List Char × List Char) :
    ((greedy isBlank group.2).flatMap fun gap =>
        (literal ['>'] gap.2).map fun left => (group.1, left)).head? =
      (closing? group.2).map fun left => (group.1, left) := by
  rw [List.head?_flatMap]
  refine (findSome?_greedy (f := fun s => ((literal ['>'] s).map fun left =>
    (group.1, left)).head?) ?_ group.2).trans List.head?_map
  intro c rest hc _
  simp [literal_singleton_cons, ne_of_isBlank hc (d := '>') (by decide)]

/-- An element ends where only blanks are left before the first bracket. -/
theorem closing?_append {inside : List Char} (h : '>' ∉ inside) (after : List Char) :
    closing? (inside ++ '>' :: after) = if inside.all isBlank then some after else none := by
  have hbracket : isBlank '>' = false := by decide
  unfold closing? trimStart
  induction inside with
  | nil =>
    rw [List.nil_append, List.dropWhile_cons_of_neg (by simp [hbracket]), literal_singleton_cons]
    rfl
  | cons c rest ih =>
    have hne : '>' ≠ c := List.ne_of_not_mem_cons h
    rw [List.cons_append, List.all_cons]
    cases hc : isBlank c with
    | true =>
      rw [List.dropWhile_cons_of_pos hc, ih (List.not_mem_of_not_mem_cons h), Bool.true_and]
    | false =>
      rw [List.dropWhile_cons_of_neg (by simp [hc]), literal_singleton_cons, if_neg hne]
      simp

theorem closing?_eq_none {s : List Char} (h : '>' ∉ s) : closing? s = none := by
  unfold closing? trimStart
  cases hrest : s.dropWhile isBlank with
  | nil => rfl
  | cons c rest =>
    have hne : '>' ≠ c := by
      rintro rfl
      exact h ((List.dropWhile_sublist isBlank).subset (hrest ▸ List.mem_cons_self))
    rw [literal_singleton_cons, if_neg hne]
    rfl

theorem trimEnd_cons (c : Char) (s : List Char) :
    trimEnd (c :: s) = if (c :: s).all isBlank then [] else c :: trimEnd s := by
  unfold trimEnd
  split
  · rename_i hall
    rw [dropTail_eq_rdropWhile, List.rdropWhile_eq_nil_iff]
    exact List.all_eq_true.1 hall
  · rename_i hsome
    obtain ⟨d, hd, hblank⟩ := List.all_eq_false.1 (Bool.eq_false_of_not_eq_true hsome)
    rw [Bool.not_eq_true] at hblank
    rcases List.mem_cons.1 hd with rfl | hd
    · exact dropTail_append_cons (s := []) hblank
    · obtain ⟨front, back, rfl⟩ := List.append_of_mem hd
      rw [← List.cons_append, dropTail_append_cons hblank, dropTail_append_cons hblank]
      rfl

/-- The group takes up to the blanks in front of the first bracket. -/
theorem findSome?_reluctant (s : List Char) :
    ((reluctant (· != '>') s).findSome? fun group =>
        (closing? group.2).map fun left => (group.1, left)) =
      (breakOn ['>'] s).map fun found => (trimEnd found.1, found.2) := by
  induction s with
  | nil => simp [reluctant, breakOn, closing?, trimStart, literal]
  | cons c rest ih =>
    by_cases hc : c = '>'
    · subst hc
      have hhere : closing? ('>' :: rest) = some rest :=
        closing?_append (List.not_mem_nil : '>' ∉ []) rest
      rw [breakOn_cons_pos ⟨rest, rfl⟩]
      simp [reluctant, hhere, trimEnd, dropTail]
    · have hlater : (((reluctant (· != '>') rest).map fun group =>
          (c :: group.1, group.2)).findSome? fun group =>
            (closing? group.2).map fun left => (group.1, left)) =
          (breakOn ['>'] rest).map fun found => (c :: trimEnd found.1, found.2) := by
        have hgroups := congrArg (Option.map fun found : List Char × List Char =>
          (c :: found.1, found.2)) ih
        rw [List.map_findSome?, Option.map_map] at hgroups
        rw [List.findSome?_map]
        refine Eq.trans (congrArg₂ _ ?_ rfl) hgroups
        funext group
        cases hclosing : closing? group.2 <;> simp [hclosing]
      rw [reluctant, if_pos (bne_iff_ne.2 hc), List.findSome?_cons, hlater, breakOn_bracket_cons hc]
      cases hbreak : breakOn ['>'] rest with
      | none =>
        rw [closing?_eq_none (List.not_mem_cons_of_ne_of_not_mem (Ne.symm hc)
          (breakOn_bracket_eq_none_iff.1 hbreak))]
        rfl
      | some found =>
        obtain ⟨rfl, hinside⟩ := breakOn_bracket_iff.1 hbreak
        have hclosing := closing?_append (List.not_mem_cons_of_ne_of_not_mem (Ne.symm hc) hinside)
          found.2
        rw [List.cons_append] at hclosing
        rw [hclosing, Option.map_some, Option.map_some, Option.map_some, trimEnd_cons]
        cases (c :: found.1).all isBlank <;> rfl

/-- Blanks before an element can be dropped before or after it is cut. -/
theorem map_breakOn_trimStart (s : List Char) :
    ((breakOn ['>'] (trimStart s)).map fun found => (trimEnd found.1, found.2)) =
      (breakOn ['>'] s).map fun found => (trim found.1, found.2) := by
  unfold trimStart
  induction s with
  | nil => rfl
  | cons c rest ih =>
    by_cases hc : isBlank c = true
    · have hne : c ≠ '>' := (ne_of_isBlank hc (by decide)).symm
      rw [List.dropWhile_cons_of_pos hc, ih, breakOn_bracket_cons hne, Option.map_map]
      congr 1
      funext found
      rw [Function.comp_apply, trim, trim, trimStart, trimStart, List.dropWhile_cons_of_pos hc]
    · rw [List.dropWhile_cons_of_neg hc]
      refine Option.map_congr fun found hfound => ?_
      obtain ⟨hs, -⟩ := breakOn_bracket_iff.1 hfound
      have hhead : ∀ d ∈ found.1.head?, isBlank d = false := by
        intro d hd
        obtain ⟨tail, htail⟩ := List.head?_eq_some_iff.1 hd
        rw [htail] at hs
        rw [← (List.cons.inj hs).1]
        exact Bool.eq_false_of_not_eq_true hc
      rw [trim, trimStart, dropWhile_eq_self hhead]

/-- An element reaches to the first bracket and has no blanks around it. -/
theorem head?_elements (s : List Char) :
    (elements s).head? = (breakOn ['>'] s).map fun found => (trim found.1, found.2) := by
  have hgroups (s : List Char) :
      ((reluctant (· != '>') s).flatMap fun group => (greedy isBlank group.2).flatMap fun gap =>
        (literal ['>'] gap.2).map fun left => (group.1, left)).head? =
      (breakOn ['>'] s).map fun found => (trimEnd found.1, found.2) := by
    rw [List.head?_flatMap]
    simp only [head?_closings]
    exact findSome?_reluctant s
  rw [elements, List.head?_flatMap]
  simp only [hgroups]
  rw [← map_breakOn_trimStart]
  refine findSome?_greedy (f := fun s => (breakOn ['>'] s).map fun found =>
    (trimEnd found.1, found.2)) (fun c rest hc hrest => ?_) s
  have hne : c ≠ '>' := (ne_of_isBlank hc (by decide)).symm
  rw [breakOn_bracket_cons hne, Option.map_eq_none_iff.1 hrest]
  rfl

theorem head?_brackets (s : List Char) : (brackets s).head? = bracketed? s := by
  rw [brackets, List.head?_flatMap,
    findSome?_greedy (f := fun s => ((literal ['<'] s).flatMap elements).head?)]
  · unfold bracketed? trimStart
    split
    · rename_i inside hopened
      rw [hopened, literal_singleton_cons, if_pos rfl, List.flatMap_singleton, head?_elements]
    · rename_i hopened
      have hnone : literal ['<'] (s.dropWhile isBlank) = [] := by
        cases hrest : s.dropWhile isBlank with
        | nil => rfl
        | cons c rest =>
          rw [literal_singleton_cons, if_neg]
          rintro rfl
          exact hopened rest hrest
      rw [hnone]
      rfl
  · intro c rest hc _
    simp [literal_singleton_cons, ne_of_isBlank hc (d := '<') (by decide)]

/-- What stands at the start of a text is read as the pattern reads it. -/
theorem head?_attempts (s : List Char) : (attempts s).head? = collectionAt? s := by
  unfold attempts collectionAt? literal
  by_cases hset : "Set".toList.isPrefixOf s = true
  · obtain ⟨rest, rfl⟩ := List.isPrefixOf_iff_prefix.1 hset
    -- no text starts with both words, so the second one is not tried
    have hlist : ¬ "List".toList.isPrefixOf ("Set".toList ++ rest) = true := Bool.false_ne_true
    rw [if_pos hset, if_neg hlist, List.append_nil, List.flatMap_singleton, head?_brackets,
      if_pos hset]
    rfl
  · rw [if_neg hset, if_neg hset, List.nil_append]
    by_cases hlist : "List".toList.isPrefixOf s = true
    · rw [if_pos hlist, if_pos hlist, List.flatMap_singleton, head?_brackets]
      rfl
    · rw [if_neg hlist, if_neg hlist]
      rfl

/-! ## The match -/

/-- There is a way to read a text exactly if it starts with a collection type. -/
theorem attempts_eq_nil_iff {s : List Char} :
    attempts s = [] ↔ ∀ inside after, ¬ StartsWithCollection s inside after := by
  rw [← List.head?_eq_none_iff, head?_attempts, Option.eq_none_iff_forall_ne_some]
  constructor
  · intro h inside after hstarts
    exact h _ (collectionAt?_eq_some_iff.2 ⟨inside, hstarts, rfl⟩)
  · rintro h ⟨element, after⟩ hfound
    obtain ⟨inside, hstarts, -⟩ := collectionAt?_eq_some_iff.1 hfound
    exact h inside after hstarts

/-- A collection type starts with a letter, so `\b` asks only about the character before it. -/
theorem atBoundary_iff {s inside after : List Char} (h : StartsWithCollection s inside after)
    (previous : Option Char) :
    atBoundary previous s = true ↔ ∀ c ∈ previous, isWordChar c = false := by
  have hword : s.head?.any isWordChar = true := by
    rcases h.head? with hhead | hhead
    · rw [hhead]
      decide
    · rw [hhead]
      decide
  rw [atBoundary, hword]
  cases previous <;> simp

/-- The match is the leftmost collection type, with the blanks around its element left out. -/
theorem isMatch_iff {s before element after : List Char} :
    IsMatch s before element after ↔
      ∃ inside, IsFirstCollection none s before inside after ∧ element = trim inside := by
  constructor
  · rintro ⟨⟨rest, rfl, hboundary, hread⟩, hleftmost⟩
    rw [head?_attempts] at hread
    obtain ⟨inside, hstarts, helement⟩ := collectionAt?_eq_some_iff.1 hread
    refine ⟨inside, ⟨⟨⟨rest, rfl, hstarts⟩, (atBoundary_iff hstarts _).1 hboundary⟩, ?_⟩, helement⟩
    rintro earlier others left ⟨⟨tail, hs, hothers⟩, hword⟩
    by_contra hlength
    have hnothing := hleftmost earlier tail hs (Nat.lt_of_not_le hlength)
      ((atBoundary_iff hothers _).2 hword)
    exact attempts_eq_nil_iff.1 hnothing others left hothers
  · rintro ⟨inside, ⟨⟨⟨rest, rfl, hstarts⟩, hword⟩, hfirst⟩, helement⟩
    refine ⟨⟨rest, rfl, (atBoundary_iff hstarts _).2 hword, ?_⟩, ?_⟩
    · rw [head?_attempts]
      exact collectionAt?_eq_some_iff.2 ⟨inside, hstarts, helement⟩
    · intro earlier tail hs hlength hboundary
      refine attempts_eq_nil_iff.2 fun others left hothers => ?_
      have hearlier : HasCollection none (before ++ rest) earlier others left :=
        ⟨⟨tail, hs, hothers⟩, (atBoundary_iff hothers _).1 hboundary⟩
      exact absurd (hfirst earlier others left hearlier) (Nat.not_le_of_lt hlength)

end CollectionPattern

/-- **The search finds what the pattern of a collection type matches**, and nothing else. -/
theorem findCollection?_eq_some_iff {s before element after : List Char} :
    findCollection? none s = some (before, element, after) ↔
      CollectionPattern.IsMatch s before element after := by
  rw [CollectionPattern.isMatch_iff]
  constructor
  · intro h
    by_cases hsome : ∃ before inside after, HasCollection none s before inside after
    · obtain ⟨start, inside, left, hfirst⟩ := exists_isFirstCollection hsome
      rw [findCollection?_eq_some hfirst] at h
      cases h
      exact ⟨inside, hfirst, rfl⟩
    · have hnone := findCollection?_eq_none_of_forall fun before inside after hfound =>
        hsome ⟨before, inside, after, hfound⟩
      rw [hnone] at h
      cases h
  · rintro ⟨inside, hfirst, rfl⟩
    exact findCollection?_eq_some hfirst

/-- So a declaration declares a collection exactly if the pattern matches it, and then the element
is what the group holds. -/
theorem collapses_some_iff {s element collapsed : List Char} :
    Collapses s (some element) collapsed ↔
      ∃ before after, CollectionPattern.IsMatch s before element after ∧
        collapsed = before ++ "Collection".toList ++ after := by
  simp only [CollectionPattern.isMatch_iff]
  constructor
  · intro h
    cases h with
    | collection hfirst => exact ⟨_, _, ⟨_, hfirst, rfl⟩, rfl⟩
  · rintro ⟨before, after, ⟨inside, hfirst, rfl⟩, rfl⟩
    exact .collection hfirst

theorem collapses_none_iff {s collapsed : List Char} :
    Collapses s none collapsed ↔
      collapsed = s ∧ ∀ before element after,
        ¬ CollectionPattern.IsMatch s before element after := by
  simp only [CollectionPattern.isMatch_iff]
  constructor
  · intro h
    cases h with
    | plain hnone =>
      refine ⟨rfl, ?_⟩
      rintro before _ after ⟨inside, hfirst, -⟩
      exact hnone before inside after hfirst.found
  · rintro ⟨rfl, hnone⟩
    refine .plain fun before inside after hfound => ?_
    obtain ⟨start, first, rest, hfirst⟩ := exists_isFirstCollection ⟨before, inside, after, hfound⟩
    exact hnone start _ rest ⟨first, hfirst, rfl⟩

end DomainForge.Source
