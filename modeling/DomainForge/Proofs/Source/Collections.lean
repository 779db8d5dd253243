import DomainForge.Source.Property
import DomainForge.Proofs.Text.Words
import Mathlib.Data.List.Infix
import Mathlib.Data.Nat.Find

/-!
# Collection types

The line of a property may hold a collection type. Where one stands is said here without a search:
the text is what stands before it, the type, and what stands after it (`HasCollection`). The search
finds the leftmost of them, or that there is none (`findCollection?_eq_some`,
`findCollection?_eq_none_of_forall`); `CollectionPattern` says the same of the pattern by which a
collection type is recognised.

What a line declares then follows from the line alone. It is cut at its comment, its marks are
removed, and its first collection type is replaced by one word (`DeclarationParts`); the words that
are left say the rest (`line_readsDeclaration`).
-/

namespace DomainForge.Source

open Text

/-! ## Where a collection type stands -/

/-- A text that starts with `Set` or `List`, blanks, and an element in angle brackets. The element
ends at the first closing bracket. -/
structure StartsWithCollection (s inside after : List Char) : Prop where
  shape : ∃ word ∈ ["Set", "List"], ∃ gap : List Char, (∀ c ∈ gap, isBlank c = true) ∧
    s = word.toList ++ (gap ++ '<' :: (inside ++ '>' :: after))
  closing : '>' ∉ inside

/-- A collection type in a text. It must not continue a word, not even that of the character which
stands before the text. -/
structure HasCollection (previous : Option Char) (s before inside after : List Char) : Prop where
  collection : ∃ rest, s = before ++ rest ∧ StartsWithCollection rest inside after
  wordStart : ∀ c ∈ (previous.toList ++ before).getLast?, isWordChar c = false

/-- The leftmost collection type of a text. -/
structure IsFirstCollection (previous : Option Char) (s before inside after : List Char) :
    Prop where
  found : HasCollection previous s before inside after
  first : ∀ earlier element rest, HasCollection previous s earlier element rest →
    before.length ≤ earlier.length

theorem StartsWithCollection.head? {s inside after : List Char}
    (h : StartsWithCollection s inside after) : s.head? = some 'S' ∨ s.head? = some 'L' := by
  obtain ⟨⟨word, hword, gap, -, rfl⟩, -⟩ := h
  simp only [List.mem_cons, List.not_mem_nil, or_false] at hword
  rcases hword with rfl | rfl
  · exact .inl rfl
  · exact .inr rfl

theorem StartsWithCollection.bracket_mem {s inside after : List Char}
    (h : StartsWithCollection s inside after) : '<' ∈ s := by
  obtain ⟨⟨word, -, gap, -, rfl⟩, -⟩ := h
  simp

namespace HasCollection

variable {previous : Option Char} {c : Char} {rest before inside after : List Char}

theorem getLast?_append_cons :
    (previous.toList ++ c :: before).getLast? = ((some c).toList ++ before).getLast? :=
  List.getLast?_append_of_ne_nil _ (List.cons_ne_nil c before)

theorem cons (h : HasCollection (some c) rest before inside after) :
    HasCollection previous (c :: rest) (c :: before) inside after := by
  obtain ⟨⟨tail, rfl, hstarts⟩, hword⟩ := h
  refine ⟨⟨tail, rfl, hstarts⟩, ?_⟩
  rw [getLast?_append_cons]
  exact hword

/-- A collection type starts a text or stands behind its first character. -/
theorem cases_cons (h : HasCollection previous (c :: rest) before inside after) :
    (before = [] ∧ StartsWithCollection (c :: rest) inside after ∧
      ∀ d ∈ previous, isWordChar d = false) ∨
    ∃ tail, before = c :: tail ∧ HasCollection (some c) rest tail inside after := by
  obtain ⟨⟨found, hs, hstarts⟩, hword⟩ := h
  cases before with
  | nil =>
    obtain rfl : c :: rest = found := hs
    refine .inl ⟨rfl, hstarts, fun d hd => hword d ?_⟩
    rw [Option.mem_def.1 hd]
    rfl
  | cons d tail =>
    rw [List.cons_append] at hs
    obtain ⟨rfl, rfl⟩ := List.cons.inj hs
    rw [getLast?_append_cons] at hword
    exact .inr ⟨tail, rfl, ⟨found, rfl, hstarts⟩, hword⟩

theorem bracket_mem {s : List Char} (h : HasCollection previous s before inside after) :
    '<' ∈ s := by
  obtain ⟨⟨tail, rfl, hstarts⟩, -⟩ := h
  exact List.mem_append_right before hstarts.bracket_mem

end HasCollection

/-- If there are collection types, one is the leftmost. -/
theorem exists_isFirstCollection {previous : Option Char} {s : List Char}
    (h : ∃ before inside after, HasCollection previous s before inside after) :
    ∃ before inside after, IsFirstCollection previous s before inside after := by
  classical
  have hlength : ∃ length before inside after,
      HasCollection previous s before inside after ∧ before.length = length := by
    obtain ⟨before, inside, after, hfound⟩ := h
    exact ⟨_, before, inside, after, hfound, rfl⟩
  obtain ⟨before, inside, after, hfound, hleast⟩ := Nat.find_spec hlength
  refine ⟨before, inside, after, hfound, fun earlier element rest hearlier => ?_⟩
  rw [hleast]
  exact Nat.find_min' hlength ⟨earlier, element, rest, hearlier, rfl⟩

/-! ## Reading a collection type -/

theorem breakOn_bracket_iff {s inside after : List Char} :
    breakOn ['>'] s = some (inside, after) ↔ s = inside ++ '>' :: after ∧ '>' ∉ inside := by
  rw [breakOn_eq_some_iff (List.cons_ne_nil _ _), List.dropLast_singleton, List.append_nil,
    List.singleton_infix_iff, List.singleton_append]

/-- Brackets hold what stands before the first one that closes. -/
theorem bracketed?_eq_some_iff {s element after : List Char} :
    bracketed? s = some (element, after) ↔
      ∃ gap inside, (∀ c ∈ gap, isBlank c = true) ∧ s = gap ++ '<' :: (inside ++ '>' :: after) ∧
        '>' ∉ inside ∧ element = trim inside := by
  constructor
  · intro h
    unfold bracketed? at h
    split at h
    · rename_i opened hopened
      obtain ⟨⟨inside, rest⟩, hbreak, heq⟩ := Option.map_eq_some_iff.1 h
      obtain ⟨rfl, rfl⟩ := Prod.mk.inj heq
      obtain ⟨rfl, hinside⟩ := breakOn_bracket_iff.1 hbreak
      refine ⟨s.takeWhile isBlank, inside, fun c hc => List.mem_takeWhile_imp hc, ?_, hinside, rfl⟩
      rw [← hopened, trimStart, List.takeWhile_append_dropWhile]
    · cases h
  · rintro ⟨gap, inside, hgap, rfl, hinside, rfl⟩
    have hopened : trimStart (gap ++ '<' :: (inside ++ '>' :: after)) =
        '<' :: (inside ++ '>' :: after) := by
      rw [trimStart, List.dropWhile_append_of_pos hgap, List.dropWhile_cons_of_neg (by decide)]
    have hbreak : breakOn ['>'] (inside ++ '>' :: after) = some (inside, after) :=
      breakOn_bracket_iff.2 ⟨rfl, hinside⟩
    simp [bracketed?, hopened, hbreak]

theorem collectionAt?_append {word : String} (hword : word ∈ ["Set", "List"]) (rest : List Char) :
    collectionAt? (word.toList ++ rest) = bracketed? rest := by
  simp only [List.mem_cons, List.not_mem_nil, or_false] at hword
  rcases hword with rfl | rfl <;> rfl

theorem exists_word_of_collectionAt? {s : List Char} {found : List Char × List Char}
    (h : collectionAt? s = some found) : ∃ word ∈ ["Set", "List"], word.toList <+: s := by
  unfold collectionAt? at h
  split at h
  · rename_i hset
    exact ⟨"Set", by simp, List.isPrefixOf_iff_prefix.1 hset⟩
  split at h
  · rename_i hlist
    exact ⟨"List", by simp, List.isPrefixOf_iff_prefix.1 hlist⟩
  · cases h

/-- What is read at the start of a text is the collection type that stands there. -/
theorem collectionAt?_eq_some_iff {s element after : List Char} :
    collectionAt? s = some (element, after) ↔
      ∃ inside, StartsWithCollection s inside after ∧ element = trim inside := by
  constructor
  · intro h
    obtain ⟨word, hword, rest, rfl⟩ := exists_word_of_collectionAt? h
    rw [collectionAt?_append hword] at h
    obtain ⟨gap, inside, hgap, rfl, hinside, helement⟩ := bracketed?_eq_some_iff.1 h
    exact ⟨inside, ⟨⟨word, hword, gap, hgap, rfl⟩, hinside⟩, helement⟩
  · rintro ⟨inside, ⟨⟨word, hword, gap, hgap, rfl⟩, hinside⟩, helement⟩
    rw [collectionAt?_append hword]
    exact bracketed?_eq_some_iff.2 ⟨gap, inside, hgap, rfl, hinside, helement⟩

/-! ## The search -/

theorem findCollection?_cons_of_starts {previous : Option Char} {c : Char}
    {rest inside after : List Char} (hprevious : ∀ d ∈ previous, isWordChar d = false)
    (h : StartsWithCollection (c :: rest) inside after) :
    findCollection? previous (c :: rest) = some ([], trim inside, after) := by
  have hany : previous.any isWordChar = false := by
    cases previous with
    | none => rfl
    | some d => exact hprevious d rfl
  have hat := collectionAt?_eq_some_iff.2 ⟨inside, h, rfl⟩
  simp [findCollection?, hany, hat]

/-- A character at which no collection type starts is passed. -/
theorem findCollection?_cons_of_not {previous : Option Char} {c : Char} {rest : List Char}
    (h : ∀ inside after, ¬ HasCollection previous (c :: rest) [] inside after) :
    findCollection? previous (c :: rest) =
      (findCollection? (some c) rest).map fun found => (c :: found.1, found.2) := by
  have hhere : (if previous.any isWordChar then none else collectionAt? (c :: rest)) = none := by
    split
    · rfl
    · rename_i hany
      refine Option.eq_none_iff_forall_not_mem.2 fun found hfound => ?_
      obtain ⟨inside, hstarts, -⟩ := collectionAt?_eq_some_iff.1 hfound
      refine h inside found.2 ⟨⟨c :: rest, rfl, hstarts⟩, fun d hd => ?_⟩
      cases previous with
      | none => cases hd
      | some e =>
        cases hd
        simpa using hany
  rw [findCollection?]
  simp only [hhere]

/-- The search finds the leftmost collection type. -/
theorem findCollection?_eq_some {previous : Option Char} {s before inside after : List Char}
    (h : IsFirstCollection previous s before inside after) :
    findCollection? previous s = some (before, trim inside, after) := by
  -- the character that is passed becomes the previous one, so it is not fixed in the induction
  induction s generalizing previous before with
  | nil => exact absurd h.found.bracket_mem List.not_mem_nil
  | cons c rest ih =>
    rcases h.found.cases_cons with ⟨rfl, hstarts, hprevious⟩ | ⟨tail, rfl, htail⟩
    · exact findCollection?_cons_of_starts hprevious hstarts
    · -- a collection type that starts here would stand before the first one
      have hlater : ∀ inside after, ¬ HasCollection previous (c :: rest) [] inside after := by
        intro element others hhere
        exact absurd (h.first [] element others hhere) (Nat.not_succ_le_zero _)
      have hrest : IsFirstCollection (some c) rest tail inside after := by
        refine ⟨htail, fun earlier element others hearlier => ?_⟩
        exact Nat.le_of_succ_le_succ (h.first (c :: earlier) element others hearlier.cons)
      rw [findCollection?_cons_of_not hlater, ih hrest]
      rfl

theorem findCollection?_eq_none_of_forall {previous : Option Char} {s : List Char}
    (h : ∀ before inside after, ¬ HasCollection previous s before inside after) :
    findCollection? previous s = none := by
  induction s generalizing previous with
  | nil => rfl
  | cons c rest ih =>
    have hrest : findCollection? (some c) rest = none :=
      ih fun before inside after hlater => h (c :: before) inside after hlater.cons
    rw [findCollection?_cons_of_not (h []), hrest]
    rfl

/-! ## Blanks before a declaration -/

theorem findCollection?_some_of_not_isWordChar {c : Char} (hc : isWordChar c = false)
    (s : List Char) : findCollection? (some c) s = findCollection? none s := by
  cases s with
  | nil => rfl
  | cons d rest => simp [findCollection?, hc]

/-- A blank starts no collection type and continues no word. -/
theorem findCollection?_cons_blank {c : Char} (hc : isBlank c = true) (s : List Char) :
    findCollection? none (c :: s) =
      (findCollection? none s).map fun found => (c :: found.1, found.2) := by
  have hstart : ∀ inside after, ¬ HasCollection none (c :: s) [] inside after := by
    rintro inside after ⟨⟨rest, hs, hstarts⟩, -⟩
    obtain rfl : c :: s = rest := hs
    rcases hstarts.head? with hhead | hhead
    · cases hhead
      exact absurd hc (by decide)
    · cases hhead
      exact absurd hc (by decide)
  rw [findCollection?_cons_of_not hstart,
    findCollection?_some_of_not_isWordChar (isWordChar_of_isBlank hc)]

theorem propertyOfBody?_cons_blank {c : Char} (hc : isBlank c = true) (isRelation : Bool)
    (body : List Char) :
    propertyOfBody? isRelation (c :: body) = propertyOfBody? isRelation body := by
  have hcaret : c ≠ '^' := by
    rintro rfl
    exact absurd hc (by decide)
  have hcontains : (c :: body).contains '^' = body.contains '^' := by
    simp [hcaret.symm]
  have hfilter : (c :: body).filter (· != '^') = c :: body.filter (· != '^') :=
    List.filter_cons_of_pos (bne_iff_ne.2 hcaret)
  unfold propertyOfBody?
  simp only [hcontains, hfilter, findCollection?_cons_blank hc]
  cases findCollection? none (body.filter (· != '^')) with
  | none => simp [words_cons_blank hc]
  | some found => simp [words_cons_blank hc]

theorem propertyOfBody?_trimStart (isRelation : Bool) (body : List Char) :
    propertyOfBody? isRelation (trimStart body) = propertyOfBody? isRelation body := by
  induction body with
  | nil => rfl
  | cons c rest ih =>
    unfold trimStart at *
    by_cases hc : isBlank c = true
    · rw [List.dropWhile_cons_of_pos hc, ih, propertyOfBody?_cons_blank hc]
    · rw [List.dropWhile_cons_of_neg hc]

/-! ## The parts of a declaration -/

/-- What stands before the first `//` of a line, or the whole line if there is none. -/
inductive IsCut : List Char → List Char → Prop where
  | line {line : List Char} (h : ¬ ['/', '/'] <:+: line) : IsCut line line
  | comment {code comment : List Char} (h : ¬ ['/', '/'] <:+: code ++ ['/']) :
    IsCut (code ++ '/' :: '/' :: comment) code

/-- A declaration without its leading dash and without every `^`. -/
def unmarked (text : List Char) : List Char :=
  (if text.head? = some '-' then text.tail else text).filter (· != '^')

/-- A text with its first collection type replaced by one word, and the element of that type. A text
that has none stays as it is. -/
inductive Collapses (s : List Char) : Option (List Char) → List Char → Prop where
  | collection {before inside after : List Char}
    (h : IsFirstCollection none s before inside after) :
    Collapses s (some (trim inside)) (before ++ "Collection".toList ++ after)
  | plain (h : ∀ before inside after, ¬ HasCollection none s before inside after) :
    Collapses s none s

/-- The trimmed text of a line without its comment, the element if it declares a collection, and the
text whose words say what is declared. -/
structure DeclarationParts (line text : List Char) (element : Option (List Char))
    (collapsed : List Char) : Prop where
  text_eq : ∃ cut, IsCut line cut ∧ text = trim cut
  collapses : Collapses (unmarked text) element collapsed

/-- The words of a declaration that say its type and its name. -/
def declaringTokens (collapsed : List Char) : List (List Char) :=
  (words collapsed).filter fun token => dropTrailers token != "nullable".toList

/-- What a line declares, given its parts. -/
structure ReadsDeclaration (line : String) (text : List Char) (element : Option (List Char))
    (collapsed : List Char) : Prop where
  none_iff : parseProperty? line = none ↔
    text ∈ [[], ['{'], ['}'], "aggregateRoot".toList] ∨ (declaringTokens collapsed).length < 2
  eq_of_some : ∀ property, parseProperty? line = some property → ∃ type name rest,
    declaringTokens collapsed = type :: name :: rest ∧
    property = {
      name := String.ofList (dropTrailers name)
      type := String.ofList (element.getD (type.dropWhile (· == '@')))
      nullable := (words collapsed).any fun token => dropTrailers token == "nullable".toList
      isRelation := text.head? == some '-'
      isCollection := element.isSome
      isEnum := text.contains '^' }

theorem isCut_iff {line cut : List Char} :
    IsCut line cut ↔ ((breakOn "//".toList line).map (·.1)).getD line = cut := by
  have hneedle : "//".toList = ['/', '/'] := rfl
  rw [hneedle]
  constructor
  · intro h
    cases h with
    | line h =>
      rw [breakOn_eq_none_iff.2 h]
      rfl
    | @comment _ comment h =>
      have hbreak : breakOn ['/', '/'] (cut ++ '/' :: '/' :: comment) = some (cut, comment) :=
        (breakOn_eq_some_iff (List.cons_ne_nil _ _)).2 ⟨rfl, h⟩
      rw [hbreak]
      rfl
  · rintro rfl
    cases hbreak : breakOn ['/', '/'] line with
    | none => exact .line (breakOn_eq_none_iff.1 hbreak)
    | some found =>
      obtain ⟨hline, hfirst⟩ := (breakOn_eq_some_iff (List.cons_ne_nil _ _)).1 hbreak
      rw [hline]
      exact .comment hfirst

theorem exists_collapses (s : List Char) : ∃ element collapsed, Collapses s element collapsed := by
  by_cases h : ∃ before inside after, HasCollection none s before inside after
  · obtain ⟨before, inside, after, hfirst⟩ := exists_isFirstCollection h
    exact ⟨_, _, .collection hfirst⟩
  · refine ⟨_, _, .plain fun before inside after hfound => h ⟨before, inside, after, hfound⟩⟩

theorem exists_declarationParts (line : List Char) :
    ∃ text element collapsed, DeclarationParts line text element collapsed := by
  let cut := ((breakOn "//".toList line).map (·.1)).getD line
  obtain ⟨element, collapsed, h⟩ := exists_collapses (unmarked (trim cut))
  exact ⟨trim cut, element, collapsed, ⟨cut, isCut_iff.2 rfl, rfl⟩, h⟩

/-! ## What a line declares -/

/-- Two words besides the marks of null make a property. -/
theorem propertyOfTokens?_eq_none_iff (isRelation isEnum : Bool) (element : Option (List Char))
    (tokens : List (List Char)) :
    propertyOfTokens? isRelation isEnum element tokens = none ↔
      (tokens.filter (!isNullableToken ·)).length < 2 := by
  unfold propertyOfTokens?
  split
  · rename_i hfilter
    simp [hfilter]
  · rename_i hfew
    rcases hfilter : tokens.filter (!isNullableToken ·) with _ | ⟨type, _ | ⟨name, rest⟩⟩
    · simp
    · simp
    · exact absurd hfilter (hfew type name rest)

/-- The words of the collapsed text are read, together with the element. -/
theorem propertyOfBody?_of_collapses {body collapsed : List Char} {element : Option (List Char)}
    (h : Collapses (body.filter (· != '^')) element collapsed) (isRelation : Bool) :
    propertyOfBody? isRelation body =
      propertyOfTokens? isRelation (body.contains '^') element (words collapsed) := by
  unfold propertyOfBody?
  cases h with
  | collection hfirst => simp only [findCollection?_eq_some hfirst]
  | plain hnone => simp only [findCollection?_eq_none_of_forall hnone]

theorem parseProperty?_of_parts {line : String} {text collapsed : List Char}
    {element : Option (List Char)} (h : DeclarationParts line.toList text element collapsed) :
    parseProperty? line =
      if isNoDeclaration text then none
      else propertyOfTokens? (text.head? == some '-') (text.contains '^') element
        (words collapsed) := by
  obtain ⟨⟨cut, hcut, rfl⟩, hcollapses⟩ := h
  have htext : declarationText line.toList = trim cut := by
    rw [declarationText, isCut_iff.1 hcut]
  unfold parseProperty?
  simp only [htext]
  split
  · rfl
  · split
    · rename_i rest hdash
      rw [hdash] at hcollapses ⊢
      have hbody : Collapses (rest.filter (· != '^')) element collapsed := hcollapses
      have hcaret : ('-' :: rest).contains '^' = rest.contains '^' := by simp
      rw [propertyOfBody?_trimStart, propertyOfBody?_of_collapses hbody, hcaret]
      rfl
    · rename_i hdash
      have hhead : (trim cut).head? ≠ some '-' := by
        intro hhead
        obtain ⟨rest, hrest⟩ := List.head?_eq_some_iff.1 hhead
        exact hdash rest hrest
      rw [unmarked, if_neg hhead] at hcollapses
      rw [propertyOfBody?_of_collapses hcollapses, beq_eq_false_iff_ne.2 hhead]

/-- **What a line declares is said by its parts.** Every line has parts, and it is read as they say:
as a collection if a collection type was found, and as nothing if too few words are left. -/
theorem line_readsDeclaration (line : String) :
    (∃ text element collapsed, DeclarationParts line.toList text element collapsed) ∧
      ∀ text element collapsed, DeclarationParts line.toList text element collapsed →
        ReadsDeclaration line text element collapsed := by
  refine ⟨exists_declarationParts line.toList, fun text element collapsed h => ?_⟩
  have hread := parseProperty?_of_parts h
  have hnothing : isNoDeclaration text = true ↔
      text ∈ [[], ['{'], ['}'], "aggregateRoot".toList] := by
    simp [isNoDeclaration, rootMarker, or_assoc]
  by_cases hempty : isNoDeclaration text = true
  · rw [if_pos hempty] at hread
    refine ⟨⟨fun _ => .inl (hnothing.1 hempty), fun _ => hread⟩, fun property hproperty => ?_⟩
    rw [hread] at hproperty
    cases hproperty
  · rw [if_neg hempty] at hread
    refine ⟨?_, fun property hproperty => ?_⟩
    · rw [hread, propertyOfTokens?_eq_none_iff, ← hnothing, or_iff_right hempty]
      rfl
    · rw [hread] at hproperty
      unfold propertyOfTokens? at hproperty
      split at hproperty
      · rename_i type name rest hfilter
        refine ⟨type, name, rest, hfilter, ?_⟩
        cases hproperty
        rfl
      · cases hproperty

-- a word that goes on, blanks before the bracket, and a bracket inside
example : parseProperty? "- HashSet<A> List < Set<B> > tags; // all" =
    some { name := "Collection", type := "Set<B", isRelation := true, isCollection := true } := by
  decide +kernel

end DomainForge.Source
