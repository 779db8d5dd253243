import DomainForge.Proofs.Source.Collections
import Mathlib.Tactic.MkIffOfInductiveProp

/-!
# Declarations as words

The marks of a property are removed at different stages of reading: the dash from the front of the
line, the `^` from the whole of it, a collection type by a search over the text, and `nullable`,
last, from the words. For a line whose type and name are one word each, all of this can be said of
the words (`DeclarationWords.parseProperty?_eq`), whatever blanks stand between them. What is needed
is that the search finds nothing outside the type: in front of it stands `nullable` only, and behind
it no bracket is closed (`hasCollection_surrounded_iff`).
-/

namespace DomainForge.Source

open Text

/-! ## The word `nullable` -/

/-- The mark of null is the word and what trails it. -/
theorem exists_eq_of_isNullableToken {flag : List Char} (h : isNullableToken flag = true) :
    ∃ trailers, flag = "nullable".toList ++ trailers ∧ ∀ c ∈ trailers, isTrailer c = true := by
  obtain ⟨trailers, hflag, htrailers⟩ := exists_eq_dropTail_append isTrailer flag
  have hword : dropTail isTrailer flag = "nullable".toList := beq_iff_eq.1 h
  exact ⟨trailers, hword ▸ hflag, htrailers⟩

theorem head?_of_isNullableToken {flag : List Char} (h : isNullableToken flag = true) :
    flag.head? = some 'n' := by
  obtain ⟨trailers, rfl, -⟩ := exists_eq_of_isNullableToken h
  rfl

/-- No other characters stand in `nullable`, with or without trailers. -/
theorem not_mem_of_isNullableToken {flag : List Char} (h : isNullableToken flag = true) {c : Char}
    (hc : c ∉ "nullable;,".toList) : c ∉ flag := by
  obtain ⟨trailers, rfl, htrailers⟩ := exists_eq_of_isNullableToken h
  intro hmem
  rcases List.mem_append.1 hmem with hmem | hmem
  · exact hc ((by decide : "nullable".toList ⊆ "nullable;,".toList) hmem)
  · have htrailer := htrailers c hmem
    rw [isTrailer, Bool.or_eq_true, beq_iff_eq, beq_iff_eq] at htrailer
    rcases htrailer with rfl | rfl <;> exact absurd hc (by decide)

theorem filter_caret_of_isNullableToken {flag : List Char} (h : isNullableToken flag = true) :
    flag.filter (· != '^') = flag := by
  refine List.filter_eq_self.2 fun c hc => bne_iff_ne.2 ?_
  rintro rfl
  exact not_mem_of_isNullableToken h (by decide) hc

/-! ## A type between other words -/

section Surrounded

variable {front word back : List Char} (hfront : ∀ c ∈ front.getLast?, isBlank c = true)
  (hletters : 'S' ∉ front ∧ 'L' ∉ front) (hback : '>' ∉ back)

include hfront hletters hback

/-- The collection types of a text are those of a word in it, if none starts before the word and
none ends behind it. -/
theorem hasCollection_surrounded_iff {before inside after : List Char} :
    HasCollection none (front ++ (word ++ back)) before inside after ↔
      ∃ lead rest, before = front ++ lead ∧ after = rest ++ back ∧
        HasCollection none word lead inside rest := by
  constructor
  · rintro ⟨⟨found, hs, hstarts⟩, hword⟩
    obtain ⟨lead, rfl, hfound⟩ : ∃ lead, before = front ++ lead ∧ word ++ back = lead ++ found := by
      rcases List.append_eq_append_iff.1 hs with ⟨lead, hbefore, hfound⟩ | ⟨lost, rfl, hfound⟩
      · exact ⟨lead, hbefore, hfound⟩
      · cases lost with
        | nil => exact ⟨[], by simp, by simpa using hfound.symm⟩
        | cons c others =>
          rw [hfound] at hstarts
          rcases hstarts.head? with hhead | hhead
          · cases hhead
            simp at hletters
          · cases hhead
            simp at hletters
    obtain ⟨⟨name, hname, gap, hgap, rfl⟩, hclosing⟩ := hstarts
    -- the closing bracket stands in the word, since none stands behind it
    have hsplit : word ++ back = (lead ++ (name.toList ++ (gap ++ '<' :: inside))) ++
        '>' :: after := by
      simp [hfound]
    obtain ⟨rest, hrest, hafter⟩ : ∃ rest,
        word = (lead ++ (name.toList ++ (gap ++ '<' :: inside))) ++ '>' :: rest ∧
          after = rest ++ back := by
      rcases List.append_eq_append_iff.1 hsplit with ⟨lost, -, hlost⟩ | ⟨kept, hkept, hends⟩
      · exact absurd (hlost ▸ List.mem_append_right lost List.mem_cons_self) hback
      · cases kept with
        | nil =>
          rw [List.nil_append] at hends
          exact absurd (hends ▸ List.mem_cons_self) hback
        | cons c rest =>
          obtain ⟨rfl, hafter⟩ := List.cons.inj hends
          exact ⟨rest, hkept, hafter⟩
    refine ⟨lead, rest, rfl, hafter, ⟨_, ?_, ⟨name, hname, gap, hgap, rfl⟩, hclosing⟩, ?_⟩
    · simp [hrest]
    · intro c hc
      have hne : lead ≠ [] := by
        rintro rfl
        cases hc
      refine hword c ?_
      rw [Option.toList_none, List.nil_append, List.getLast?_append_of_ne_nil _ hne]
      exact hc
  · rintro ⟨lead, rest, rfl, rfl, ⟨found, rfl, ⟨name, hname, gap, hgap, rfl⟩, hclosing⟩, hword⟩
    refine ⟨⟨_, ?_, ⟨name, hname, gap, hgap, rfl⟩, hclosing⟩, fun c hc => ?_⟩
    · simp
    · rw [Option.toList_none, List.nil_append] at hc
      cases lead with
      | nil => exact isWordChar_of_isBlank (hfront c (by simpa using hc))
      | cons d others =>
        rw [List.getLast?_append_of_ne_nil _ (List.cons_ne_nil d others)] at hc
        exact hword c hc

/-- A collection type collapses alike between other words. -/
theorem Collapses.surrounded {element : Option (List Char)} {collapsed : List Char}
    (h : Collapses word element collapsed) :
    Collapses (front ++ (word ++ back)) element (front ++ (collapsed ++ back)) := by
  have hiff {before inside after : List Char} :
      HasCollection none (front ++ (word ++ back)) before inside after ↔
        ∃ lead rest, before = front ++ lead ∧ after = rest ++ back ∧
          HasCollection none word lead inside rest :=
    hasCollection_surrounded_iff hfront hletters hback
  cases h with
  | @collection lead inside rest hfirst =>
    have hsurrounded : IsFirstCollection none (front ++ (word ++ back)) (front ++ lead) inside
        (rest ++ back) := by
      refine ⟨hiff.2 ⟨lead, rest, rfl, rfl, hfirst.found⟩, fun earlier other others hother => ?_⟩
      obtain ⟨lead', rest', rfl, -, hfound⟩ := hiff.1 hother
      have hle := hfirst.first _ _ _ hfound
      simpa using hle
    have hcollapses := Collapses.collection hsurrounded
    simpa using hcollapses
  | plain hnone =>
    refine .plain fun before inside after hfound => ?_
    obtain ⟨lead, rest, -, -, hword⟩ := hiff.1 hfound
    exact hnone lead inside rest hword

end Surrounded

/-- Collapsing adds no characters but those of its word. -/
theorem Collapses.mem {s collapsed : List Char} {element : Option (List Char)}
    (h : Collapses s element collapsed) : ∀ c ∈ collapsed, c ∈ s ∨ c ∈ "Collection".toList := by
  intro c hc
  cases h with
  | @collection before inside after hfirst =>
    obtain ⟨⟨found, rfl, ⟨word, -, gap, -, rfl⟩, -⟩, -⟩ := hfirst.found
    rcases List.mem_append.1 hc with hc | hc
    · rcases List.mem_append.1 hc with hc | hc
      · exact .inl (List.mem_append_left _ hc)
      · exact .inr hc
    · exact .inl (by simp [hc])
  | plain => exact .inl hc

theorem Collapses.ne_nil {s collapsed : List Char} {element : Option (List Char)}
    (h : Collapses s element collapsed) (hs : s ≠ []) : collapsed ≠ [] := by
  cases h with
  | collection => simp
  | plain => exact hs

/-- A collection type never becomes the word `nullable`. -/
theorem Collapses.isNullableToken_eq {s collapsed : List Char} {element : Option (List Char)}
    (h : Collapses s element collapsed) (hs : isNullableToken s = false) :
    isNullableToken collapsed = false := by
  cases h with
  | collection =>
    refine Bool.eq_false_iff.2 fun hflag => ?_
    exact not_mem_of_isNullableToken hflag (c := 'C') (by decide) (by simp)
  | plain => exact hs

/-! ## Lines by their words -/

/-- The mark of a relation, as a word of its own. -/
def dashWords (dash : Bool) : List (List Char) :=
  if dash then [['-']] else []

/-- A word without the mark of enumerations. -/
def withoutCaret (word : List Char) : List Char :=
  word.filter (· != '^')

/-- What may declare a type and a name. Without the mark of enumerations, both are words other than
`nullable`. A dash in front of the type would not be part of it, and behind a `>` in the name a
collection type might end. -/
@[mk_iff]
structure IsTypeAndName (type name : List Char) : Prop where
  type_ne_nil : withoutCaret type ≠ []
  name_ne_nil : withoutCaret name ≠ []
  type_not_nullable : isNullableToken (withoutCaret type) = false
  name_not_nullable : isNullableToken (withoutCaret name) = false
  type_dash : type.head? ≠ some '-'
  name_bracket : '>' ∉ name
  type_comment : ¬ ['/', '/'] <:+: type
  name_comment : ¬ ['/', '/'] <:+: name

instance (type name : List Char) : Decidable (IsTypeAndName type name) :=
  decidable_of_iff _ (isTypeAndName_iff type name).symm

/-- A line that declares a type and a name, each by one word. A dash may stand in front, and the
word `nullable` anywhere behind the dash. -/
structure DeclarationWords (line : String) (dash : Bool) (before : List (List Char))
    (type : List Char) (between : List (List Char)) (name : List Char)
    (after : List (List Char)) : Prop where
  words_eq : words line.toList =
    dashWords dash ++ (before ++ type :: (between ++ name :: after))
  flags : ∀ flag ∈ before ++ between ++ after, isNullableToken flag = true

theorem words_withoutCaret (s : List Char) :
    words (withoutCaret s) = ((words s).map withoutCaret).filter (!·.isEmpty) :=
  words_filter (fun c hc => bne_iff_ne.2 (by rintro rfl; exact absurd hc (by decide))) s

theorem flags_withoutCaret {flags : List (List Char)}
    (h : ∀ flag ∈ flags, isNullableToken flag = true) :
    (flags.map withoutCaret).filter (!·.isEmpty) = flags := by
  have hmap : flags.map withoutCaret = flags := by
    refine (List.map_congr_left fun flag hflag => ?_).trans flags.map_id
    exact filter_caret_of_isNullableToken (h flag hflag)
  rw [hmap, List.filter_eq_self]
  intro flag hflag
  obtain ⟨trailers, rfl, -⟩ := exists_eq_of_isNullableToken (h flag hflag)
  rfl

/-- The first word of a text is where the trimmed text starts. -/
theorem exists_trim_eq_append {s word : List Char} {others : List (List Char)}
    (h : words s = word :: others) :
    ∃ back, trim s = word ++ back ∧ words back = others := by
  rw [← words_trim] at h
  obtain ⟨gap, back, hs, hgap, -, hothers⟩ := exists_of_words_eq_cons h
  have htrimmed : IsTrimmed isBlank (trim s) := isTrimmed_trimWhere isBlank s
  cases gap with
  | nil => exact ⟨back, hs, hothers⟩
  | cons c rest =>
    have hblank := hgap c List.mem_cons_self
    rw [htrimmed.head c (by rw [hs]; rfl)] at hblank
    cases hblank

theorem head?_trim {s word : List Char} {others : List (List Char)}
    (h : words s = word :: others) : (trim s).head? = word.head? := by
  have hne : word ≠ [] := ne_nil_of_mem_words (h ▸ List.mem_cons_self)
  obtain ⟨back, hs, -⟩ := exists_trim_eq_append h
  rw [hs, List.head?_append_of_ne_nil _ hne]

/-- A line of two words or more may declare something. -/
theorem isNoDeclaration_trim {s : List Char} (h : 2 ≤ (words s).length) :
    isNoDeclaration (trim s) = false := by
  rw [← words_trim] at h
  refine Bool.eq_false_iff.2 fun hnothing => ?_
  simp only [isNoDeclaration, rootMarker, Bool.or_eq_true, List.isEmpty_iff, beq_iff_eq] at hnothing
  rcases hnothing with ((hs | hs) | hs) | hs <;> rw [hs] at h <;> exact absurd h (by decide)

/-- A line is not cut if none of its words has a comment. -/
theorem isCut_of_words {line : List Char} (h : ∀ word ∈ words line, ¬ ['/', '/'] <:+: word) :
    IsCut line line := by
  have hslashes : ∀ c ∈ ['/', '/'], isBlank c = false := by
    intro c hc
    obtain rfl : c = '/' := by simpa using hc
    decide
  refine .line fun hcomment => ?_
  obtain ⟨word, hword, hpiece⟩ := exists_infix_word (by decide) hslashes hcomment
  exact h word hword hpiece

/-- What is not blank is in a word. -/
theorem contains_eq_any_words {c : Char} (hc : isBlank c = false) (s : List Char) :
    s.contains c = (words s).any (·.contains c) := by
  rw [Bool.eq_iff_iff, List.contains_iff_mem, List.any_eq_true]
  constructor
  · intro hmem
    obtain ⟨word, hword, hin⟩ := exists_word_of_mem hmem hc
    exact ⟨word, hword, List.contains_iff_mem.2 hin⟩
  · rintro ⟨word, hword, hin⟩
    exact mem_of_mem_words hword c (List.contains_iff_mem.1 hin)

/-- If a line is read at all, it is as a relation exactly if it starts with a dash. -/
theorem isRelation_of_words {line : String} {word : List Char} {others : List (List Char)}
    (hwords : words line.toList = word :: others)
    (hcomment : ∀ word ∈ words line.toList, ¬ ['/', '/'] <:+: word) {property : Property}
    (h : parseProperty? line = some property) :
    property.isRelation = (word.head? == some '-') := by
  obtain ⟨element, collapsed, hcollapses⟩ := exists_collapses (unmarked (trim line.toList))
  have hparts : DeclarationParts line.toList (trim line.toList) element collapsed :=
    ⟨⟨_, isCut_of_words hcomment, rfl⟩, hcollapses⟩
  rw [parseProperty?_of_parts hparts, head?_trim hwords] at h
  split at h
  · cases h
  · unfold propertyOfTokens? at h
    split at h
    · cases h
      rfl
    · cases h

/-- Words that are `nullable` only say that a property may be null. -/
theorem propertyOfTokens?_flagged (isRelation isEnum : Bool) (element : Option (List Char))
    {before between after : List (List Char)} {type name : List Char}
    (hflags : ∀ flag ∈ before ++ between ++ after, isNullableToken flag = true)
    (htype : isNullableToken type = false) (hname : isNullableToken name = false) :
    propertyOfTokens? isRelation isEnum element (before ++ type :: (between ++ name :: after)) =
      some {
        name := String.ofList (dropTrailers name)
        type := String.ofList (element.getD (type.dropWhile (· == '@')))
        nullable := !(before ++ between ++ after).isEmpty
        isRelation := isRelation
        isCollection := element.isSome
        isEnum := isEnum } := by
  have htokens : (before ++ type :: (between ++ name :: after)).filter (!isNullableToken ·) =
      [type, name] := by
    have hnone : (before ++ between ++ after).filter (!isNullableToken ·) = [] :=
      List.filter_eq_nil_iff.2 fun flag hflag => by simp [hflags flag hflag]
    simp only [List.filter_append, List.append_eq_nil_iff] at hnone
    obtain ⟨⟨hbefore, hbetween⟩, hafter⟩ := hnone
    simp [List.filter_append, hbefore, hbetween, hafter, htype, hname]
  have hnullable : (before ++ type :: (between ++ name :: after)).any isNullableToken =
      !(before ++ between ++ after).isEmpty := by
    have hsome : (before ++ between ++ after).any isNullableToken =
        !(before ++ between ++ after).isEmpty := by
      cases hall : before ++ between ++ after with
      | nil => rfl
      | cons flag rest => simp [hflags flag (hall ▸ List.mem_cons_self)]
    rw [← hsome]
    simp [List.any_append, htype, hname]
  unfold propertyOfTokens?
  rw [htokens, hnullable]

namespace DeclarationWords

variable {line : String} {dash : Bool} {before between after : List (List Char)}
  {type name : List Char} (h : DeclarationWords line dash before type between name after)
  (hdeclared : IsTypeAndName type name)

include h hdeclared

theorem not_comment : ∀ word ∈ words line.toList, ¬ ['/', '/'] <:+: word := by
  have hflag : ∀ flag ∈ before ++ between ++ after, ¬ ['/', '/'] <:+: flag := by
    intro flag hflag hcomment
    exact not_mem_of_isNullableToken (h.flags flag hflag) (c := '/') (by decide)
      (hcomment.subset List.mem_cons_self)
  intro word hword
  rw [h.words_eq] at hword
  simp only [List.mem_append, List.mem_cons] at hword hflag
  rcases hword with hdash | hbefore | rfl | hbetween | rfl | hafter
  · unfold dashWords at hdash
    split at hdash
    · rw [List.mem_singleton.1 hdash]
      decide
    · cases hdash
  · exact hflag word (.inl (.inl hbefore))
  · exact hdeclared.type_comment
  · exact hflag word (.inl (.inr hbetween))
  · exact hdeclared.name_comment
  · exact hflag word (.inr hafter)

/-- Without its marks, a line has the words that are left. -/
theorem words_unmarked :
    words (unmarked (trim line.toList)) =
      before ++ withoutCaret type :: (between ++ withoutCaret name :: after) ∧
    ((trim line.toList).head? == some '-') = dash := by
  have hflags := h.flags
  simp only [List.mem_append, or_imp, forall_and] at hflags
  obtain ⟨⟨hbefore, hbetween⟩, hafter⟩ := hflags
  have hleft : (((before ++ type :: (between ++ name :: after)).map withoutCaret).filter
      (!·.isEmpty)) =
        before ++ withoutCaret type :: (between ++ withoutCaret name :: after) := by
    rw [List.map_append, List.map_cons, List.map_append, List.map_cons, List.filter_append,
      List.filter_cons, List.filter_append, List.filter_cons, flags_withoutCaret hbefore,
      flags_withoutCaret hbetween, flags_withoutCaret hafter]
    simp [hdeclared.type_ne_nil, hdeclared.name_ne_nil]
  have hwords := h.words_eq
  cases dash with
  | true =>
    obtain ⟨back, hback, hothers⟩ := exists_trim_eq_append (s := line.toList) hwords
    have hunmarked : unmarked (trim line.toList) = withoutCaret back := by
      rw [hback]
      rfl
    refine ⟨?_, by rw [hback]; rfl⟩
    rw [hunmarked, words_withoutCaret, hothers]
    exact hleft
  | false =>
    have hhead : (trim line.toList).head? ≠ some '-' := by
      cases before with
      | nil =>
        rw [head?_trim (s := line.toList) hwords]
        exact hdeclared.type_dash
      | cons flag rest =>
        rw [head?_trim (s := line.toList) hwords,
          head?_of_isNullableToken (hbefore flag List.mem_cons_self)]
        decide
    have hunmarked : unmarked (trim line.toList) = withoutCaret (trim line.toList) := by
      rw [unmarked, if_neg hhead]
      rfl
    refine ⟨?_, beq_eq_false_iff_ne.2 hhead⟩
    rw [hunmarked, words_withoutCaret, words_trim, hwords]
    exact hleft

/-- If a collection type is found in the type, it is the first one of the line. -/
theorem exists_collapses_line {element : Option (List Char)} {collapsed : List Char}
    (hcollapses : Collapses (withoutCaret type) element collapsed) :
    ∃ text, Collapses (unmarked (trim line.toList)) element text ∧
      words text = before ++ collapsed :: (between ++ withoutCaret name :: after) := by
  have hwords := (h.words_unmarked hdeclared).1
  obtain ⟨front, back, hs, hfront, hback, hbefore, hbehind⟩ := exists_of_words_eq_append_cons hwords
  have hleft : ∀ c, isBlank c = false → c ∉ "nullable;,".toList → c ∉ front := by
    intro c hblank hc hmem
    obtain ⟨flag, hflag, hin⟩ := exists_word_of_mem hmem hblank
    rw [hbefore] at hflag
    exact not_mem_of_isNullableToken (h.flags flag (by simp [hflag])) hc hin
  have hclosing : '>' ∉ back := by
    intro hmem
    obtain ⟨word, hword, hin⟩ := exists_word_of_mem hmem (by decide)
    rw [hbehind, List.mem_append, List.mem_cons] at hword
    rcases hword with hflag | rfl | hflag
    · exact not_mem_of_isNullableToken (h.flags word (by simp [hflag])) (by decide) hin
    · exact hdeclared.name_bracket (List.mem_of_mem_filter hin)
    · exact not_mem_of_isNullableToken (h.flags word (by simp [hflag])) (by decide) hin
  have hblank : ∀ c ∈ collapsed, isBlank c = false := by
    intro c hc
    rcases hcollapses.mem c hc with hc | hc
    · have htype : withoutCaret type ∈ words (unmarked (trim line.toList)) := by simp [hwords]
      exact not_isBlank_of_mem_words htype c hc
    · have hword : IsWord "Collection" := by decide
      exact isBlank_of_isAsciiWordChar (hword c hc)
  refine ⟨front ++ (collapsed ++ back), ?_, ?_⟩
  · rw [hs]
    exact hcollapses.surrounded hfront
      ⟨hleft 'S' (by decide) (by decide), hleft 'L' (by decide) (by decide)⟩ hclosing
  · rw [words_append_of_getLast? hfront, words_append_of_head? hback,
      words_eq_singleton (hcollapses.ne_nil hdeclared.type_ne_nil) hblank, hbefore, hbehind]
    rfl

omit hdeclared in
theorem contains_caret :
    (trim line.toList).contains '^' = (type.contains '^' || name.contains '^') := by
  have hnone : ∀ flags : List (List Char), (∀ flag ∈ flags, isNullableToken flag = true) →
      flags.any (·.contains '^') = false := by
    intro flags hflags
    refine List.any_eq_false.2 fun flag hflag hcaret => ?_
    exact not_mem_of_isNullableToken (hflags flag hflag) (by decide)
      (List.contains_iff_mem.1 hcaret)
  have hdash : (dashWords dash).any (·.contains '^') = false := by
    cases dash <;> rfl
  have hflags := h.flags
  simp only [List.mem_append, or_imp, forall_and] at hflags
  obtain ⟨⟨hbefore, hbetween⟩, hafter⟩ := hflags
  rw [contains_eq_any_words (by decide), words_trim, h.words_eq]
  simp only [List.any_append, List.any_cons, hdash, hnone _ hbefore, hnone _ hbetween,
    hnone _ hafter, Bool.false_or, Bool.or_false]

/-- **A declaration is read from its words**, whatever blanks stand between them. -/
theorem parseProperty?_eq {element : Option (List Char)} {collapsed : List Char}
    (hcollapses : Collapses (withoutCaret type) element collapsed) :
    parseProperty? line = some {
      name := String.ofList (dropTrailers (withoutCaret name))
      type := String.ofList (element.getD (collapsed.dropWhile (· == '@')))
      nullable := !(before ++ between ++ after).isEmpty
      isRelation := dash
      isCollection := element.isSome
      isEnum := type.contains '^' || name.contains '^' } := by
  obtain ⟨text, htext, hwords⟩ := h.exists_collapses_line hdeclared hcollapses
  have hparts : DeclarationParts line.toList (trim line.toList) element text :=
    ⟨⟨_, isCut_of_words (h.not_comment hdeclared), rfl⟩, htext⟩
  have hlength : 2 ≤ (words line.toList).length := by
    rw [h.words_eq]
    simp only [List.length_append, List.length_cons]
    omega
  rw [parseProperty?_of_parts hparts, isNoDeclaration_trim hlength,
    (h.words_unmarked hdeclared).2, h.contains_caret, hwords]
  exact propertyOfTokens?_flagged _ _ _ h.flags
    (hcollapses.isNullableToken_eq hdeclared.type_not_nullable) hdeclared.name_not_nullable

end DeclarationWords

end DomainForge.Source
