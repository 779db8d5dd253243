import DomainForge.Proofs.Source.Collections
import DomainForge.Proofs.Source.Printing

/-!
# Reading a printed property

A property that was printed is read back, whatever its flags are (`parseProperty?_printProperty`).
Its declaration is a line (`isLine_printProperty`) that no keyword starts
(`ofToken?_printProperty`).
-/

namespace DomainForge.Source

open Text

/-! ## Words of a property -/

namespace IsPropertyWord

variable {word : String} (h : IsPropertyWord word)

include h in
theorem ne_nil : word.toList ≠ [] :=
  fun hnil => h.ne_empty (String.toList_injective hnil)

include h in
theorem not_isBlank : ∀ c ∈ word.toList, isBlank c = false :=
  fun c hc => isBlank_of_isAsciiWordChar (h.isWord c hc)

include h in
theorem words_eq : words word.toList = [word.toList] :=
  words_eq_singleton h.ne_nil h.not_isBlank

include h in
theorem dropTrailers_eq : dropTrailers word.toList = word.toList := by
  refine dropTail_eq_self fun c hc => ?_
  have hword := h.isWord c (List.mem_of_getLast? hc)
  rw [isTrailer, Bool.or_eq_false_iff, beq_eq_false_iff_ne, beq_eq_false_iff_ne]
  constructor <;> rintro rfl <;> exact absurd hword (by decide)

include h in
theorem isNullableToken_eq : isNullableToken word.toList = false := by
  rw [isNullableToken, h.dropTrailers_eq, beq_eq_false_iff_ne]
  exact fun heq => h.ne_nullable (String.toList_injective heq)

end IsPropertyWord

/-! ## Collections -/

/-- A text without angle brackets holds no collection type. -/
theorem findCollection?_eq_none {s : List Char} (hs : '<' ∉ s) (previous : Option Char) :
    findCollection? previous s = none :=
  findCollection?_eq_none_of_forall fun _ _ _ hfound => hs hfound.bracket_mem

theorem findCollection?_list {element : List Char} (hclose : '>' ∉ element)
    (htrim : trim element = element) (after : List Char) :
    findCollection? none ("List<".toList ++ (element ++ '>' :: after)) =
      some ([], element, after) := by
  have hstarts : StartsWithCollection ("List<".toList ++ (element ++ '>' :: after)) element after :=
    ⟨⟨"List", by simp, [], by simp, rfl⟩, hclose⟩
  have hprevious : ∀ d ∈ (none : Option Char), isWordChar d = false := fun _ hd => nomatch hd
  have hfound := findCollection?_cons_of_starts hprevious hstarts
  rwa [htrim] at hfound

/-! ## The printed texts -/

theorem toList_printType (property : Property) :
    (printType property).toList =
      let type := (if property.isEnum then ['^'] else []) ++ property.type.toList
      if property.isCollection then "List<".toList ++ (type ++ ['>']) else type := by
  unfold printType
  cases property.isEnum <;> cases property.isCollection <;> simp

/-- The name of a property with what stands behind it. -/
def nameText (property : Property) : List Char :=
  property.name.toList ++ if property.nullable then ' ' :: "nullable".toList else []

theorem toList_printBody (property : Property) :
    (printBody property).toList = (printType property).toList ++ ' ' :: nameText property := by
  unfold printBody nameText
  split <;> simp

theorem toList_printProperty (property : Property) :
    (printProperty property).toList =
      (if property.isRelation then ['-', ' '] else []) ++ (printBody property).toList := by
  unfold printProperty
  split <;> simp

section Printed

variable {property : Property} (h : property.IsPrintable)

include h in
/-- The characters of a printed type. -/
theorem mem_printType {c : Char} (hc : c ∈ (printType property).toList) :
    isAsciiWordChar c = true ∨ c = '^' ∨ c = '<' ∨ c = '>' := by
  have htype : ∀ d ∈ (if property.isEnum then ['^'] else []) ++ property.type.toList,
      isAsciiWordChar d = true ∨ d = '^' := by
    intro d hd
    rcases List.mem_append.1 hd with hd | hd
    · split at hd <;> simp_all
    · exact .inl (h.type.isWord d hd)
  have hlist : IsWord "List" := by decide
  rw [toList_printType] at hc
  simp only at hc
  split at hc
  · rcases List.mem_append.1 hc with hc | hc
    · have hsplit : "List<".toList = "List".toList ++ ['<'] := by decide
      rcases List.mem_append.1 (hsplit ▸ hc) with hc | hc
      · exact .inl (hlist c hc)
      · exact .inr (.inr (.inl (List.mem_singleton.1 hc)))
    · rcases List.mem_append.1 hc with hc | hc
      · exact (htype c hc).imp_right .inl
      · simp_all
  · exact (htype c hc).imp_right .inl

include h in
theorem printType_ne_nil : (printType property).toList ≠ [] := by
  rw [toList_printType]
  have := h.type.ne_nil
  simp only
  split <;> simp_all

include h in
/-- A printed type is one word, since nothing in it is blank. -/
theorem words_printType : words (printType property).toList = [(printType property).toList] := by
  refine words_eq_singleton (printType_ne_nil h) fun c hc => ?_
  rcases mem_printType h hc with hword | rfl | rfl | rfl
  · exact isBlank_of_isAsciiWordChar hword
  · decide
  · decide
  · decide

include h in
theorem mem_nameText {c : Char} (hc : c ∈ nameText property) :
    isAsciiWordChar c = true ∨ c = ' ' := by
  have hnullable : IsWord "nullable" := by decide
  rcases List.mem_append.1 hc with hc | hc
  · exact .inl (h.name.isWord c hc)
  · split at hc
    · rcases List.mem_cons.1 hc with rfl | hc
      · exact .inr rfl
      · exact .inl (hnullable c hc)
    · cases hc

include h in
/-- No sign stands in the name or behind it. -/
theorem not_mem_nameText {c : Char} (hword : isAsciiWordChar c = false) (hblank : c ≠ ' ') :
    c ∉ nameText property := by
  intro hc
  rcases mem_nameText h hc with hchar | rfl
  · rw [hword] at hchar
    exact Bool.false_ne_true hchar
  · exact hblank rfl

include h in
theorem getLast?_nameText {c : Char} (hc : c ∈ (nameText property).getLast?) :
    isBlank c = false := by
  unfold nameText at hc
  split at hc
  · rw [List.getLast?_append_of_ne_nil _ (by decide)] at hc
    have hlast : (' ' :: "nullable".toList).getLast? = some 'e' := by decide
    cases hlast.symm.trans hc
    decide
  · rw [List.append_nil] at hc
    exact h.name.not_isBlank c (List.mem_of_getLast? hc)

include h in
/-- The words behind the type: the name, and the mark of null if there is one. -/
theorem words_nameText :
    words (nameText property) =
      property.name.toList :: if property.nullable then ["nullable".toList] else [] := by
  unfold nameText
  split
  · rw [words_append_cons (by decide), h.name.words_eq]
    rfl
  · rw [List.append_nil, h.name.words_eq]

include h in
/-- Without the `^` of an enumeration the type is a word, or one in `List<..>`. -/
theorem filter_printBody :
    (printBody property).toList.filter (· != '^') =
      (if property.isCollection then "List<".toList ++ (property.type.toList ++ ['>'])
        else property.type.toList) ++ ' ' :: nameText property := by
  have hkeep : ∀ {s : List Char}, '^' ∉ s → s.filter (· != '^') = s := fun hs =>
    List.filter_eq_self.2 fun c hc => bne_iff_ne.2 fun heq => hs (heq ▸ hc)
  have htype := hkeep (h.type.isWord.not_mem (c := '^') (by decide))
  have hname := hkeep (not_mem_nameText h (c := '^') (by decide) (by decide))
  rw [toList_printBody, toList_printType]
  cases property.isEnum <;> cases property.isCollection <;>
    simp [List.filter_append, htype, hname]

include h in
/-- A caret is printed for enumerations, and nothing else has one. -/
theorem contains_printBody : (printBody property).toList.contains '^' = property.isEnum := by
  have htype : '^' ∉ property.type.toList := h.type.isWord.not_mem (by decide)
  have hname : '^' ∉ nameText property := not_mem_nameText h (by decide) (by decide)
  rw [toList_printBody, toList_printType]
  cases property.isEnum <;> cases property.isCollection <;> simp [htype, hname]

/-! ## Reading the declaration -/

include h in
/-- A declaration is read from its words: the type, or `Collection` in its place, and the name. -/
theorem propertyOfTokens?_printed (isRelation : Bool) {element : Option (List Char)}
    {type : List Char} (htype : isNullableToken type = false)
    (helement : element.getD (type.dropWhile (· == '@')) = property.type.toList)
    (hcollection : element.isSome = property.isCollection) :
    propertyOfTokens? isRelation property.isEnum element (type :: words (nameText property)) =
      some { property with isRelation := isRelation } := by
  have hname := h.name.isNullableToken_eq
  have htokens : (type :: words (nameText property)).filter (!isNullableToken ·) =
      [type, property.name.toList] := by
    rw [words_nameText h]
    split <;> simp +decide [htype, hname]
  have hany : (type :: words (nameText property)).any isNullableToken = property.nullable := by
    rw [words_nameText h]
    cases property.nullable <;> simp +decide [htype, hname]
  unfold propertyOfTokens?
  rw [htokens, hany]
  simp only [helement, hcollection, h.name.dropTrailers_eq, String.ofList_toList]

include h in
/-- The body of a printed property is read back. -/
theorem propertyOfBody?_printBody (isRelation : Bool) :
    propertyOfBody? isRelation (printBody property).toList =
      some { property with isRelation := isRelation } := by
  have hblank : isBlank ' ' = true := by decide
  unfold propertyOfBody?
  simp only [contains_printBody h, filter_printBody h]
  cases hflag : property.isCollection with
  | true =>
    have htrim : trim property.type.toList = property.type.toList :=
      (isTrimmed_of_forall h.type.not_isBlank).trimWhere_eq
    have hfound := findCollection?_list (h.type.isWord.not_mem (by decide)) htrim
      (' ' :: nameText property)
    have hword : isNullableToken "Collection".toList = false := by decide
    have hsome : (some property.type.toList).isSome = property.isCollection := hflag.symm
    simp only [↓reduceIte, List.append_assoc, List.singleton_append]
    rw [hfound]
    -- what is left of the line starts with the word that stands in for the type
    simp only [List.nil_append, words_append_cons hblank]
    exact hflag ▸ propertyOfTokens?_printed h isRelation hword rfl hsome
  | false =>
    have hbracket : '<' ∉ property.type.toList ++ ' ' :: nameText property := by
      have htype : '<' ∉ property.type.toList := h.type.isWord.not_mem (by decide)
      have hname : '<' ∉ nameText property := not_mem_nameText h (by decide) (by decide)
      simp [htype, hname]
    have hat : property.type.toList.dropWhile (· == '@') = property.type.toList := by
      refine dropWhile_eq_self fun c hc => beq_eq_false_iff_ne.2 ?_
      rintro rfl
      exact h.type.isWord.not_mem (by decide) (List.mem_of_head? hc)
    have hnone : (none : Option (List Char)).isSome = property.isCollection := hflag.symm
    simp only [Bool.false_eq_true, ↓reduceIte]
    rw [findCollection?_eq_none hbracket]
    simp only [words_append_cons hblank, h.type.words_eq, List.singleton_append]
    exact hflag ▸ propertyOfTokens?_printed h isRelation h.type.isNullableToken_eq hat hnone

/-! ## The line of a property -/

include h in
/-- A printed property holds no signs but these. -/
theorem not_mem_printProperty {c : Char} (hword : isAsciiWordChar c = false)
    (hc : c ∉ ['^', '<', '>', '-', ' ']) : c ∉ (printProperty property).toList := by
  simp only [List.mem_cons, List.not_mem_nil, or_false, not_or] at hc
  obtain ⟨hcaret, hopen, hclose, hdash, hblank⟩ := hc
  rw [toList_printProperty, toList_printBody]
  simp only [List.mem_append, List.mem_cons, not_or]
  refine ⟨?_, fun hmem => ?_, hblank, not_mem_nameText h hword hblank⟩
  · split <;> simp [hdash, hblank]
  · rcases mem_printType h hmem with hchar | rfl | rfl | rfl
    · rw [hword] at hchar
      exact Bool.false_ne_true hchar
    · exact hcaret rfl
    · exact hopen rfl
    · exact hclose rfl

include h in
/-- A declaration without its dash starts neither with a blank nor with a dash. -/
theorem head?_printBody {c : Char} (hc : c ∈ (printBody property).toList.head?) :
    isBlank c = false ∧ c ≠ '-' := by
  rw [toList_printBody, List.head?_append_of_ne_nil _ (printType_ne_nil h)] at hc
  rcases mem_printType h (List.mem_of_head? hc) with hword | rfl | rfl | rfl
  · refine ⟨isBlank_of_isAsciiWordChar hword, ?_⟩
    rintro rfl
    exact absurd hword (by decide)
  all_goals decide

include h in
theorem getLast?_printBody {c : Char} (hc : c ∈ (printBody property).toList.getLast?) :
    isBlank c = false := by
  have hname : nameText property ≠ [] := List.append_ne_nil_of_left_ne_nil h.name.ne_nil _
  rw [toList_printBody, List.getLast?_append_of_ne_nil _ (List.cons_ne_nil _ _),
    ← List.singleton_append, List.getLast?_append_of_ne_nil _ hname] at hc
  exact getLast?_nameText h hc

theorem printBody_ne_nil (property : Property) : (printBody property).toList ≠ [] := by
  simp [toList_printBody]

include h in
theorem isLine_printProperty : IsLine (printProperty property) := by
  refine isLine_of_ends ?_ ?_ ?_ fun c hc => ⟨?_, ?_⟩
  · rw [toList_printProperty]
    exact List.append_ne_nil_of_right_ne_nil _ (printBody_ne_nil property)
  · intro c hc
    rw [toList_printProperty] at hc
    split at hc
    · cases hc
      decide
    · exact (head?_printBody h hc).1
  · intro c hc
    rw [toList_printProperty, List.getLast?_append_of_ne_nil _ (printBody_ne_nil property)] at hc
    exact getLast?_printBody h hc
  · rintro rfl
    exact not_mem_printProperty h (by decide) (by decide) hc
  · rintro rfl
    exact not_mem_printProperty h (by decide) (by decide) hc

include h in
theorem declarationText_printProperty :
    declarationText (printProperty property).toList = (printProperty property).toList := by
  have hline := isLine_printProperty h
  have hbreak : breakOn "//".toList (printProperty property).toList = none :=
    breakOn_eq_none hline.noComment
  rw [declarationText, hbreak]
  exact hline.trim_eq

/-- A declaration holds a blank, so it is none of the lines that declare nothing. -/
theorem isNoDeclaration_printProperty (property : Property) :
    isNoDeclaration (printProperty property).toList = false := by
  have hblank : ' ' ∈ (printProperty property).toList := by
    simp [toList_printProperty, toList_printBody]
  have hne : ∀ other : List Char, ' ' ∉ other → (printProperty property).toList ≠ other :=
    fun other hother heq => hother (heq ▸ hblank)
  simp only [isNoDeclaration, Bool.or_eq_false_iff, List.isEmpty_eq_false_iff,
    beq_eq_false_iff_ne]
  exact ⟨⟨⟨hne _ (by decide), hne _ (by decide)⟩, hne _ (by decide)⟩, hne _ (by decide)⟩

include h in
/-- **A printed property is read back.** -/
theorem parseProperty?_printProperty : parseProperty? (printProperty property) = some property := by
  unfold parseProperty?
  simp only [declarationText_printProperty h, isNoDeclaration_printProperty, Bool.false_eq_true,
    ↓reduceIte]
  rw [toList_printProperty]
  cases hflag : property.isRelation with
  | true =>
    have hstart : trimStart (' ' :: (printBody property).toList) = (printBody property).toList := by
      refine (List.dropWhile_cons_of_pos (by decide)).trans ?_
      exact dropWhile_eq_self fun c hc => (head?_printBody h hc).1
    simp only [↓reduceIte, List.cons_append, List.nil_append, hstart]
    rw [propertyOfBody?_printBody h, ← hflag]
  | false =>
    simp only [Bool.false_eq_true, ↓reduceIte, List.nil_append]
    split
    · rename_i rest heq
      exact absurd rfl (head?_printBody h (c := '-') (by rw [heq]; rfl)).2
    · rw [propertyOfBody?_printBody h, ← hflag]

/-! ## The first word of a line -/

theorem ofToken?_eq_none {token : List Char}
    (htoken : ∀ keyword : Keyword, keyword.spelling.toList ≠ token) :
    Keyword.ofToken? token = none :=
  List.find?_eq_none.2 fun keyword _ => by simpa using htoken keyword

include h in
theorem ofToken?_printType : Keyword.ofToken? (printType property).toList = none := by
  refine ofToken?_eq_none fun keyword heq => ?_
  have hsign : ∀ c ∈ (printType property).toList, isAsciiWordChar c = true :=
    heq ▸ isWord_spelling keyword
  rw [toList_printType] at heq hsign
  -- a keyword holds no signs, so only a bare type could be one
  cases henum : property.isEnum with
  | true => exact absurd (hsign '^' (by simp [henum]; split <;> simp)) (by decide)
  | false =>
    cases hcollection : property.isCollection with
    | true => exact absurd (hsign '<' (by simp [hcollection])) (by decide)
    | false =>
      have htype : keyword.spelling = property.type :=
        String.toList_injective (by simpa [henum, hcollection] using heq)
      have hall : keyword ∈ Keyword.all := by cases keyword <;> decide
      exact h.not_keyword (List.mem_map.2 ⟨keyword, hall, htype⟩)

include h in
/-- No keyword starts the declaration of a property. -/
theorem ofToken?_printProperty :
    (words (printProperty property).toList).head?.bind Keyword.ofToken? = none := by
  have hbody := words_append_cons (s := (printType property).toList) (t := nameText property)
    (c := ' ') (by decide)
  rw [toList_printProperty, toList_printBody]
  split
  · have hdash : ∀ rest, words (['-', ' '] ++ rest) = ['-'] :: words rest := fun rest =>
      words_append_cons (s := ['-']) (by decide)
    rw [hdash]
    exact (by decide : Keyword.ofToken? ['-'] = none)
  · rw [List.nil_append, hbody, words_printType h]
    exact ofToken?_printType h

end Printed

end DomainForge.Source
