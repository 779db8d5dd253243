import DomainForge.Proofs.Source.Property
import DomainForge.Proofs.Source.Tokens

/-!
# Marks of a declaration

Besides its type and its name, a declaration may hold the word `nullable` and an `@` in front of the
type. The word may be added at any place, and the property is read as before, except in front of the
dash of a relation: the dash must start the line, and is taken for the type otherwise
(`nullable_anywhere_iff`). An `@` is dropped in front of a type that stands on its own. It is not
dropped in a collection type, where the type is not one of the words that are left
(`referenceMark_dropped_iff`).
-/

namespace DomainForge.Source

open Text

/-! ## `nullable` anywhere -/

/-- A word stands in front of the dash, or at some place among the type and the name. -/
theorem cases_of_position {dash : Bool} {type name : List Char} {before after : List (List Char)}
    (h : before ++ after = dashWords dash ++ [type, name]) :
    (dash = true ∧ before = []) ∨
      ∃ lead, before = dashWords dash ++ lead ∧
        ((lead = [] ∧ after = [type, name]) ∨ (lead = [type] ∧ after = [name]) ∨
          (lead = [type, name] ∧ after = [])) := by
  have hbody : ∀ lead : List (List Char), lead ++ after = [type, name] →
      (lead = [] ∧ after = [type, name]) ∨ (lead = [type] ∧ after = [name]) ∨
        (lead = [type, name] ∧ after = []) := by
    intro lead hlead
    rcases lead with _ | ⟨first, _ | ⟨second, rest⟩⟩
    · exact .inl ⟨rfl, hlead⟩
    · obtain ⟨rfl, rfl⟩ := List.cons.inj hlead
      exact .inr (.inl ⟨rfl, rfl⟩)
    · simp only [List.cons_append, List.cons.injEq, List.append_eq_nil_iff] at hlead
      obtain ⟨rfl, rfl, rfl, rfl⟩ := hlead
      exact .inr (.inr ⟨rfl, rfl⟩)
  cases dash with
  | false => exact .inr ⟨before, rfl, hbody before h⟩
  | true =>
    cases before with
    | nil => exact .inl ⟨rfl, rfl⟩
    | cons first lead =>
      obtain ⟨rfl, hlead⟩ := List.cons.inj h
      exact .inr ⟨lead, rfl, hbody lead hlead⟩

/-- Wherever `nullable` stands behind the dash, it is one of the flags of the declaration. -/
theorem exists_declarationWords {dash : Bool} {type name flag : List Char}
    {lead after : List (List Char)} {line : String} (hflag : isNullableToken flag = true)
    (hwords : words line.toList = dashWords dash ++ lead ++ flag :: after)
    (hposition : (lead = [] ∧ after = [type, name]) ∨ (lead = [type] ∧ after = [name]) ∨
      (lead = [type, name] ∧ after = [])) :
    ∃ before between behind, DeclarationWords line dash before type between name behind ∧
      before ++ between ++ behind = [flag] := by
  have hflags : ∀ found ∈ [flag], isNullableToken found = true := by simpa using hflag
  rw [List.append_assoc] at hwords
  rcases hposition with ⟨rfl, rfl⟩ | ⟨rfl, rfl⟩ | ⟨rfl, rfl⟩
  · exact ⟨[flag], [], [], ⟨hwords, hflags⟩, rfl⟩
  · exact ⟨[], [flag], [], ⟨hwords, hflags⟩, rfl⟩
  · exact ⟨[], [], [flag], ⟨hwords, hflags⟩, rfl⟩

/-- **`nullable` may be added anywhere but in front of a dash.** A declaration of a type and a name
is read, and if the word is added at some place among its words, the same property is read, which
may then be null; unless it stands in front of the dash. -/
theorem nullable_anywhere_iff {type name : List Char} (hdeclared : IsTypeAndName type name)
    (dash : Bool) {before after : List (List Char)}
    (hposition : before ++ after = dashWords dash ++ [type, name])
    {flag : List Char} (hflag : isNullableToken flag = true) {line flagged : String}
    (hline : words line.toList = before ++ after)
    (hflagged : words flagged.toList = before ++ flag :: after) :
    ∃ property, parseProperty? line = some property ∧ property.nullable = false ∧
      (parseProperty? flagged = some { property with nullable := true } ↔
        ¬ (dash = true ∧ before = [])) := by
  obtain ⟨element, collapsed, hcollapses⟩ := exists_collapses (withoutCaret type)
  have hwords : DeclarationWords line dash [] type [] name [] :=
    ⟨hline.trans hposition, by simp⟩
  refine ⟨_, hwords.parseProperty?_eq hdeclared hcollapses, rfl, ?_⟩
  rcases cases_of_position hposition with ⟨rfl, rfl⟩ | ⟨lead, rfl, hlead⟩
  · -- the line starts with the flag now, so no relation is read
    refine iff_of_false (fun hread => ?_) (by simp)
    have hcomment : ∀ word ∈ words flagged.toList, ¬ ['/', '/'] <:+: word := by
      intro word hword
      rw [hflagged, List.nil_append, List.mem_cons] at hword
      rcases hword with rfl | hword
      · intro hcomment
        exact not_mem_of_isNullableToken hflag (c := '/') (by decide)
          (hcomment.subset List.mem_cons_self)
      · exact hwords.not_comment hdeclared word (hline ▸ hword)
    have hrelation := isRelation_of_words hflagged hcomment hread
    rw [head?_of_isNullableToken hflag] at hrelation
    cases hrelation
  · obtain ⟨front, middle, behind, hfound, hflags⟩ := exists_declarationWords hflag hflagged hlead
    refine iff_of_true ?_ ?_
    · rw [hfound.parseProperty?_eq hdeclared hcollapses, hflags]
      rfl
    · rintro ⟨rfl, hnil⟩
      cases hnil

theorem nullable_anywhere_iff_tags :
    IsTypeAndName "List<^Tag>".toList "tags;".toList ∧ isNullableToken "nullable,".toList = true ∧
    parseProperty? "- List<^Tag>  tags;" = some {
      name := "tags", type := "Tag", isRelation := true, isCollection := true, isEnum := true } ∧
    parseProperty? "- nullable, List<^Tag> tags;" = some {
      name := "tags", type := "Tag", nullable := true, isRelation := true, isCollection := true
      isEnum := true } := by
  have hdeclared : IsTypeAndName "List<^Tag>".toList "tags;".toList := by decide
  have hread : parseProperty? "- List<^Tag>  tags;" = some {
      name := "tags", type := "Tag", isRelation := true, isCollection := true
      isEnum := true } := by
    decide +kernel
  have hposition : [['-']] ++ ["List<^Tag>".toList, "tags;".toList] =
      dashWords true ++ ["List<^Tag>".toList, "tags;".toList] := rfl
  have hflag : isNullableToken "nullable,".toList = true := by decide
  have hline : words "- List<^Tag>  tags;".toList =
      [['-']] ++ ["List<^Tag>".toList, "tags;".toList] := by decide +kernel
  have hflagged : words "- nullable, List<^Tag> tags;".toList =
      [['-']] ++ "nullable,".toList :: ["List<^Tag>".toList, "tags;".toList] := by decide +kernel
  obtain ⟨property, hproperty, -, hiff⟩ :=
    nullable_anywhere_iff hdeclared true hposition hflag hline hflagged
  rw [hread] at hproperty
  cases hproperty
  exact ⟨hdeclared, hflag, hread, hiff.2 (by simp)⟩

/-- In front of the dash, `nullable` makes the dash the type and the type the name. -/
theorem nullable_before_dash :
    IsTypeAndName "String".toList "nickname".toList ∧
    parseProperty? "- String nickname" =
      some { name := "nickname", type := "String", isRelation := true } ∧
    parseProperty? "nullable - String nickname" ≠
      some { name := "nickname", type := "String", nullable := true, isRelation := true } ∧
    parseProperty? "nullable - String nickname" =
      some { name := "String", type := "-", nullable := true } :=
  have hmisread : parseProperty? "nullable - String nickname" =
      some { name := "String", type := "-", nullable := true } := by decide +kernel
  ⟨by decide, by decide +kernel, by rw [hmisread]; decide, hmisread⟩

/-! ## The mark of references -/

/-- How a type is declared: on its own, or as the element of a collection type. -/
inductive Wrapper where
  | single
  | set
  | list
deriving DecidableEq

/-- The name of the collection type. -/
def Wrapper.collection? : Wrapper → Option String
  | single => none
  | set => some "Set"
  | list => some "List"

/-- The declared form of a type. -/
def Wrapper.wrap (wrapper : Wrapper) (type : List Char) : List Char :=
  match wrapper.collection? with
  | none => type
  | some word => word.toList ++ '<' :: (type ++ ['>'])

theorem Wrapper.collection?_eq_none_iff {wrapper : Wrapper} :
    wrapper.collection? = none ↔ wrapper = .single := by
  cases wrapper <;> decide

theorem Wrapper.mem_of_collection? {wrapper : Wrapper} {word : String}
    (h : wrapper.collection? = some word) : word ∈ ["Set", "List"] := by
  cases wrapper <;> cases h <;> decide

theorem isWord_of_mem_collections {word : String} (h : word ∈ ["Set", "List"]) : IsWord word := by
  simp only [List.mem_cons, List.not_mem_nil, or_false] at h
  rcases h with rfl | rfl <;> decide

theorem IsPropertyWord.withoutCaret_eq {word : String} (h : IsPropertyWord word) :
    withoutCaret word.toList = word.toList :=
  List.filter_eq_self.2 fun c hc => bne_iff_ne.2 fun heq =>
    h.isWord.not_mem (c := '^') (by decide) (heq ▸ hc)

section Wrapped

variable {type : List Char} (htype : ∀ c ∈ type, isAsciiWordChar c = true ∨ c = '@')

include htype

theorem not_mem_type {c : Char} (hword : isAsciiWordChar c = false) (hat : c ≠ '@') :
    c ∉ type := by
  intro hmem
  rcases htype c hmem with hchar | heq
  · rw [hword] at hchar
    cases hchar
  · exact hat heq

variable (wrapper : Wrapper)

theorem not_mem_wrap {c : Char} (hword : isAsciiWordChar c = false) (hc : c ∉ ['@', '<', '>']) :
    c ∉ wrapper.wrap type := by
  simp only [List.mem_cons, List.not_mem_nil, or_false, not_or] at hc
  obtain ⟨hat, hopen, hclose⟩ := hc
  have hnot := not_mem_type htype hword hat
  unfold Wrapper.wrap
  split
  · exact hnot
  · rename_i word hcollection
    have hout := (isWord_of_mem_collections (Wrapper.mem_of_collection? hcollection)).not_mem hword
    simp [hout, hnot, hopen, hclose]

theorem withoutCaret_wrap : withoutCaret (wrapper.wrap type) = wrapper.wrap type := by
  refine List.filter_eq_self.2 fun c hc => bne_iff_ne.2 ?_
  rintro rfl
  exact not_mem_wrap htype wrapper (by decide) (by decide) hc

variable (hne : type ≠ []) (hnullable : isNullableToken type = false)

include hne hnullable

/-- A type of words, wrapped or not, can stand before a name. -/
theorem isTypeAndName_wrap {name : String} (hname : IsPropertyWord name) :
    IsTypeAndName (wrapper.wrap type) name.toList := by
  have hslash : '/' ∉ wrapper.wrap type := not_mem_wrap htype wrapper (by decide) (by decide)
  have hdash : '-' ∉ wrapper.wrap type := not_mem_wrap htype wrapper (by decide) (by decide)
  have hflag : isNullableToken (wrapper.wrap type) = false := by
    unfold Wrapper.wrap
    split
    · exact hnullable
    · exact Bool.eq_false_iff.2 fun hflag =>
        not_mem_of_isNullableToken hflag (c := '<') (by decide) (by simp)
  refine ⟨?_, ?_, ?_, ?_, ?_, ?_, ?_, ?_⟩
  · rw [withoutCaret_wrap htype]
    unfold Wrapper.wrap
    split
    · exact hne
    · simp
  · rw [hname.withoutCaret_eq]
    exact hname.ne_nil
  · rw [withoutCaret_wrap htype]
    exact hflag
  · rw [hname.withoutCaret_eq]
    exact hname.isNullableToken_eq
  · exact fun hhead => hdash (List.mem_of_head? hhead)
  · exact hname.isWord.not_mem (by decide)
  · exact fun hcomment => hslash (hcomment.subset List.mem_cons_self)
  · exact fun hcomment => hname.isWord.not_mem (c := '/') (by decide)
      (hcomment.subset List.mem_cons_self)

omit hne hnullable in
/-- The element of a collection type is the type as it was declared, with its mark. -/
theorem exists_collapses_wrap :
    ∃ collapsed, Collapses (withoutCaret (wrapper.wrap type))
      (if wrapper = .single then none else some type) collapsed ∧
      (wrapper = .single → collapsed = type) := by
  have htrim : trim type = type := by
    refine (isTrimmed_of_forall fun c hc => ?_).trimWhere_eq
    rcases htype c hc with hchar | rfl
    · exact isBlank_of_isAsciiWordChar hchar
    · decide
  -- a collection type at the start of a text is the first one
  have hfirst : ∀ word ∈ ["Set", "List"], Collapses (word.toList ++ '<' :: (type ++ ['>']))
      (some type) ([] ++ "Collection".toList ++ []) := by
    intro word hword
    have hstarts : StartsWithCollection (word.toList ++ '<' :: (type ++ ['>'])) type [] :=
      ⟨⟨word, hword, [], by simp, rfl⟩, not_mem_type htype (by decide) (by decide)⟩
    have hfound : HasCollection none (word.toList ++ '<' :: (type ++ ['>'])) [] type [] :=
      ⟨⟨_, rfl, hstarts⟩, by simp⟩
    have hcollapses := Collapses.collection ⟨hfound, fun _ _ _ _ => Nat.zero_le _⟩
    rwa [htrim] at hcollapses
  rw [withoutCaret_wrap htype]
  unfold Wrapper.wrap
  split
  · rename_i hnone
    rw [if_pos (Wrapper.collection?_eq_none_iff.1 hnone)]
    refine ⟨type, .plain fun before inside after hfound => ?_, fun _ => rfl⟩
    exact not_mem_type htype (by decide) (by decide) hfound.bracket_mem
  · rename_i word hsome
    have hwrapper : wrapper ≠ .single := fun heq => by simp [heq, Wrapper.collection?] at hsome
    rw [if_neg hwrapper]
    exact ⟨_, hfirst word (Wrapper.mem_of_collection? hsome), fun heq => absurd heq hwrapper⟩

/-- What is read from a wrapped type: a mark in front of it is dropped if it stands on its own. -/
theorem parseProperty?_wrap {name : String} (hname : IsPropertyWord name) {dash : Bool}
    {before between after : List (List Char)} {line : String}
    (h : DeclarationWords line dash before (wrapper.wrap type) between name.toList after) :
    parseProperty? line = some {
      name := name
      type := String.ofList (if wrapper = .single then type.dropWhile (· == '@') else type)
      nullable := !(before ++ between ++ after).isEmpty
      isRelation := dash
      isCollection := wrapper ≠ .single } := by
  have hdeclared := isTypeAndName_wrap htype wrapper hne hnullable hname
  obtain ⟨collapsed, hcollapses, hsingle⟩ := exists_collapses_wrap htype wrapper
  have hcaret : ∀ {s : List Char}, '^' ∉ s → s.contains '^' = false := fun hs =>
    Bool.eq_false_iff.2 fun hmem => hs (List.contains_iff_mem.1 hmem)
  rw [h.parseProperty?_eq hdeclared hcollapses, hname.withoutCaret_eq, hname.dropTrailers_eq,
    String.ofList_toList, hcaret (not_mem_wrap htype wrapper (by decide) (by decide)),
    hcaret (hname.isWord.not_mem (by decide))]
  by_cases hwrapper : wrapper = .single
  · simp [hwrapper, hsingle hwrapper]
  · simp [hwrapper]

end Wrapped

/-- **An `@` in front of a type is dropped, except in a collection type.** The declaration is read
with the type and the name as they stand, and the one with the mark is read alike exactly if the
type stands on its own. -/
theorem referenceMark_dropped_iff {type name : String} (htype : IsPropertyWord type)
    (hname : IsPropertyWord name) (wrapper : Wrapper) (dash : Bool)
    {before between after : List (List Char)} {line marked : String}
    (hline : DeclarationWords line dash before (wrapper.wrap type.toList) between name.toList after)
    (hmarked : DeclarationWords marked dash before (wrapper.wrap ('@' :: type.toList)) between
      name.toList after) :
    parseProperty? line = some {
        name := name
        type := type
        nullable := !(before ++ between ++ after).isEmpty
        isRelation := dash
        isCollection := wrapper ≠ .single } ∧
      (parseProperty? marked = parseProperty? line ↔ wrapper = .single) := by
  have hplain : type.toList.dropWhile (· == '@') = type.toList := by
    refine dropWhile_eq_self fun c hc => beq_eq_false_iff_ne.2 ?_
    rintro rfl
    exact htype.isWord.not_mem (by decide) (List.mem_of_head? hc)
  have hflag : isNullableToken ('@' :: type.toList) = false :=
    Bool.eq_false_iff.2 fun hflag =>
      not_mem_of_isNullableToken hflag (c := '@') (by decide) List.mem_cons_self
  have hread := parseProperty?_wrap (fun c hc => .inl (htype.isWord c hc)) wrapper htype.ne_nil
    htype.isNullableToken_eq hname hline
  have hchars : ∀ c ∈ '@' :: type.toList, isAsciiWordChar c = true ∨ c = '@' :=
    List.forall_mem_cons.2 ⟨.inr rfl, fun c hc => .inl (htype.isWord c hc)⟩
  have hreadMarked := parseProperty?_wrap hchars wrapper (List.cons_ne_nil _ _) hflag hname hmarked
  rw [hplain, ite_self, String.ofList_toList] at hread
  rw [List.dropWhile_cons_of_pos (by decide), hplain] at hreadMarked
  refine ⟨hread, ?_⟩
  rw [hread, hreadMarked]
  by_cases hwrapper : wrapper = .single
  · simp [hwrapper]
  · simp [hwrapper]

theorem referenceMark_dropped_iff_customer :
    IsPropertyWord "Customer" ∧ IsPropertyWord "customer" ∧
    parseProperty? "- @Customer nullable; customer" = some {
      name := "customer", type := "Customer", nullable := true, isRelation := true } := by
  have hwords : DeclarationWords "- Customer nullable; customer" true [] "Customer".toList
      ["nullable;".toList] "customer".toList [] :=
    ⟨by decide +kernel, List.forall_mem_singleton.2 (by decide)⟩
  have hmarked : DeclarationWords "- @Customer nullable; customer" true [] "@Customer".toList
      ["nullable;".toList] "customer".toList [] :=
    ⟨by decide +kernel, List.forall_mem_singleton.2 (by decide)⟩
  have htype : IsPropertyWord "Customer" := by decide
  have hname : IsPropertyWord "customer" := by decide
  obtain ⟨hread, hiff⟩ := referenceMark_dropped_iff htype hname .single true hwords hmarked
  exact ⟨htype, hname, (hiff.2 rfl).trans hread⟩

/-- In a collection type the mark becomes part of the type. -/
theorem referenceMark_kept_in_collection :
    IsPropertyWord "Tag" ∧ IsPropertyWord "tags" ∧
    parseProperty? "Set<Tag> tags" = some { name := "tags", type := "Tag", isCollection := true } ∧
    parseProperty? "Set<@Tag> tags" ≠ parseProperty? "Set<Tag> tags" ∧
    parseProperty? "Set<@Tag> tags" =
      some { name := "tags", type := "@Tag", isCollection := true } :=
  have hread : parseProperty? "Set<Tag> tags" =
      some { name := "tags", type := "Tag", isCollection := true } := by decide +kernel
  have hmarked : parseProperty? "Set<@Tag> tags" =
      some { name := "tags", type := "@Tag", isCollection := true } := by decide +kernel
  ⟨by decide, by decide, hread, by rw [hread, hmarked]; decide, hmarked⟩

end DomainForge.Source
