import DomainForge.Naming
import DomainForge.Proofs.Text.Casing
import DomainForge.Proofs.Text.Cuts
import Mathlib.Data.List.Forall2

/-!
# Laws of names

Pascal case takes a name apart at its dividers and capitalizes the parts, so it commutes with
putting names together (`pascalChars_append_cons`). Its results have no dividers left and start
with a capital, so they are their own Pascal case (`pascalChars_pascalChars`).

The name of an enumeration case is made of capitals, digits and underscores
(`isCaseName_caseIdentifier`), and such a name stays as it is (`caseIdentifier_eq_self`). Two labels
get the same name when nothing but case and punctuation tells them apart
(`caseIdentifier_eq_iff`).
-/

namespace DomainForge.Naming

open Text

variable {c x : Char} {s t : List Char}

/-! ## Pascal case -/

theorem isDivider_iff : isDivider c = true ↔ c = '_' ∨ c = '-' := by
  simp only [isDivider, Bool.or_eq_true, beq_iff_eq]

/-- A divider cuts a name into two that are capitalized alone. -/
theorem pascalChars_append_cons (hc : isDivider c = true) :
    pascalChars (s ++ c :: t) = pascalChars s ++ pascalChars t := by
  rw [pascalChars, splitWhere_append_cons hc, List.flatMap_append, pascalChars, pascalChars]

theorem pascalChars_eq_capitalize (h : ∀ c ∈ s, isDivider c = false) :
    pascalChars s = capitalize s := by
  rw [pascalChars, splitWhere_eq_singleton h, List.flatMap_singleton]

/-- No capital letter is a divider, even if the capital has several characters. -/
theorem isDivider_of_mem_upperChar (hc : isDivider c = false) (hx : x ∈ upperChar c) :
    isDivider x = false := by
  rcases mem_upperChar_cases hx with ⟨rfl, -⟩ | hcode
  · exact hc
  · rw [Bool.eq_false_iff, ne_eq, isDivider_iff]
    rintro (rfl | rfl) <;> simp at hcode

theorem isDivider_of_mem_capitalize (h : ∀ c ∈ s, isDivider c = false)
    (hx : x ∈ capitalize s) : isDivider x = false := by
  cases s with
  | nil => exact absurd hx List.not_mem_nil
  | cons c rest =>
    rcases List.mem_append.1 hx with hx | hx
    · exact isDivider_of_mem_upperChar (h c List.mem_cons_self) hx
    · exact h x (List.mem_cons_of_mem c hx)

theorem isDivider_of_mem_pascalChars (hx : x ∈ pascalChars s) : isDivider x = false := by
  obtain ⟨piece, hpiece, hx⟩ := List.mem_flatMap.1 hx
  exact isDivider_of_mem_capitalize (fun c hc => not_of_mem_splitWhere hpiece c hc) hx

/-- What starts with a capitalized part is capitalized. -/
theorem capitalize_capitalize_append (hs : s ≠ []) :
    capitalize (capitalize s ++ t) = capitalize s ++ t := by
  obtain ⟨c, rest, rfl⟩ := List.exists_cons_of_ne_nil hs
  obtain ⟨x, tail, hupper⟩ := List.exists_cons_of_ne_nil (upperChar_ne_nil c)
  have hx : upperChar x = [x] := upperChar_of_mem (hupper ▸ List.mem_cons_self)
  simp only [capitalize, hupper, List.cons_append, hx, List.nil_append]

theorem capitalize_flatMap_capitalize (pieces : List (List Char)) :
    capitalize (pieces.flatMap capitalize) = pieces.flatMap capitalize := by
  induction pieces with
  | nil => rfl
  | cons piece rest ih =>
    rw [List.flatMap_cons]
    -- An empty part leaves nothing behind, so the next one comes first.
    by_cases hpiece : piece = []
    · subst hpiece
      exact ih
    · exact capitalize_capitalize_append hpiece

/-- Pascal case is kept by a second pass, since it has no dividers and its first letter is a
capital. -/
theorem pascalChars_pascalChars (s : List Char) :
    pascalChars (pascalChars s) = pascalChars s := by
  rw [pascalChars_eq_capitalize fun x hx => isDivider_of_mem_pascalChars hx]
  exact capitalize_flatMap_capitalize _

theorem pascalCase_append_divider {divider : String} (hdivider : divider.toList = [c])
    (hc : isDivider c = true) (first second : String) :
    pascalCase (first ++ divider ++ second) = pascalCase first ++ pascalCase second := by
  simp only [pascalCase, String.toList_append, hdivider, List.append_assoc, List.singleton_append,
    pascalChars_append_cons hc, String.ofList_append]

theorem pascalCase_pascalCase (name : String) : pascalCase (pascalCase name) = pascalCase name := by
  rw [pascalCase, pascalCase, String.toList_ofList, pascalChars_pascalChars]

/-- **Names of accessors.** The first character of a part is put in upper case and dividers are
dropped, so a name may be taken apart at any divider. A name in Pascal case has the accessors of
the name that it comes from. -/
theorem accessorNames_stable (first second name : String) :
    (∀ c rest, (∀ d ∈ c :: rest, isDivider d = false) →
      pascalCase (String.ofList (c :: rest)) = String.ofList (upperChar c ++ rest)) ∧
    pascalCase (first ++ "_" ++ second) = pascalCase first ++ pascalCase second ∧
    pascalCase (first ++ "-" ++ second) = pascalCase first ++ pascalCase second ∧
    '_' ∉ (pascalCase name).toList ∧ '-' ∉ (pascalCase name).toList ∧
    pascalCase (pascalCase name) = pascalCase name ∧
    camelCase (pascalCase name) = camelCase name ∧
    getterName (pascalCase name) = getterName name ∧
    setterName (pascalCase name) = setterName name := by
  have hdividers (c : Char) (hc : isDivider c = true) : c ∉ (pascalCase name).toList := by
    intro hmem
    rw [pascalCase, String.toList_ofList] at hmem
    rw [isDivider_of_mem_pascalChars hmem] at hc
    exact Bool.noConfusion hc
  refine ⟨?_, pascalCase_append_divider rfl rfl first second,
    pascalCase_append_divider rfl rfl first second, hdividers '_' rfl, hdividers '-' rfl,
    pascalCase_pascalCase name, ?_, ?_, ?_⟩
  · intro c rest hpart
    rw [pascalCase, String.toList_ofList, pascalChars_eq_capitalize hpart, capitalize]
  · rw [camelCase, pascalCase, String.toList_ofList, pascalChars_pascalChars, camelCase]
  · rw [getterName, pascalCase_pascalCase, getterName]
  · rw [setterName, pascalCase_pascalCase, setterName]

/-! ## Names of enumeration cases -/

/-- Whether a character is a capital letter of ASCII, a digit or an underscore. -/
def isCaseChar (c : Char) : Bool :=
  ('A' ≤ c && c ≤ 'Z') || isAsciiDigit c || c == '_'

/-- A text of capital letters, digits and underscores. -/
def IsCaseName (name : String) : Prop :=
  ∀ c ∈ name.toList, isCaseChar c = true

/-- Whether a character is neither a letter nor a digit of ASCII. -/
def isSign (c : Char) : Bool :=
  !(isAsciiLetter c || isAsciiDigit c)

/-- Whether two labels differ in nothing but case and signs. -/
def LookAlike (first second : String) : Prop :=
  List.Forall₂ (fun x y => x = y ∨ isSign x = true ∧ isSign y = true)
    (upper first.toList) (upper second.toList)

instance (first second : String) : Decidable (LookAlike first second) :=
  inferInstanceAs (Decidable (List.Forall₂ _ _ _))

/-- What is written for a character of a label in upper case. -/
def caseChar (c : Char) : Char :=
  if isSign c then '_' else c

theorem isAsciiDigit_iff : isAsciiDigit c = true ↔ 0x30 ≤ c.toNat ∧ c.toNat ≤ 0x39 := by
  simp only [isAsciiDigit, Bool.and_eq_true, decide_eq_true_eq, Char.le_def,
    UInt32.le_iff_toNat_le, Char.toNat_val, Char.reduceToNat]

theorem isAsciiLetter_iff : isAsciiLetter c = true ↔
    (0x61 ≤ c.toNat ∧ c.toNat ≤ 0x7a) ∨ (0x41 ≤ c.toNat ∧ c.toNat ≤ 0x5a) := by
  simp only [isAsciiLetter, Bool.or_eq_true, Bool.and_eq_true, decide_eq_true_eq, Char.le_def,
    UInt32.le_iff_toNat_le, Char.toNat_val, Char.reduceToNat]

theorem isCaseChar_iff : isCaseChar c = true ↔
    (0x41 ≤ c.toNat ∧ c.toNat ≤ 0x5a) ∨ (0x30 ≤ c.toNat ∧ c.toNat ≤ 0x39) ∨ c = '_' := by
  simp only [isCaseChar, Bool.or_eq_true, isAsciiDigit_iff, Bool.and_eq_true, decide_eq_true_eq,
    Char.le_def, UInt32.le_iff_toNat_le, Char.toNat_val, Char.reduceToNat, beq_iff_eq, or_assoc]

theorem isAsciiWordChar_of_isCaseChar (h : isCaseChar c = true) : isAsciiWordChar c = true := by
  simp only [isAsciiWordChar, Bool.or_eq_true, isAsciiLetter_iff, isAsciiDigit_iff, beq_iff_eq]
  rcases isCaseChar_iff.1 h with hcode | hcode | hc
  · exact .inl (.inl (.inr hcode))
  · exact .inl (.inr hcode)
  · exact .inr hc

theorem caseChar_of_isSign (h : isSign c = true) : caseChar c = '_' :=
  if_pos h

theorem caseChar_of_not_isSign (h : isSign c = false) : caseChar c = c :=
  if_neg (Bool.eq_false_iff.1 h)

theorem ite_isAsciiWordChar (c : Char) : (if isAsciiWordChar c then c else '_') = caseChar c := by
  cases hsign : isSign c with
  | false =>
    rw [caseChar_of_not_isSign hsign]
    simp only [isSign, Bool.not_eq_false'] at hsign
    rw [isAsciiWordChar, hsign, Bool.true_or, if_pos rfl]
  | true =>
    rw [caseChar_of_isSign hsign]
    simp only [isSign, Bool.not_eq_true'] at hsign
    simp only [isAsciiWordChar, hsign, Bool.false_or, beq_iff_eq]
    split
    · assumption
    · rfl

/-- A sign becomes an underscore, and two characters become one only if they are signs. -/
theorem caseChar_eq_iff {d : Char} :
    caseChar c = caseChar d ↔ c = d ∨ isSign c = true ∧ isSign d = true := by
  have hsign : isSign '_' = true := by decide
  cases hc : isSign c <;> cases hd : isSign d
  · simp [caseChar_of_not_isSign hc, caseChar_of_not_isSign hd]
  · rw [caseChar_of_not_isSign hc, caseChar_of_isSign hd]
    grind
  · rw [caseChar_of_isSign hc, caseChar_of_not_isSign hd]
    grind
  · simp [caseChar_of_isSign hc, caseChar_of_isSign hd]

theorem toList_caseIdentifier (label : String) :
    (caseIdentifier label).toList = (upper label.toList).map caseChar := by
  rw [caseIdentifier, String.toList_ofList]
  simp only [ite_isAsciiWordChar]

/-- Two labels get one name exactly if they look alike. -/
theorem caseIdentifier_eq_iff {first second : String} :
    caseIdentifier first = caseIdentifier second ↔ LookAlike first second := by
  rw [← String.toList_inj, toList_caseIdentifier, toList_caseIdentifier, LookAlike,
    ← List.forall₂_eq_eq_eq, List.forall₂_map_left_iff, List.forall₂_map_right_iff]
  simp only [caseChar_eq_iff]

/-- The upper-case form has no small letters, so what is left of ASCII is what a case name is
made of. -/
theorem isCaseChar_caseChar (hx : x ∈ upperChar c) : isCaseChar (caseChar x) = true := by
  cases hsign : isSign x with
  | true =>
    rw [caseChar_of_isSign hsign]
    rfl
  | false =>
    rw [caseChar_of_not_isSign hsign, isCaseChar_iff]
    simp only [isSign, Bool.not_eq_false', Bool.or_eq_true, isAsciiLetter_iff,
      isAsciiDigit_iff] at hsign
    rcases mem_upperChar_cases hx with ⟨-, hcode⟩ | hcode <;> omega

/-- The name of a case has only capital letters, digits and underscores. -/
theorem isCaseName_caseIdentifier (label : String) : IsCaseName (caseIdentifier label) := by
  intro found hfound
  rw [toList_caseIdentifier] at hfound
  obtain ⟨x, hx, rfl⟩ := List.mem_map.1 hfound
  obtain ⟨c, -, hx⟩ := List.mem_flatMap.1 hx
  exact isCaseChar_caseChar hx

theorem flatMap_eq_self {f : Char → List Char} (h : ∀ c ∈ s, f c = [c]) : s.flatMap f = s := by
  rw [List.flatMap_congr h, List.flatMap_singleton']

theorem caseIdentifier_eq_self {name : String} (h : IsCaseName name) :
    caseIdentifier name = name := by
  have hupper : upper name.toList = name.toList := by
    apply flatMap_eq_self
    intro c hc
    apply upperChar_eq_singleton
    rcases isCaseChar_iff.1 (h c hc) with hcode | hcode | rfl
    · omega
    · omega
    · decide
  have hkept : name.toList.map caseChar = name.toList.map id := by
    apply List.map_congr_left
    intro c hc
    rw [← ite_isAsciiWordChar, if_pos (isAsciiWordChar_of_isCaseChar (h c hc)), id]
  rw [← String.toList_inj, toList_caseIdentifier, hupper, hkept, List.map_id]

theorem caseIdentifier_eq_empty_iff {label : String} : caseIdentifier label = "" ↔ label = "" := by
  rw [← String.toList_inj, ← String.toList_inj, toList_caseIdentifier]
  cases label.toList with
  | nil => simp [upper]
  | cons c rest => simp [upper, upperChar_ne_nil]

/-- Neither upper case nor the underscores make a digit. -/
theorem isAsciiDigit_caseChar (hc : isAsciiDigit c = false) (hx : x ∈ upperChar c) :
    isAsciiDigit (caseChar x) = false := by
  cases hsign : isSign x with
  | true =>
    rw [caseChar_of_isSign hsign]
    rfl
  | false =>
    rw [caseChar_of_not_isSign hsign]
    rcases mem_upperChar_cases hx with ⟨rfl, -⟩ | hcode
    · exact hc
    · rw [Bool.eq_false_iff, ne_eq, isAsciiDigit_iff]
      omega

/-- A label that does not start with a digit gives a legal name. -/
theorem isIdentifier_caseIdentifier {label : String} (hne : label ≠ "")
    (hdigit : label.toList.head?.any isAsciiDigit = false) :
    isIdentifier (caseIdentifier label) = true := by
  have hlist : label.toList ≠ [] := by simpa using hne
  obtain ⟨c, rest, hlabel⟩ := List.exists_cons_of_ne_nil hlist
  obtain ⟨x, tail, hupper⟩ := List.exists_cons_of_ne_nil (upperChar_ne_nil c)
  have hname : (caseIdentifier label).toList = caseChar x :: (tail ++ upper rest).map caseChar := by
    rw [toList_caseIdentifier, hlabel, upper, List.flatMap_cons, hupper]
    rfl
  have hchars := isCaseName_caseIdentifier label
  rw [IsCaseName, hname] at hchars
  rw [isIdentifier, hname, isIdentifierChars, Bool.and_eq_true, Bool.or_eq_true, beq_iff_eq,
    isAsciiLetter_iff, List.all_eq_true]
  constructor
  · have hc : isAsciiDigit c = false := by simpa [hlabel] using hdigit
    have hfirst := isAsciiDigit_caseChar hc (hupper ▸ List.mem_cons_self)
    rw [Bool.eq_false_iff, ne_eq, isAsciiDigit_iff] at hfirst
    rcases isCaseChar_iff.1 (hchars _ List.mem_cons_self) with hcode | hcode | hunderscore
    · exact .inl (.inr hcode)
    · exact absurd hcode hfirst
    · exact .inr hunderscore
  · intro found hfound
    exact isAsciiWordChar_of_isCaseChar (hchars found (List.mem_cons_of_mem _ hfound))

end DomainForge.Naming
