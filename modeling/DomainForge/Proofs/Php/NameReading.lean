import DomainForge.Naming
import DomainForge.Php.Reference
import DomainForge.Proofs.Imports
import DomainForge.Proofs.Text.Words

/-!
# Reading names

What a class name in a file stands for. A name with a leading backslash is full already; of any
other name the first part is looked for among the short names that the `use` statements bind, and
a part that none of them binds is a name of the file's own namespace.

Names are compared as texts. PHP takes class names that differ only in the case of letters for one
name, so `Order` and `ORDER`, which are two names here, are one there. What is said of a name is
therefore right as long as no other name of its file differs from it only in case.

`use` statements are read as they are written (`Use.read`). For words, that is names of letters,
digits and underscores, reading gives back what was imported (`Use.read_qualify`,
`Use.read_written`).
-/

namespace DomainForge

namespace Naming

theorem isWord_of_isIdentifier {name : String} (h : isIdentifier name = true) :
    Text.IsWord name := by
  intro c hc
  unfold isIdentifier at h
  cases hchars : name.toList with
  | nil => rw [hchars] at hc; exact absurd hc List.not_mem_nil
  | cons first rest =>
    rw [hchars] at h hc
    simp only [isIdentifierChars, Bool.and_eq_true, List.all_eq_true] at h
    rcases List.mem_cons.1 hc with rfl | hc
    · have hfirst := h.1
      simp only [Bool.or_eq_true] at hfirst
      simp only [Text.isAsciiWordChar, Bool.or_eq_true]
      rcases hfirst with hfirst | hfirst
      · exact .inl (.inl hfirst)
      · exact .inr hfirst
    · exact h.2 c hc

end Naming

namespace Php

/-- Whether a character belongs to a part of a name. -/
def isPartChar (c : Char) : Bool :=
  !isBackslash c

/-- A `use` statement as it is read. -/
structure Use where
  /-- The full name that it imports. -/
  fullName : String
  /-- The short name that it binds, as it is spelt. PHP binds it in every case of its letters. -/
  boundName : String
deriving Repr, DecidableEq

namespace Use

/-- Reads what a `use` statement imports. The last part of the name is bound, or the word after
`as` if there is one. -/
def read (statement : String) : Use :=
  let stem := statement.toList.rdropWhile isPartChar
  let symbol := statement.toList.rtakeWhile isPartChar
  match Text.breakOn " as ".toList symbol with
  | some (name, newName) =>
    { fullName := String.ofList (stem ++ name), boundName := String.ofList newName }
  | none => { fullName := statement, boundName := String.ofList symbol }

/-- The namespace that a symbol is imported from. -/
def namespaceName (use : Use) : String :=
  String.ofList (use.fullName.toList.rdropWhile isPartChar).dropLast

end Use

/-- The full name that a class name stands for in a file of the given namespace, unless its first
part is bound twice. A name is looked for as it is spelt, while PHP ignores case. -/
def readName (uses : List Use) (namespaceName name : String) : Option String :=
  match name.toList with
  | '\\' :: full => some (String.ofList full)
  | chars =>
    let first := String.ofList (chars.takeWhile isPartChar)
    let rest := String.ofList (chars.dropWhile isPartChar)
    match uses.filter (·.boundName == first) with
    | [] => some (Imports.qualify namespaceName name)
    | [use] => some (use.fullName ++ rest)
    | _ => none

end Php

/-- The `use` statements of imports, as they are read. -/
def Imports.uses (imports : Imports) : List Php.Use :=
  imports.statements.map Php.Use.read

namespace Php

/-! ## The parts of a full name -/

theorem isPartChar_of_ne {c : Char} (h : c ≠ '\\') : isPartChar c = true := by
  simpa [isPartChar, isBackslash] using h

theorem forall_isPartChar {s : List Char} (h : '\\' ∉ s) : ∀ c ∈ s, isPartChar c = true :=
  fun _ hc => isPartChar_of_ne fun heq => h (heq ▸ hc)

/-- The namespace of a full name with the backslash behind it. -/
def stemOf (namespaceName : String) : List Char :=
  if namespaceName = "" then [] else namespaceName.toList ++ ['\\']

theorem toList_qualify (namespaceName name : String) :
    (Imports.qualify namespaceName name).toList = stemOf namespaceName ++ name.toList := by
  unfold Imports.qualify stemOf
  split <;> simp

/-- The last part of a full name is the name. -/
theorem rtakeWhile_qualify (namespaceName : String) {name : String} (h : '\\' ∉ name.toList) :
    (Imports.qualify namespaceName name).toList.rtakeWhile isPartChar = name.toList := by
  have hpart : ∀ c ∈ name.toList.reverse, isPartChar c = true :=
    fun c hc => forall_isPartChar h c (List.mem_reverse.1 hc)
  rw [toList_qualify]
  unfold List.rtakeWhile stemOf
  rw [List.reverse_append, List.takeWhile_append_of_pos hpart]
  split <;> simp [isPartChar, isBackslash]

/-- What stands before the last part is the namespace. -/
theorem rdropWhile_qualify (namespaceName : String) {name : String} (h : '\\' ∉ name.toList) :
    (Imports.qualify namespaceName name).toList.rdropWhile isPartChar = stemOf namespaceName := by
  have hsplit : (Imports.qualify namespaceName name).toList.rdropWhile isPartChar ++ name.toList =
      stemOf namespaceName ++ name.toList := by
    rw [← rtakeWhile_qualify namespaceName h, List.rdropWhile_append_rtakeWhile,
      rtakeWhile_qualify namespaceName h, toList_qualify]
  exact List.append_cancel_right hsplit

/-- A full name tells its namespace and its last part. -/
theorem qualify_inj {namespaceName name otherNamespace other : String} (hname : '\\' ∉ name.toList)
    (hother : '\\' ∉ other.toList)
    (h : Imports.qualify namespaceName name = Imports.qualify otherNamespace other) :
    namespaceName = otherNamespace ∧ name = other := by
  have hlast : name.toList = other.toList := by
    rw [← rtakeWhile_qualify namespaceName hname, h, rtakeWhile_qualify otherNamespace hother]
  have hstem : stemOf namespaceName = stemOf otherNamespace := by
    rw [← rdropWhile_qualify namespaceName hname, h, rdropWhile_qualify otherNamespace hother]
  refine ⟨?_, String.toList_injective hlast⟩
  unfold stemOf at hstem
  split at hstem <;> split at hstem
  · simp_all
  · exact absurd hstem.symm (by simp)
  · exact absurd hstem (by simp)
  · exact String.toList_injective (List.append_cancel_right hstem)

namespace Use

/-! ## Statements -/

/-- A word that is imported under its own name is read as such. -/
theorem read_qualify {namespaceName name : String} (h : Text.IsWord name) :
    read (Imports.qualify namespaceName name) =
      { fullName := Imports.qualify namespaceName name, boundName := name } := by
  have hslash : '\\' ∉ name.toList := h.not_mem (by decide)
  have hblank : ' ' ∉ name.toList := h.not_mem (by decide)
  have hbreak : Text.breakOn " as ".toList name.toList = none := Text.breakOn_eq_none hblank
  simp only [read, rtakeWhile_qualify namespaceName hslash, hbreak, String.ofList_toList]

/-- A word that is imported under another name is read as such. -/
theorem read_written {namespaceName symbol newName : String} (hsymbol : Text.IsWord symbol)
    (hnew : Text.IsWord newName) :
    read (Imports.qualify namespaceName (symbol ++ " as " ++ newName)) =
      { fullName := Imports.qualify namespaceName symbol, boundName := newName } := by
  have hblank : ' ' ∉ symbol.toList := hsymbol.not_mem (by decide)
  have htext : (symbol ++ " as " ++ newName).toList =
      symbol.toList ++ (" as ".toList ++ newName.toList) := by simp
  have hslash : '\\' ∉ (symbol ++ " as " ++ newName).toList := by
    rw [htext]
    simp only [List.mem_append, not_or]
    exact ⟨hsymbol.not_mem (by decide), by decide, hnew.not_mem (by decide)⟩
  have hbreak : Text.breakOn " as ".toList (symbol ++ " as " ++ newName).toList =
      some (symbol.toList, newName.toList) := by
    rw [htext]
    exact Text.breakOn_append hblank
  simp only [read, rtakeWhile_qualify namespaceName hslash,
    rdropWhile_qualify namespaceName hslash, hbreak, String.ofList_toList, ← toList_qualify]

theorem namespaceName_eq {use : Use} {namespaceName name : String} (h : Text.IsWord name)
    (hfull : use.fullName = Imports.qualify namespaceName name) :
    use.namespaceName = namespaceName := by
  have hslash : '\\' ∉ name.toList := h.not_mem (by decide)
  unfold Use.namespaceName
  rw [hfull, rdropWhile_qualify namespaceName hslash]
  unfold stemOf
  split
  · rename_i hempty
    rw [hempty]
    rfl
  · simp

end Use

/-! ## Names in a file -/

theorem toList_fullName (namespaceName name : String) :
    (References.fullName namespaceName name).toList =
      '\\' :: (Imports.qualify namespaceName name).toList := by
  unfold References.fullName Imports.qualify
  split <;> simp

/-- A full name stands for itself, whatever is imported. -/
theorem readName_fullName (uses : List Use) (namespaceName otherNamespace name : String) :
    readName uses namespaceName (References.fullName otherNamespace name) =
      some (Imports.qualify otherNamespace name) := by
  unfold readName
  rw [toList_fullName]
  simp

/-- A word is looked for as a whole among the names that are bound. -/
theorem readName_word {uses : List Use} {namespaceName name : String} (h : Text.IsWord name) :
    readName uses namespaceName name =
      match uses.filter (·.boundName == name) with
      | [] => some (Imports.qualify namespaceName name)
      | [use] => some use.fullName
      | _ => none := by
  have hslash : '\\' ∉ name.toList := h.not_mem (by decide)
  have hpart : ∀ c ∈ name.toList, isPartChar c = true := forall_isPartChar hslash
  have htake : name.toList.takeWhile isPartChar = name.toList := List.takeWhile_eq_self_iff.2 hpart
  have hdrop : name.toList.dropWhile isPartChar = [] := List.dropWhile_eq_nil_iff.2 hpart
  unfold readName
  split
  · rename_i full hfull
    rw [hfull] at hslash
    exact absurd List.mem_cons_self hslash
  · simp only [htake, hdrop, String.ofList_toList]
    split <;> simp_all

end Php

/-- A statement among imports is the only one to bind a name. -/
def Imports.BindsOnly (imports : Imports) (name statement : String) : Prop :=
  statement ∈ imports.statements ∧ (Php.Use.read statement).boundName = name ∧
    ∀ other ∈ imports.statements, (Php.Use.read other).boundName = name → other = statement

namespace Php

/-- What a word stands for: what the only statement that binds it imports, or a symbol of the
file's own namespace if no statement binds it. -/
theorem readName_eq_some_iff {imports : Imports} {namespaceName name full : String}
    (h : Text.IsWord name) :
    readName imports.uses namespaceName name = some full ↔
      ((∀ statement ∈ imports.statements, (Use.read statement).boundName ≠ name) ∧
          full = Imports.qualify namespaceName name) ∨
        ∃ statement, imports.BindsOnly name statement ∧ full = (Use.read statement).fullName := by
  have hmem : ∀ statement, statement ∈ imports.statements.filter
      (fun statement => (Use.read statement).boundName == name) ↔
        statement ∈ imports.statements ∧ (Use.read statement).boundName = name := by
    intro statement
    simp
  have hnodup := imports.nodup_statements.filter
    (fun statement => (Use.read statement).boundName == name)
  have hfilter : imports.uses.filter (·.boundName == name) =
      (imports.statements.filter
        (fun statement => (Use.read statement).boundName == name)).map Use.read := by
    rw [Imports.uses, List.filter_map]
    rfl
  rw [readName_word h, hfilter]
  generalize imports.statements.filter
    (fun statement => (Use.read statement).boundName == name) = found at hmem hnodup
  unfold Imports.BindsOnly
  rcases found with _ | ⟨first, _ | ⟨second, rest⟩⟩
  · have hnone : ∀ statement ∈ imports.statements, (Use.read statement).boundName ≠ name :=
      fun statement hs hb => absurd ((hmem statement).2 ⟨hs, hb⟩) List.not_mem_nil
    constructor
    · intro hfull
      exact .inl ⟨hnone, (Option.some.inj hfull).symm⟩
    · rintro (⟨-, rfl⟩ | ⟨statement, ⟨hs, hb, -⟩, -⟩)
      · rfl
      · exact absurd hb (hnone statement hs)
  · obtain ⟨hs, hb⟩ := (hmem first).1 List.mem_cons_self
    have honly : ∀ other ∈ imports.statements, (Use.read other).boundName = name → other = first :=
      fun other ho hob => List.mem_singleton.1 ((hmem other).2 ⟨ho, hob⟩)
    constructor
    · intro hfull
      exact .inr ⟨first, ⟨hs, hb, honly⟩, (Option.some.inj hfull).symm⟩
    · rintro (⟨hnone, -⟩ | ⟨statement, ⟨hs', hb', -⟩, rfl⟩)
      · exact absurd hb (hnone first hs)
      · rw [honly statement hs' hb']
        rfl
  · obtain ⟨hs, hb⟩ := (hmem first).1 List.mem_cons_self
    obtain ⟨hs', hb'⟩ := (hmem second).1 (List.mem_cons_of_mem _ List.mem_cons_self)
    have hne : first ≠ second := fun heq =>
      (List.nodup_cons.1 hnodup).1 (heq ▸ List.mem_cons_self)
    constructor
    · intro hfull
      exact absurd hfull (by simp)
    · rintro (⟨hnone, -⟩ | ⟨statement, ⟨-, -, honly⟩, -⟩)
      · exact absurd hb (hnone first hs)
      · exact absurd ((honly first hs hb).trans (honly second hs' hb').symm) hne

end Php

end DomainForge
