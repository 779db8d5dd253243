import DomainForge.Text.Split
import Mathlib.Data.List.DropRight
import Mathlib.Data.String.Basic

/-!
# Laws of cutting texts

What the cuts of a text give when the text is known to be put together from parts: a needle is
found behind a part without its first character, and nothing is dropped from a part that holds
none of the characters to be dropped.

Three of the cuts are those of the library in other words (`splitWhere_eq_splitOnP`,
`dropTail_eq_rdropWhile`, `joinWith_eq_intercalate`), whose lemmas are used where they reach.
-/

namespace DomainForge.Text

/-! ## The first occurrence of a needle -/

theorem breakOn_cons_pos {needle rest : List Char} {c : Char} (h : needle <+: c :: rest) :
    breakOn needle (c :: rest) = some ([], (c :: rest).drop needle.length) := by
  have hstart : needle.isPrefixOf (c :: rest) = true := List.isPrefixOf_iff_prefix.2 h
  rw [breakOn, if_pos hstart]

theorem breakOn_cons_neg {needle rest : List Char} {c : Char} (h : ¬ needle <+: c :: rest) :
    breakOn needle (c :: rest) =
      (breakOn needle rest).map fun found => (c :: found.1, found.2) := by
  rw [breakOn, if_neg (mt List.isPrefixOf_iff_prefix.1 h)]

theorem mem_breakOn_cons {needle rest : List Char} {c : Char} (h : ¬ needle <+: c :: rest)
    {found : List Char × List Char} (hfound : found ∈ breakOn needle rest) :
    (c :: found.1, found.2) ∈ breakOn needle (c :: rest) := by
  rw [breakOn_cons_neg h, Option.mem_def.1 hfound]
  rfl

/-- A needle that is found starts the text or stands behind its first character. -/
theorem breakOn_cons_eq_some {needle rest before after : List Char} {c : Char}
    (h : breakOn needle (c :: rest) = some (before, after)) :
    (before = [] ∧ c :: rest = needle ++ after) ∨
      (¬ needle <+: c :: rest ∧
        ∃ tail, before = c :: tail ∧ breakOn needle rest = some (tail, after)) := by
  by_cases hstart : needle <+: c :: rest
  · obtain ⟨tail, htail⟩ := hstart
    rw [breakOn_cons_pos ⟨tail, htail⟩, ← htail, List.drop_left] at h
    obtain ⟨rfl, rfl⟩ := Prod.mk.inj (Option.some.inj h)
    exact .inl ⟨rfl, htail.symm⟩
  · rw [breakOn_cons_neg hstart] at h
    obtain ⟨found, hfound, heq⟩ := Option.map_eq_some_iff.1 h
    obtain ⟨rfl, rfl⟩ := Prod.mk.inj heq
    exact .inr ⟨hstart, found.1, rfl, hfound⟩

/-- A needle that is not found is nowhere in the text. -/
theorem breakOn_eq_none_iff {needle s : List Char} : breakOn needle s = none ↔ ¬ needle <:+: s := by
  induction s with
  | nil => cases needle <;> simp [breakOn]
  | cons c rest ih =>
    rw [List.infix_cons_iff, not_or, ← ih]
    by_cases h : needle <+: c :: rest
    · simp [breakOn_cons_pos h, h]
    · simp [breakOn_cons_neg h, h]

theorem breakOn_eq_none {c : Char} {needle s : List Char} (h : c ∉ s) :
    breakOn (c :: needle) s = none :=
  breakOn_eq_none_iff.2 fun hpart => h (hpart.subset List.mem_cons_self)

/-- A needle is found where its first character stands first. -/
theorem breakOn_append {c : Char} {needle s t : List Char} (h : c ∉ s) :
    breakOn (c :: needle) (s ++ (c :: needle ++ t)) = some (s, t) := by
  induction s with
  | nil =>
    rw [List.nil_append, List.cons_append, breakOn_cons_pos ⟨t, rfl⟩]
    simp
  | cons d rest ih =>
    have hd : (c == d) = false := by simpa using List.ne_of_not_mem_cons h
    have hrest : c ∉ rest := List.not_mem_of_not_mem_cons h
    rw [List.cons_append, breakOn, ih hrest]
    simp [List.isPrefixOf, hd]

/-- Before a needle another one can only begin in what stands before its last character. -/
theorem startsBefore_iff {needle : List Char} (hneedle : needle ≠ []) (c : Char)
    (tail after : List Char) :
    needle <+: c :: (tail ++ (needle ++ after)) ↔ needle <+: c :: (tail ++ needle.dropLast) := by
  have hpart : needle.dropLast <+: needle ++ after :=
    needle.dropLast_prefix.trans (needle.prefix_append after)
  have hwhole : c :: (tail ++ needle.dropLast) <+: c :: (tail ++ (needle ++ after)) :=
    List.cons_prefix_cons.2 ⟨rfl, (List.prefix_append_right_inj tail).2 hpart⟩
  refine ⟨fun h => List.prefix_of_prefix_length_le h hwhole ?_, fun h => h.trans hwhole⟩
  have hlength : 0 < needle.length := List.length_pos_iff.2 hneedle
  rw [List.length_cons, List.length_append, List.length_dropLast]
  omega

/-- A needle is found where it stands and has not begun before. -/
theorem breakOn_eq_some_iff {needle s before after : List Char} (hneedle : needle ≠ []) :
    breakOn needle s = some (before, after) ↔
      s = before ++ (needle ++ after) ∧ ¬ needle <:+: before ++ needle.dropLast := by
  induction s generalizing before with
  | nil =>
    have hnil : [] ≠ before ++ (needle ++ after) := by simp [hneedle]
    simp [breakOn, hneedle, hnil]
  | cons c rest ih =>
    constructor
    · intro h
      rcases breakOn_cons_eq_some h with ⟨rfl, hstart⟩ | ⟨hstart, tail, rfl, hrest⟩
      · refine ⟨hstart, fun hshort => ?_⟩
        have hlength : 0 < needle.length := List.length_pos_iff.2 hneedle
        have hle := hshort.length_le
        rw [List.nil_append, List.length_dropLast] at hle
        omega
      · obtain ⟨rfl, htail⟩ := ih.1 hrest
        refine ⟨rfl, ?_⟩
        rw [List.cons_append, List.infix_cons_iff, not_or, ← startsBefore_iff hneedle c tail after]
        exact ⟨hstart, htail⟩
    · rintro ⟨hs, hfirst⟩
      cases before with
      | nil =>
        rw [breakOn_cons_pos ⟨after, hs.symm⟩, hs, List.nil_append, List.drop_left]
      | cons d tail =>
        rw [List.cons_append] at hs
        obtain ⟨rfl, rfl⟩ := List.cons.inj hs
        rw [List.cons_append, List.infix_cons_iff, not_or,
          ← startsBefore_iff hneedle c tail after] at hfirst
        rw [breakOn_cons_neg hfirst.1, ih.2 ⟨rfl, hfirst.2⟩]
        rfl

/-- A needle does not stand before the place where it is found. -/
theorem breakOn_earliest {needle s before after : List Char}
    (h : breakOn needle s = some (before, after)) {start rest : List Char}
    (hs : s = start ++ (needle ++ rest)) : before <+: start := by
  induction s generalizing before start with
  | nil =>
    obtain ⟨-, rfl, -⟩ : needle = [] ∧ [] = before ∧ [] = after := by simpa [breakOn] using h
    exact List.nil_prefix
  | cons c tail ih =>
    rcases breakOn_cons_eq_some h with ⟨rfl, -⟩ | ⟨hstart, found, rfl, hfound⟩
    · exact List.nil_prefix
    · cases start with
      | nil => exact absurd ⟨rest, hs.symm⟩ hstart
      | cons d start =>
        obtain ⟨rfl, rfl⟩ := List.cons.inj hs
        exact List.cons_prefix_cons.2 ⟨rfl, ih hfound rfl⟩

/-! ## Tails -/

theorem dropTail_eq_rdropWhile (p : Char → Bool) (s : List Char) :
    dropTail p s = s.rdropWhile p :=
  rfl

theorem dropTail_eq_self {p : Char → Bool} {s : List Char} (h : ∀ c ∈ s.getLast?, p c = false) :
    dropTail p s = s := by
  rw [dropTail_eq_rdropWhile, List.rdropWhile_eq_self_iff]
  intro hs hp
  rw [h _ (List.getLast_mem_getLast? hs)] at hp
  exact absurd hp Bool.false_ne_true

/-- A character that is kept keeps all that stands before it. -/
theorem dropTail_append_cons {p : Char → Bool} {s t : List Char} {c : Char} (hc : p c = false) :
    dropTail p (s ++ c :: t) = s ++ c :: dropTail p t := by
  have hreverse : (s ++ c :: t).reverse = t.reverse ++ c :: s.reverse := by simp
  unfold dropTail
  rw [hreverse, List.dropWhile_append]
  split
  · rename_i hempty
    rw [List.isEmpty_iff.1 hempty, List.dropWhile_cons_of_neg (by simp [hc])]
    simp
  · simp

theorem dropTail_append {p : Char → Bool} {s t : List Char} (ht : ∀ c ∈ t, p c = true) :
    dropTail p (s ++ t) = dropTail p s := by
  unfold dropTail
  rw [List.reverse_append, List.dropWhile_append_of_pos fun c hc => ht c (List.mem_reverse.1 hc)]

theorem exists_eq_dropTail_append (p : Char → Bool) (s : List Char) :
    ∃ tail, s = dropTail p s ++ tail ∧ ∀ c ∈ tail, p c = true := by
  refine ⟨s.rtakeWhile p, ?_, fun c hc => List.mem_rtakeWhile_imp hc⟩
  rw [dropTail_eq_rdropWhile, List.rdropWhile_append_rtakeWhile]

theorem dropWhile_eq_self {p : Char → Bool} {s : List Char} (h : ∀ c ∈ s.head?, p c = false) :
    s.dropWhile p = s := by
  cases s with
  | nil => rfl
  | cons c rest => exact List.dropWhile_cons_of_neg (by simp [h c rfl])

theorem mem_of_mem_dropTail {p : Char → Bool} {s : List Char} {c : Char} (h : c ∈ dropTail p s) :
    c ∈ s := by
  have hpart : dropTail p s <+: s := List.rdropWhile_prefix p s
  exact hpart.subset h

theorem mem_of_mem_trimWhere {p : Char → Bool} {s : List Char} {c : Char}
    (h : c ∈ trimWhere p s) : c ∈ s :=
  (List.dropWhile_sublist p).subset (mem_of_mem_dropTail h)

theorem head?_dropWhile {p : Char → Bool} {s : List Char} :
    ∀ c ∈ (s.dropWhile p).head?, p c = false := by
  intro c hc
  have hnot := List.head?_dropWhile_not p s
  rw [Option.mem_def.1 hc] at hnot
  exact hnot

theorem getLast?_dropTail {p : Char → Bool} {s : List Char} :
    ∀ c ∈ (dropTail p s).getLast?, p c = false := by
  intro c hc
  rw [dropTail, List.getLast?_reverse] at hc
  exact head?_dropWhile c hc

/-! ## Trimmed texts -/

/-- A text with no character of a class at either end. -/
structure IsTrimmed (p : Char → Bool) (s : List Char) : Prop where
  head : ∀ c ∈ s.head?, p c = false
  last : ∀ c ∈ s.getLast?, p c = false

theorem IsTrimmed.trimWhere_eq {p : Char → Bool} {s : List Char} (h : IsTrimmed p s) :
    trimWhere p s = s := by
  rw [trimWhere, dropWhile_eq_self h.head, dropTail_eq_self h.last]

theorem isTrimmed_trimWhere (p : Char → Bool) (s : List Char) : IsTrimmed p (trimWhere p s) where
  head := by
    intro c hc
    obtain ⟨rest, hrest⟩ : trimWhere p s <+: s.dropWhile p := List.rdropWhile_prefix p _
    refine head?_dropWhile c (s := s) ?_
    rw [← hrest, List.head?_append, Option.mem_def.1 hc]
    rfl
  last := getLast?_dropTail

theorem isTrimmed_iff {p : Char → Bool} {s : List Char} : IsTrimmed p s ↔ trimWhere p s = s :=
  ⟨IsTrimmed.trimWhere_eq, fun h => h ▸ isTrimmed_trimWhere p s⟩

theorem isTrimmed_of_forall {p : Char → Bool} {s : List Char} (h : ∀ c ∈ s, p c = false) :
    IsTrimmed p s :=
  ⟨fun c hc => h c (List.mem_of_head? hc), fun c hc => h c (List.mem_of_getLast? hc)⟩

theorem toList_joinWith_cons (separator first : String) (rest : List String) :
    ∃ tail, (joinWith separator (first :: rest)).toList = first.toList ++ tail := by
  cases rest with
  | nil => exact ⟨[], by simp [joinWith]⟩
  | cons second others =>
    exact ⟨separator.toList ++ (joinWith separator (second :: others)).toList, by simp [joinWith]⟩

theorem mem_joinWith {separator : String} {pieces : List String} {c : Char}
    (h : c ∈ (joinWith separator pieces).toList) :
    c ∈ separator.toList ∨ ∃ piece ∈ pieces, c ∈ piece.toList := by
  induction pieces with
  | nil => simp [joinWith] at h
  | cons first rest ih =>
    cases rest with
    | nil => exact .inr ⟨first, List.mem_singleton_self first, h⟩
    | cons second others =>
      simp only [joinWith, String.toList_append, List.mem_append] at h ih
      rcases h with (h | h) | h
      · exact .inr ⟨first, List.mem_cons_self, h⟩
      · exact .inl h
      · exact (ih h).imp_right fun ⟨piece, hpiece, hc⟩ =>
          ⟨piece, List.mem_cons_of_mem first hpiece, hc⟩

/-- Texts that are joined keep their ends. -/
theorem isTrimmed_joinWith {p : Char → Bool} {separator : String} {pieces : List String}
    (hne : ∀ piece ∈ pieces, piece ≠ "") (hends : ∀ piece ∈ pieces, IsTrimmed p piece.toList) :
    IsTrimmed p (joinWith separator pieces).toList := by
  induction pieces with
  | nil => exact isTrimmed_of_forall (by simp [joinWith])
  | cons first rest ih =>
    have hnil : ∀ piece ∈ first :: rest, piece.toList ≠ [] := by
      intro piece hpiece hempty
      exact hne piece hpiece (String.toList_injective (hempty.trans rfl))
    refine ⟨?_, ?_⟩
    · obtain ⟨tail, htail⟩ := toList_joinWith_cons separator first rest
      rw [htail, List.head?_append_of_ne_nil _ (hnil first List.mem_cons_self)]
      exact (hends first List.mem_cons_self).head
    · cases rest with
      | nil => exact (hends first List.mem_cons_self).last
      | cons second others =>
        have hlast := (ih (fun piece h => hne piece (List.mem_cons_of_mem _ h))
          (fun piece h => hends piece (List.mem_cons_of_mem _ h))).last
        obtain ⟨tail, htail⟩ := toList_joinWith_cons separator second others
        have hsome : (joinWith separator (second :: others)).toList ≠ [] := by
          rw [htail]
          exact List.append_ne_nil_of_left_ne_nil
            (hnil second (List.mem_cons_of_mem _ List.mem_cons_self)) tail
        have hjoin : (joinWith separator (first :: second :: others)).toList =
            (first ++ separator).toList ++ (joinWith separator (second :: others)).toList := by
          simp [joinWith]
        rwa [hjoin, List.getLast?_append_of_ne_nil _ hsome]

/-- What is trimmed may stand at the ends of a text. -/
theorem trimWhere_append {p : Char → Bool} {before s after : List Char}
    (hbefore : ∀ c ∈ before, p c = true) (hafter : ∀ c ∈ after, p c = true) :
    trimWhere p (before ++ s ++ after) = trimWhere p s := by
  unfold trimWhere
  rw [List.append_assoc, List.dropWhile_append_of_pos hbefore, List.dropWhile_append]
  split
  · rename_i hempty
    rw [List.isEmpty_iff.1 hempty, List.dropWhile_eq_nil_iff.2 hafter]
  · exact dropTail_append hafter

/-- Trimming the end first changes nothing. -/
theorem trimWhere_dropTail (p : Char → Bool) (s : List Char) :
    trimWhere p (dropTail p s) = trimWhere p s := by
  obtain ⟨tail, hsplit, htail⟩ := exists_eq_dropTail_append p s
  conv_rhs => rw [hsplit, ← List.nil_append (dropTail p s)]
  exact (trimWhere_append (by simp) htail).symm

/-! ## Pieces -/

theorem splitWhere_eq_splitOnP (p : Char → Bool) (s : List Char) :
    splitWhere p s = s.splitOnP p := by
  induction s with
  | nil => rfl
  | cons c rest ih =>
    rw [splitWhere, List.splitOnP_cons_eq_if_modifyHead, ih]
    split
    · rfl
    · obtain ⟨piece, pieces, hpieces⟩ := List.exists_cons_of_ne_nil (List.splitOnP_ne_nil p rest)
      rw [hpieces]
      rfl

theorem splitWhere_ne_nil (p : Char → Bool) (s : List Char) : splitWhere p s ≠ [] := by
  rw [splitWhere_eq_splitOnP]
  exact List.splitOnP_ne_nil p s

/-- A text is cut where a character of the class stands. -/
theorem splitWhere_append_cons {p : Char → Bool} {s t : List Char} {c : Char} (hc : p c = true) :
    splitWhere p (s ++ c :: t) = splitWhere p s ++ splitWhere p t := by
  simp only [splitWhere_eq_splitOnP, List.splitOnP_append_cons s t hc]

/-- A text without a character of the class is one piece. -/
theorem splitWhere_eq_singleton {p : Char → Bool} {s : List Char} (h : ∀ c ∈ s, p c = false) :
    splitWhere p s = [s] := by
  rw [splitWhere_eq_splitOnP, List.splitOnP_eq_singleton h]

/-- What is added behind a text, without a character of the class, lengthens its last piece. -/
theorem exists_splitWhere_append {p : Char → Bool} (s : List Char) {t : List Char}
    (ht : ∀ c ∈ t, p c = false) :
    ∃ last, splitWhere p (s ++ t) = (splitWhere p s).dropLast ++ [last ++ t] := by
  induction s with
  | nil => exact ⟨[], splitWhere_eq_singleton ht⟩
  | cons c rest ih =>
    obtain ⟨last, hlast⟩ := ih
    obtain ⟨piece, pieces, hpieces⟩ := List.exists_cons_of_ne_nil (splitWhere_ne_nil p rest)
    rw [List.cons_append, splitWhere, splitWhere, hlast, hpieces]
    split
    · exact ⟨last, rfl⟩
    · cases pieces with
      | nil => exact ⟨c :: last, rfl⟩
      | cons second others => exact ⟨last, rfl⟩

/-- No piece holds a character of the class. -/
theorem not_of_mem_splitWhere {p : Char → Bool} {s piece : List Char}
    (hpiece : piece ∈ splitWhere p s) : ∀ c ∈ piece, p c = false := by
  induction s generalizing piece with
  | nil =>
    obtain rfl : piece = [] := by simpa [splitWhere] using hpiece
    simp
  | cons d rest ih =>
    obtain ⟨first, others, hsplit⟩ := List.exists_cons_of_ne_nil (splitWhere_ne_nil p rest)
    simp only [splitWhere, hsplit] at hpiece ih
    split at hpiece
    · rcases List.mem_cons.1 hpiece with rfl | hpiece
      · simp
      · exact ih hpiece
    · rename_i hd
      rcases List.mem_cons.1 hpiece with rfl | hpiece
      · intro c hc
        rcases List.mem_cons.1 hc with rfl | hc
        · simpa using hd
        · exact ih List.mem_cons_self c hc
      · exact ih (List.mem_cons_of_mem first hpiece)

/-- A text is its first piece, or its first piece and what stands behind the cut. -/
theorem cases_of_splitWhere_eq_cons {p : Char → Bool} {s first : List Char}
    {others : List (List Char)} (h : splitWhere p s = first :: others) :
    (s = first ∧ others = []) ∨
      ∃ c rest, p c = true ∧ s = first ++ c :: rest ∧ splitWhere p rest = others := by
  induction s generalizing first with
  | nil =>
    obtain ⟨rfl, rfl⟩ := List.cons.inj h
    exact .inl ⟨rfl, rfl⟩
  | cons d rest ih =>
    rw [splitWhere] at h
    by_cases hd : p d = true
    · rw [if_pos hd] at h
      obtain ⟨rfl, rfl⟩ := List.cons.inj h
      exact .inr ⟨d, rest, hd, rfl, rfl⟩
    · rw [if_neg hd] at h
      obtain ⟨piece, pieces, hpieces⟩ := List.exists_cons_of_ne_nil (splitWhere_ne_nil p rest)
      rw [hpieces] at h
      obtain ⟨rfl, rfl⟩ := List.cons.inj h
      rcases ih hpieces with ⟨rfl, rfl⟩ | ⟨c, after, hc, rfl, hafter⟩
      · exact .inl ⟨rfl, rfl⟩
      · exact .inr ⟨c, after, hc, rfl, hafter⟩

/-! ## Joined texts -/

theorem joinWith_eq_intercalate (separator : String) (pieces : List String) :
    joinWith separator pieces = separator.intercalate pieces := by
  induction pieces with
  | nil => simp [joinWith]
  | cons first rest ih =>
    cases rest with
    | nil => simp [joinWith]
    | cons second others =>
      have hjoin : joinWith separator (first :: second :: others) =
          first ++ separator ++ joinWith separator (second :: others) := rfl
      rw [hjoin, ih, String.intercalate_cons_cons]

theorem joinWith_append {separator : String} {first rest : List String} (hfirst : first ≠ [])
    (hrest : rest ≠ []) :
    joinWith separator (first ++ rest) =
      joinWith separator first ++ separator ++ joinWith separator rest := by
  simp only [joinWith_eq_intercalate, String.intercalate_append_of_ne_nil hfirst hrest]

theorem joinWith_concat (separator : String) (pieces : List String) (last : String) :
    joinWith separator (pieces ++ [last]) =
      (if pieces = [] then "" else joinWith separator pieces ++ separator) ++ last := by
  by_cases hnil : pieces = []
  · simp [hnil, joinWith]
  · rw [if_neg hnil, joinWith_append hnil (List.cons_ne_nil last [])]
    rfl

theorem joinWith_ne_empty {separator : String} {pieces : List String} (hnil : pieces ≠ [])
    (hne : ∀ piece ∈ pieces, piece ≠ "") : joinWith separator pieces ≠ "" := by
  obtain ⟨first, rest, rfl⟩ := List.exists_cons_of_ne_nil hnil
  obtain ⟨tail, htail⟩ := toList_joinWith_cons separator first rest
  intro hempty
  rw [hempty] at htail
  have hfirst : first.toList = [] := (List.append_eq_nil_iff.1 htail.symm).1
  exact hne first List.mem_cons_self (String.toList_injective hfirst)

theorem fields_eq_singleton {p : Char → Bool} {s : String} (h : ∀ c ∈ s.toList, p c = false) :
    fields p s = [s] := by
  rw [fields, splitWhere_eq_singleton h, List.map_singleton, String.ofList_toList]

theorem flatMap_fields_eq_self {p : Char → Bool} {pieces : List String}
    (h : ∀ piece ∈ pieces, ∀ c ∈ piece.toList, p c = false) :
    pieces.flatMap (fields p) = pieces := by
  have hsingle : pieces.flatMap (fields p) = pieces.flatMap fun piece => [piece] :=
    List.flatMap_congr fun piece hpiece => fields_eq_singleton (h piece hpiece)
  rw [hsingle, List.flatMap_singleton']

/-- A text whose pieces are joined has the separator in place of the characters of the class. -/
theorem toList_joinWith_fields (p : Char → Bool) (separator s : String) :
    (joinWith separator (fields p s)).toList =
      s.toList.flatMap fun c => if p c then separator.toList else [c] := by
  have hcons : ∀ (c : Char) (piece : List Char) (rest : List String),
      (joinWith separator (String.ofList (c :: piece) :: rest)).toList =
        c :: (joinWith separator (String.ofList piece :: rest)).toList := by
    intro c piece rest
    cases rest <;> simp [joinWith]
  rw [fields]
  induction s.toList with
  | nil => simp [splitWhere, joinWith]
  | cons c rest ih =>
    obtain ⟨piece, pieces, hpieces⟩ := List.exists_cons_of_ne_nil (splitWhere_ne_nil p rest)
    rw [List.flatMap_cons, ← ih, splitWhere, hpieces]
    by_cases hc : p c
    · simp [hc, joinWith]
    · rw [if_neg hc, if_neg hc, List.map_cons, List.map_cons, hcons]
      rfl

section Separator

variable {separator : String} {c : Char} (hseparator : separator.toList = [c])

include hseparator

/-- A separator cuts a text into the fields on both sides. -/
theorem fields_append {p : Char → Bool} (hc : p c = true) (first rest : String) :
    fields p (first ++ separator ++ rest) = fields p first ++ fields p rest := by
  have htext : (first ++ separator ++ rest).toList = first.toList ++ c :: rest.toList := by
    simp [hseparator]
  rw [fields, htext, splitWhere_append_cons hc, List.map_append]
  rfl

/-- The pieces of joined texts are the pieces of each. -/
theorem fields_joinWith {p : Char → Bool} (hc : p c = true) {pieces : List String}
    (hne : pieces ≠ []) : fields p (joinWith separator pieces) = pieces.flatMap (fields p) := by
  induction pieces with
  | nil => exact absurd rfl hne
  | cons first rest ih =>
    cases rest with
    | nil => simp [joinWith]
    | cons second others =>
      have hjoin : joinWith separator (first :: second :: others) =
          first ++ separator ++ joinWith separator (second :: others) := rfl
      rw [hjoin, fields_append hseparator hc, ih (List.cons_ne_nil second others)]
      rfl

end Separator

/-! ## Lines -/

/-- Lines that are ended each are split again, with an empty one behind. -/
theorem splitWhere_flatMap_append {p : Char → Bool} {c : Char} (hc : p c = true)
    (found : List (List Char)) (h : ∀ line ∈ found, ∀ d ∈ line, p d = false) :
    splitWhere p (found.flatMap (· ++ [c])) = found ++ [[]] := by
  induction found with
  | nil => rfl
  | cons line rest ih =>
    have hrest := ih fun other hother => h other (List.mem_cons_of_mem line hother)
    rw [List.flatMap_cons, List.append_assoc, List.singleton_append, splitWhere_append_cons hc,
      splitWhere_eq_singleton (h line List.mem_cons_self), hrest]
    rfl

theorem toList_unlines (texts : List String) :
    (unlines texts).toList = (texts.map String.toList).flatMap (· ++ ['\n']) := by
  induction texts with
  | nil => rfl
  | cons text rest ih =>
    have hcons : unlines (text :: rest) = text ++ "\n" ++ unlines rest := rfl
    rw [hcons, String.toList_append, String.toList_append, ih]
    rfl

theorem unlines_append (before after : List String) :
    unlines (before ++ after) = unlines before ++ unlines after := by
  rw [← String.toList_inj]
  simp [toList_unlines]

/-- Lines that are written one after another are read back. -/
theorem lines_flatMap_append {found : List (List Char)}
    (h : ∀ line ∈ found, '\n' ∉ line ∧ line.getLast? ≠ some '\r') :
    lines (found.flatMap (· ++ ['\n'])) = found := by
  have hsplit := splitWhere_flatMap_append (p := (· == '\n')) (c := '\n') rfl found
    fun line hline d hd => beq_eq_false_iff_ne.2 fun heq => (h line hline).1 (heq ▸ hd)
  have hreturn : found.map dropReturn = found := by
    refine (List.map_congr_left fun line hline => ?_).trans found.map_id
    exact if_neg (h line hline).2
  simp [lines, hsplit, hreturn]

end DomainForge.Text
