import DomainForge.Text.Blank
import DomainForge.Text.WordClass
import DomainForge.Proofs.Text.Cuts
import Mathlib.Data.List.Infix

/-!
# Laws of blanks and words

Blanks around a text are trimmed, and blanks between its words divide them. The words of a text
that is put together from parts with blanks between them are the words of the parts
(`words_append_cons`), and blanks at its ends do not count (`words_trim`). Conversely each word of a
text stands in it between blanks (`exists_of_words_eq_append_cons`), and a piece without blanks
stands in one of its words (`exists_infix_word`). A text of ASCII letters, digits and underscores
holds no blank and no other sign (`IsWord`).
-/

namespace DomainForge.Text

/-! ## Plain words -/

/-- A text of ASCII letters, digits and underscores. -/
def IsWord (name : String) : Prop :=
  ∀ c ∈ name.toList, isAsciiWordChar c = true

instance (name : String) : Decidable (IsWord name) :=
  List.decidableBAll (isAsciiWordChar · = true) name.toList

/-- A character that no word holds. -/
theorem IsWord.not_mem {name : String} (h : IsWord name) {c : Char}
    (hc : isAsciiWordChar c = false) : c ∉ name.toList := by
  intro hmem
  rw [h c hmem] at hc
  exact absurd hc.symm Bool.false_ne_true

theorem isBlank_of_isAsciiWordChar {c : Char} (h : isAsciiWordChar c = true) :
    isBlank c = false := by
  simp only [isAsciiWordChar, isAsciiLetter, isAsciiDigit, Bool.or_eq_true, Bool.and_eq_true,
    decide_eq_true_eq, beq_iff_eq, Char.le_def, UInt32.le_iff_toNat_le, Char.toNat_val,
    Char.reduceToNat] at h
  have hcode : 48 ≤ c.toNat ∧ c.toNat ≤ 122 := by
    rcases h with h | rfl
    · omega
    · decide
  -- the only blanks below 133 are the space and what stands before it
  rw [Bool.eq_false_iff]
  intro hblank
  simp only [isBlank, inRanges, blankRanges, List.any_cons, List.any_nil, Bool.or_eq_true,
    Bool.and_eq_true, decide_eq_true_eq, Bool.or_false] at hblank
  omega

/-- No code point lies in two tables whose ranges are apart. -/
theorem inRanges_eq_false_of_apart {ranges others : List (Nat × Nat)}
    (hapart : (ranges.all fun range => others.all fun other =>
      range.2 < other.1 || other.2 < range.1) = true)
    {code : Nat} (hcode : inRanges ranges code = true) : inRanges others code = false := by
  obtain ⟨range, hrange, hin⟩ := List.any_eq_true.1 hcode
  refine List.any_eq_false.2 fun other hother => ?_
  have hpair := List.all_eq_true.1 (List.all_eq_true.1 hapart range hrange) other hother
  simp only [Bool.or_eq_true, Bool.and_eq_true, decide_eq_true_eq] at hpair hin ⊢
  omega

/-- A blank ends a word, in every script. -/
theorem isWordChar_of_isBlank {c : Char} (h : isBlank c = true) : isWordChar c = false := by
  have hletter : isLetter c = false := inRanges_eq_false_of_apart (by decide +kernel) h
  have hdigit : isDecimalDigit c = false := inRanges_eq_false_of_apart (by decide +kernel) h
  have hmark : inRanges WordClass.markRanges c.toNat = false :=
    inRanges_eq_false_of_apart (by decide +kernel) h
  rw [isWordChar, hletter, hdigit, hmark]
  rfl

/-! ## Trimming -/

/-- Indentation is trimmed. -/
theorem trim_append {before s : List Char} (hbefore : ∀ c ∈ before, isBlank c = true)
    (hs : trim s = s) : trim (before ++ s) = s := by
  have hpadded : trimWhere isBlank (before ++ s ++ []) = trimWhere isBlank s :=
    trimWhere_append hbefore (by simp)
  rw [List.append_nil] at hpadded
  exact hpadded.trans hs

theorem trim_toList {s : String} (h : trimmed s = s) : trim s.toList = s.toList := by
  rw [← String.toList_ofList (l := trim s.toList)]
  exact congrArg String.toList h

/-- Trimming a second time changes nothing. -/
theorem trimmed_trimmed (s : String) : trimmed (trimmed s) = trimmed s := by
  have htwice : trim (trim s.toList) = trim s.toList :=
    (isTrimmed_trimWhere isBlank s.toList).trimWhere_eq
  rw [trimmed, trimmed, String.toList_ofList, htwice]

/-! ## Words -/

/-- A blank divides the words of a text. -/
theorem words_append_cons {s t : List Char} {c : Char} (hc : isBlank c = true) :
    words (s ++ c :: t) = words s ++ words t := by
  rw [words, splitWhere_append_cons hc, List.filter_append]
  rfl

@[simp] theorem words_nil : words [] = [] :=
  rfl

/-- A text without blanks is a word, unless it is empty. -/
theorem words_eq_singleton {s : List Char} (hs : s ≠ []) (h : ∀ c ∈ s, isBlank c = false) :
    words s = [s] := by
  simp [words, splitWhere_eq_singleton h, hs]

theorem words_cons_blank {c : Char} (hc : isBlank c = true) (s : List Char) :
    words (c :: s) = words s :=
  words_append_cons (s := []) hc

theorem words_trimStart (s : List Char) : words (trimStart s) = words s := by
  induction s with
  | nil => rfl
  | cons c rest ih =>
    unfold trimStart
    cases hc : isBlank c with
    | true =>
      rw [List.dropWhile_cons_of_pos hc]
      exact ih.trans (words_cons_blank hc rest).symm
    | false => rw [List.dropWhile_cons_of_neg (by simp [hc])]

theorem words_trimEnd (s : List Char) : words (trimEnd s) = words s := by
  induction s using List.reverseRecOn with
  | nil => rfl
  | append_singleton rest c ih =>
    unfold trimEnd at *
    cases hc : isBlank c with
    | true =>
      rw [dropTail_append (by simpa using hc), ih, words_append_cons hc, words_nil, List.append_nil]
    | false => rw [dropTail_eq_self (by simpa using hc)]

/-- Blanks at the ends of a text do not count for its words. -/
theorem words_trim (s : List Char) : words (trim s) = words s := by
  rw [trim, words_trimEnd, words_trimStart]

/-! ## Where words stand -/

theorem ne_nil_of_mem_words {s word : List Char} (h : word ∈ words s) : word ≠ [] := by
  simpa using (List.mem_filter.1 h).2

theorem not_isBlank_of_mem_words {s word : List Char} (h : word ∈ words s) :
    ∀ c ∈ word, isBlank c = false :=
  not_of_mem_splitWhere (List.mem_filter.1 h).1

theorem words_eq_nil {s : List Char} (h : ∀ c ∈ s, isBlank c = true) : words s = [] := by
  induction s with
  | nil => rfl
  | cons c rest ih =>
    rw [words_cons_blank (h c List.mem_cons_self)]
    exact ih fun d hd => h d (List.mem_cons_of_mem c hd)

/-- The words of two texts, of which the second starts with a blank. -/
theorem words_append_of_head? {s t : List Char} (ht : ∀ c ∈ t.head?, isBlank c = true) :
    words (s ++ t) = words s ++ words t := by
  cases t with
  | nil => simp
  | cons c rest =>
    have hc : isBlank c = true := ht c rfl
    rw [words_append_cons hc, words_cons_blank hc]

/-- The words of two texts, of which the first ends with a blank. -/
theorem words_append_of_getLast? {s t : List Char} (hs : ∀ c ∈ s.getLast?, isBlank c = true) :
    words (s ++ t) = words s ++ words t := by
  cases s using List.reverseRecOn with
  | nil => rfl
  | append_singleton rest c =>
    have hc : isBlank c = true := hs c (by simp)
    rw [List.append_assoc, List.singleton_append, words_append_cons hc, words_append_cons hc,
      words_nil, List.append_nil]

/-- The first word of a text stands behind blanks, and ends at a blank or with the text. -/
theorem exists_of_words_eq_cons {s word : List Char} {others : List (List Char)}
    (h : words s = word :: others) :
    ∃ gap back, s = gap ++ (word ++ back) ∧ (∀ c ∈ gap, isBlank c = true) ∧
      (∀ c ∈ back.head?, isBlank c = true) ∧ words back = others := by
  induction s with
  | nil => cases h
  | cons c rest ih =>
    by_cases hc : isBlank c = true
    · rw [words_cons_blank hc] at h
      obtain ⟨gap, back, rfl, hgap, hback, hothers⟩ := ih h
      exact ⟨c :: gap, back, rfl, List.forall_mem_cons.2 ⟨hc, hgap⟩, hback, hothers⟩
    · obtain ⟨first, pieces, hpieces⟩ :=
        List.exists_cons_of_ne_nil (splitWhere_ne_nil isBlank (c :: rest))
      have hfirst : ∀ d ∈ first, isBlank d = false :=
        not_of_mem_splitWhere (hpieces ▸ List.mem_cons_self)
      rcases cases_of_splitWhere_eq_cons hpieces with ⟨rfl, -⟩ | ⟨d, after, hd, hs, -⟩
      · rw [words_eq_singleton (List.cons_ne_nil c rest) hfirst] at h
        obtain ⟨rfl, rfl⟩ := List.cons.inj h
        exact ⟨[], [], by simp, by simp, by simp, rfl⟩
      · have hne : first ≠ [] := by
          rintro rfl
          exact hc ((List.cons.inj hs).1 ▸ hd)
        rw [hs, words_append_cons hd, words_eq_singleton hne hfirst] at h
        obtain ⟨rfl, rfl⟩ := List.cons.inj h
        exact ⟨[], d :: after, hs, by simp, by simpa using hd, words_cons_blank hd after⟩

/-- Every word of a text stands between blanks. -/
theorem exists_of_words_eq_append_cons {s word : List Char} {before after : List (List Char)}
    (h : words s = before ++ word :: after) :
    ∃ front back, s = front ++ (word ++ back) ∧ (∀ c ∈ front.getLast?, isBlank c = true) ∧
      (∀ c ∈ back.head?, isBlank c = true) ∧ words front = before ∧ words back = after := by
  induction before generalizing s with
  | nil =>
    obtain ⟨gap, back, hs, hgap, hback, hafter⟩ := exists_of_words_eq_cons h
    exact ⟨gap, back, hs, fun c hc => hgap c (List.mem_of_getLast? hc), hback, words_eq_nil hgap,
      hafter⟩
  | cons first rest ih =>
    have hfirst : first ∈ words s := h ▸ List.mem_append_left _ List.mem_cons_self
    have hword : word ∈ words s := h ▸ List.mem_append_right _ List.mem_cons_self
    obtain ⟨gap, tail, rfl, hgap, htail, hrest⟩ := exists_of_words_eq_cons h
    obtain ⟨front, back, rfl, hfront, hback, hbefore, hafter⟩ := ih hrest
    -- the first word ends at a blank, so something stands between the two words
    have hne : front ≠ [] := by
      rintro rfl
      obtain ⟨c, others, rfl⟩ := List.exists_cons_of_ne_nil (ne_nil_of_mem_words hword)
      have hblank : isBlank c = true := htail c rfl
      rw [not_isBlank_of_mem_words hword c List.mem_cons_self] at hblank
      cases hblank
    have hhead : ∀ c ∈ front.head?, isBlank c = true := by
      rwa [List.head?_append_of_ne_nil _ hne] at htail
    refine ⟨gap ++ (first ++ front), back, by simp only [List.append_assoc], ?_, hback, ?_, hafter⟩
    · rw [← List.append_assoc, List.getLast?_append_of_ne_nil _ hne]
      exact hfront
    · rw [words_append_of_getLast? fun c hc => hgap c (List.mem_of_getLast? hc),
        words_append_of_head? hhead, words_eq_nil hgap, hbefore,
        words_eq_singleton (ne_nil_of_mem_words hfirst) (not_isBlank_of_mem_words hfirst)]
      rfl

/-- A piece of a text without blanks stands in one word. -/
theorem exists_infix_word {piece s : List Char} (hne : piece ≠ [])
    (hpiece : ∀ c ∈ piece, isBlank c = false) (h : piece <:+: s) :
    ∃ word ∈ words s, piece <:+: word := by
  obtain ⟨front, back, rfl⟩ := h
  have hstop : ∀ c ∈ (back.dropWhile (!isBlank ·)).head?, isBlank c = true := by
    intro c hc
    simpa using head?_dropWhile c hc
  -- the word goes on behind the piece up to the next blank
  obtain ⟨ending, hending⟩ : ∃ ending, ending = back.takeWhile (!isBlank ·) := ⟨_, rfl⟩
  have hinner : ∀ c ∈ piece ++ ending, isBlank c = false := by
    intro c hc
    rcases List.mem_append.1 hc with hc | hc
    · exact hpiece c hc
    · rw [hending] at hc
      simpa using List.mem_takeWhile_imp hc
  obtain ⟨last, hlast⟩ := exists_splitWhere_append front hinner
  have hmem : last ++ (piece ++ ending) ∈ words (front ++ (piece ++ ending)) := by
    refine List.mem_filter.2 ⟨hlast ▸ List.mem_append_right _ List.mem_cons_self, ?_⟩
    simp [hne]
  have hs : front ++ piece ++ back =
      front ++ (piece ++ ending) ++ back.dropWhile (!isBlank ·) := by
    simp only [hending, List.append_assoc, List.takeWhile_append_dropWhile]
  refine ⟨_, ?_, last, ending, List.append_assoc last piece ending⟩
  rw [hs, words_append_of_head? hstop]
  exact List.mem_append_left _ hmem

/-- Every character that is not blank is in a word. -/
theorem exists_word_of_mem {s : List Char} {c : Char} (hc : c ∈ s) (hblank : isBlank c = false) :
    ∃ word ∈ words s, c ∈ word := by
  obtain ⟨word, hword, hinfix⟩ := exists_infix_word (List.cons_ne_nil c []) (by simpa using hblank)
    ((List.singleton_infix_iff c s).2 hc)
  exact ⟨word, hword, (List.singleton_infix_iff c word).1 hinfix⟩

theorem mem_of_mem_words {s word : List Char} (h : word ∈ words s) : ∀ c ∈ word, c ∈ s := by
  obtain ⟨before, after, hwords⟩ := List.append_of_mem h
  obtain ⟨front, back, rfl, -⟩ := exists_of_words_eq_append_cons hwords
  exact fun c hc => List.mem_append_right front (List.mem_append_left back hc)

/-! ## Words without some characters -/

/-- If separators are kept, leaving characters out and splitting commute. -/
theorem splitWhere_filter {p keep : Char → Bool} (h : ∀ c, p c = true → keep c = true)
    (s : List Char) : splitWhere p (s.filter keep) = (splitWhere p s).map (·.filter keep) := by
  induction s with
  | nil => rfl
  | cons c rest ih =>
    obtain ⟨piece, pieces, hpieces⟩ := List.exists_cons_of_ne_nil (splitWhere_ne_nil p rest)
    rw [hpieces] at ih
    by_cases hc : p c = true
    · rw [List.filter_cons_of_pos (h c hc), splitWhere, if_pos hc, splitWhere, if_pos hc, ih,
        hpieces]
      rfl
    · by_cases hkeep : keep c = true
      · rw [List.filter_cons_of_pos hkeep, splitWhere, if_neg hc, splitWhere, if_neg hc, ih,
          hpieces]
        simp [hkeep]
      · rw [List.filter_cons_of_neg hkeep, splitWhere, if_neg hc, ih, hpieces]
        simp [hkeep]

/-- Characters that are no blanks are dropped from each word; a word that vanishes is none. -/
theorem words_filter {keep : Char → Bool} (h : ∀ c, isBlank c = true → keep c = true)
    (s : List Char) :
    words (s.filter keep) = ((words s).map (·.filter keep)).filter (!·.isEmpty) := by
  unfold words
  rw [splitWhere_filter h]
  induction splitWhere isBlank s with
  | nil => rfl
  | cons piece pieces ih =>
    cases piece with
    | nil => simpa using ih
    | cons c rest => simp [List.filter_cons, ih]

end DomainForge.Text
