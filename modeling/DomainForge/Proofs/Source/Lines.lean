import DomainForge.Proofs.Source.Concatenation

/-!
# Logical lines

Comments are removed line by line, and all that a line leaves to the next is whether a block comment
is open. This can be told in two other ways. In one the line is searched for the next place where a
comment starts or ends (`SearchesComments`). In the other the text is read as a whole, character by
character, in one of three modes (`uncommented`), and cut into lines afterwards. All of them find
the same lines (`logicalLines_eq_scan`).

What is found is a normal form. Where a comment is taken out, a space or the end of the line takes
its place, so no comment can start in what is left (`isCommentFree_stripComments`), and lines that
were found once are found again in a text that is made of them (`logicalLines_normal`).
-/

namespace DomainForge.Source

open Text

/-! ## Searching for comments -/

/-- Removes the comments of a line by searching for them. In a block comment the next `*/` counts,
and in code whichever of `//` and `/*` comes first. -/
structure SearchesComments (strip : Bool → List Char → List Char × Bool) : Prop where
  unclosed : ∀ s, breakOn ['*', '/'] s = none → strip true s = ([], true)
  closed : ∀ s comment rest, breakOn ['*', '/'] s = some (comment, rest) →
    strip true s = strip false rest
  plain : ∀ s, breakOn ['/', '/'] s = none → breakOn ['/', '*'] s = none →
    strip false s = (s, false)
  line : ∀ s before comment, breakOn ['/', '/'] s = some (before, comment) →
    (∀ found ∈ breakOn ['/', '*'] s, before.length < found.1.length) →
    strip false s = (before, false)
  block : ∀ s before rest, breakOn ['/', '*'] s = some (before, rest) →
    (∀ found ∈ breakOn ['/', '/'] s, before.length ≤ found.1.length) →
    strip false s = (before ++ ' ' :: (strip true rest).1, (strip true rest).2)

theorem stripComments_block_cons {c : Char} {rest : List Char} (h : ¬ ['*', '/'] <+: c :: rest) :
    stripComments true (c :: rest) = stripComments true rest := by
  rw [stripComments]
  rintro after rfl rfl
  exact h ⟨after, rfl⟩

theorem stripComments_unclosed {s : List Char} (h : breakOn ['*', '/'] s = none) :
    stripComments true s = ([], true) := by
  induction s with
  | nil => rfl
  | cons c rest ih =>
    rw [breakOn_eq_none_iff, List.infix_cons_iff, not_or] at h
    rw [stripComments_block_cons h.1, ih (breakOn_eq_none_iff.2 h.2)]

/-- Inside a block comment, reading goes on behind its end. -/
theorem stripComments_closed {s comment rest : List Char}
    (h : breakOn ['*', '/'] s = some (comment, rest)) :
    stripComments true s = stripComments false rest := by
  induction s generalizing comment with
  | nil => cases h
  | cons c after ih =>
    rcases breakOn_cons_eq_some h with ⟨-, hstart⟩ | ⟨hstart, before, -, hafter⟩
    · rw [hstart]
      rfl
    · rw [stripComments_block_cons hstart, ih hafter]

/-- Up to the first of two openers code is kept. -/
theorem stripComments_of_breakOn {opener other s before after : List Char}
    (hkeep : ∀ c rest, ¬ opener <+: c :: rest → ¬ other <+: c :: rest →
      stripComments false (c :: rest) =
        (c :: (stripComments false rest).1, (stripComments false rest).2))
    (h : breakOn opener s = some (before, after))
    (hfirst : ∀ found ∈ breakOn other s, before.length ≤ found.1.length)
    (hopener : opener ≠ []) :
    stripComments false s = (before ++ (stripComments false (opener ++ after)).1,
      (stripComments false (opener ++ after)).2) := by
  induction s generalizing before with
  | nil => simp [breakOn, hopener] at h
  | cons c rest ih =>
    rcases breakOn_cons_eq_some h with ⟨rfl, hstart⟩ | ⟨hstart, code, rfl, hrest⟩
    · rw [hstart]
      rfl
    · have hother : ¬ other <+: c :: rest := by
        intro hother
        have hlength := hfirst _ (breakOn_cons_pos hother)
        exact absurd hlength (Nat.not_succ_le_zero _)
      have hlater : ∀ found ∈ breakOn other rest, code.length ≤ found.1.length := by
        intro found hfound
        have hlength := hfirst _ (mem_breakOn_cons hother hfound)
        simp only [List.length_cons] at hlength
        omega
      rw [hkeep c rest hstart hother, ih hrest hlater]
      rfl

/-- The first comment is a line comment: the rest of the line is left out. -/
theorem stripComments_line {s before comment : List Char}
    (h : breakOn ['/', '/'] s = some (before, comment))
    (hfirst : ∀ found ∈ breakOn ['/', '*'] s, before.length < found.1.length) :
    stripComments false s = (before, false) := by
  have hkept := stripComments_of_breakOn (fun c rest hline hblock =>
    stripComments_code_cons hline hblock) h (fun found hfound => (hfirst found hfound).le) (by simp)
  rw [hkept]
  exact congrArg (·, false) (List.append_nil before)

/-- The first comment is a block: a blank takes its place. -/
theorem stripComments_block {s before rest : List Char}
    (h : breakOn ['/', '*'] s = some (before, rest))
    (hfirst : ∀ found ∈ breakOn ['/', '/'] s, before.length ≤ found.1.length) :
    stripComments false s =
      (before ++ ' ' :: (stripComments true rest).1, (stripComments true rest).2) :=
  stripComments_of_breakOn (fun c rest hblock hline => stripComments_code_cons hline hblock) h
    hfirst (by simp)

/-- Stripping comments is the search that has been described. -/
theorem searchesComments_stripComments : SearchesComments stripComments where
  unclosed _ h := stripComments_unclosed h
  closed _ _ _ h := stripComments_closed h
  plain _ hline hblock :=
    IsCommentFree.stripComments_eq ⟨breakOn_eq_none_iff.1 hline, breakOn_eq_none_iff.1 hblock⟩
  line _ _ _ h hfirst := stripComments_line h hfirst
  block _ _ _ h hfirst := stripComments_block h hfirst

/-! ## The grammar of comments -/

/-- What a character of a text belongs to. -/
inductive Mode where
  | code
  | lineComment
  | blockComment
deriving Repr, DecidableEq

/-- What is left of a text without its comments, character by character. A block comment counts as
one space, and line ends are kept wherever they stand. -/
def uncommented : Mode → List Char → List Char
  | _, [] => []
  | .code, '/' :: '/' :: rest => uncommented .lineComment rest
  | .code, '/' :: '*' :: rest => ' ' :: uncommented .blockComment rest
  | .code, c :: rest => c :: uncommented .code rest
  | .lineComment, '\n' :: rest => '\n' :: uncommented .code rest
  | .lineComment, _ :: rest => uncommented .lineComment rest
  | .blockComment, '*' :: '/' :: rest => uncommented .code rest
  | .blockComment, '\n' :: rest => '\n' :: uncommented .blockComment rest
  | .blockComment, _ :: rest => uncommented .blockComment rest

/-- What is left of a line is trimmed, and found if it is not empty. -/
def lineOf? (number : Nat) (code : List Char) : Option Line :=
  if (trim code).isEmpty then none else some ⟨number, String.ofList (trim code)⟩

/-- The lines that are found among lines without comments, with their numbers. -/
def numberedLines (first : Nat) (codes : List (List Char)) : List Line :=
  (codes.zipIdx first).filterMap fun (code, number) => lineOf? number code

theorem lineOf?_eq_some_iff {number : Nat} {code : List Char} {line : Line} :
    lineOf? number code = some line ↔
      trim code ≠ [] ∧ line = ⟨number, String.ofList (trim code)⟩ := by
  unfold lineOf?
  split
  · rename_i hempty
    simp [List.isEmpty_iff.1 hempty]
  · rename_i hne
    rw [List.isEmpty_iff] at hne
    exact ⟨fun h => ⟨hne, (Option.some.inj h).symm⟩, fun h => congrArg some h.2.symm⟩

/-- The mode in which a line starts. -/
def Mode.atStart (inBlock : Bool) : Mode :=
  if inBlock then .blockComment else .code

theorem uncommented_lineComment_append {line t : List Char} (hline : '\n' ∉ line) :
    uncommented .lineComment (line ++ t) = uncommented .lineComment t := by
  induction line with
  | nil => rfl
  | cons c rest ih =>
    have hc : c ≠ '\n' := (List.ne_of_not_mem_cons hline).symm
    rw [List.cons_append, uncommented, ih (List.not_mem_of_not_mem_cons hline)]
    exact hc

/-- A line comment ends where its line does. -/
theorem uncommented_lineComment_eq {t : List Char} (ht : ∀ c ∈ t.head?, c = '\n') :
    uncommented .lineComment t = uncommented .code t := by
  cases t with
  | nil => rfl
  | cons c rest =>
    obtain rfl := ht c rfl
    rfl

/-- On one line both ways of removing comments agree. -/
theorem uncommented_append {line t : List Char} (hline : '\n' ∉ line)
    (ht : ∀ c ∈ t.head?, c = '\n') (inBlock : Bool) :
    uncommented (.atStart inBlock) (line ++ t) =
      (stripComments inBlock line).1 ++
        uncommented (.atStart (stripComments inBlock line).2) t := by
  have hnext {c : Char} (hc : c ≠ '\n') : t.head? ≠ some c := fun hhead => hc (ht c hhead)
  fun_induction stripComments inBlock line with
  | case1 inBlock => rfl
  | case2 rest ih => exact ih (by simp_all)
  | case3 c rest hclose ih =>
    have hc : c ≠ '\n' := (List.ne_of_not_mem_cons hline).symm
    rw [← ih (List.not_mem_of_not_mem_cons hline)]
    simp only [Mode.atStart, if_true, List.cons_append]
    rw [uncommented]
    · intro after hstar hafter
      obtain ⟨others, rfl⟩ := exists_cons_of_append_eq_cons (hnext (by decide)) hafter
      exact hclose others hstar rfl
    · exact hc
  | case4 rest =>
    have hrest : '\n' ∉ rest := by simp_all
    have hcomment := uncommented_lineComment_append (t := t) hrest
    rw [uncommented_lineComment_eq ht] at hcomment
    exact hcomment
  | case5 rest out inBlock hout ih =>
    have hrest : '\n' ∉ rest := by simp_all
    have hblock := ih hrest
    rw [hout] at hblock
    exact congrArg (' ' :: ·) hblock
  | case6 c rest hline' hblock out inBlock hout ih =>
    have hrest := ih (List.not_mem_of_not_mem_cons hline)
    rw [hout] at hrest
    simp only [Mode.atStart, Bool.false_eq_true, if_false, List.cons_append] at hrest ⊢
    rw [← hrest, uncommented]
    · intro after hc hafter
      obtain ⟨others, rfl⟩ := exists_cons_of_append_eq_cons (hnext (by decide)) hafter
      exact hline' others hc rfl
    · intro after hc hafter
      obtain ⟨others, rfl⟩ := exists_cons_of_append_eq_cons (hnext (by decide)) hafter
      exact hblock others hc rfl

/-- Nothing but the blanks for comments is added. -/
theorem mem_stripComments {inBlock : Bool} {raw : List Char} {c : Char}
    (h : c ∈ (stripComments inBlock raw).1) : c = ' ' ∨ c ∈ raw := by
  fun_induction stripComments inBlock raw with
  | case1 inBlock => exact .inr h
  | case2 rest ih => exact (ih h).imp_right fun hc => by simp [hc]
  | case3 d rest hclose ih => exact (ih h).imp_right (List.mem_cons_of_mem d)
  | case4 rest => cases h
  | case5 rest out inBlock hout ih =>
    rw [hout] at ih
    rcases List.mem_cons.1 h with rfl | h
    · exact .inl rfl
    · exact (ih h).imp_right fun hc => by simp [hc]
  | case6 d rest hline hblock out inBlock hout ih =>
    rw [hout] at ih
    rcases List.mem_cons.1 h with rfl | h
    · exact .inr List.mem_cons_self
    · exact (ih h).imp_right (List.mem_cons_of_mem d)

theorem not_break_of_mem_stripComments {inBlock : Bool} {raw : List Char} (hraw : '\n' ∉ raw) :
    '\n' ∉ (stripComments inBlock raw).1 := by
  intro hmem
  rcases mem_stripComments hmem with hblank | hmem
  · exact absurd hblank (by decide)
  · exact hraw hmem

theorem not_break_of_mem_splitWhere {s line : List Char}
    (h : line ∈ splitWhere (· == '\n') s) : '\n' ∉ line :=
  fun hmem => absurd (not_of_mem_splitWhere h '\n' hmem) (by decide)

theorem uncommented_newline (inBlock : Bool) (rest : List Char) :
    uncommented (.atStart inBlock) ('\n' :: rest) =
      '\n' :: uncommented (.atStart inBlock) rest := by
  cases inBlock <;> rfl

theorem numberedLines_cons (number : Nat) (code : List Char) (rest : List (List Char)) :
    numberedLines number (code :: rest) =
      (lineOf? number code).toList ++ numberedLines (number + 1) rest := by
  simp only [numberedLines, List.zipIdx_cons, List.filterMap_cons]
  cases lineOf? number code <;> rfl

/-- The comment that a line leaves open goes on in the next. -/
theorem fst_scanLines_cons (number : Nat) (inBlock : Bool) (raw : List Char)
    (rest : List (List Char)) :
    (scanLines number inBlock (raw :: rest)).1 =
      (lineOf? number (stripComments inBlock raw).1).toList ++
        (scanLines (number + 1) (stripComments inBlock raw).2 rest).1 := by
  unfold lineOf?
  simp only [scanLines]
  split <;> rfl

/-- Line by line, what is found is what the grammar leaves. The induction is on the lines of the
text, and the mode in which the next one starts is what the line before it leaves open. -/
theorem fst_scanLines_splitWhere (number : Nat) (inBlock : Bool) (s : List Char) :
    (scanLines number inBlock (splitWhere (· == '\n') s)).1 =
      numberedLines number (splitWhere (· == '\n') (uncommented (.atStart inBlock) s)) := by
  induction hpieces : splitWhere (· == '\n') s generalizing s number inBlock with
  | nil => exact absurd hpieces (splitWhere_ne_nil _ s)
  | cons line others ih =>
    have hline : '\n' ∉ line := not_break_of_mem_splitWhere (hpieces ▸ List.mem_cons_self)
    have hbreak : '\n' ∉ (stripComments inBlock line).1 := not_break_of_mem_stripComments hline
    have hcode : splitWhere (· == '\n') (stripComments inBlock line).1 =
        [(stripComments inBlock line).1] :=
      splitWhere_eq_singleton fun c hc => beq_eq_false_iff_ne.2 fun heq => hbreak (heq ▸ hc)
    rw [fst_scanLines_cons]
    rcases cases_of_splitWhere_eq_cons hpieces with ⟨rfl, rfl⟩ | ⟨c, rest, hc, rfl, hrest⟩
    · have hend := uncommented_append (t := []) hline (by simp) inBlock
      rw [List.append_nil, uncommented, List.append_nil] at hend
      rw [hend, hcode, numberedLines_cons]
      rfl
    · obtain rfl : c = '\n' := beq_iff_eq.1 hc
      rw [uncommented_append hline (by simp) inBlock, uncommented_newline,
        splitWhere_append_cons (p := (· == '\n')) hc, hcode, List.singleton_append,
        numberedLines_cons, ih _ _ rest hrest]

/-- Carriage returns at the ends of lines change nothing. -/
theorem scanLines_map_dropReturn (number : Nat) (inBlock : Bool) (raws : List (List Char)) :
    scanLines number inBlock (raws.map dropReturn) = scanLines number inBlock raws := by
  induction raws generalizing number inBlock with
  | nil => rfl
  | cons raw rest ih =>
    have hraw : scanLines number inBlock [dropReturn raw] = scanLines number inBlock [raw] := by
      cases raw with
      | nil => rfl
      | cons c after => exact scanLines_finished number inBlock (c :: after)
    have hsplit (raw : List Char) (rest : List (List Char)) : raw :: rest = [raw] ++ rest := rfl
    rw [List.map_cons, hsplit (dropReturn raw), hsplit raw, scanLines_append, scanLines_append,
      hraw, List.length_singleton, List.length_singleton, ih]

/-- It does not matter that a carriage return is dropped with the end of its line. -/
theorem logicalLines_eq_fst_scanLines (source : String) :
    logicalLines source = (scanLines 1 false (splitWhere (· == '\n') source.toList)).1 := by
  rw [logicalLines, ← scanLines_splitWhere, scanLines_map_dropReturn]

/-- The two ways agree: line by line, and the text as a whole. -/
theorem logicalLines_eq_numberedLines (source : String) :
    logicalLines source =
      numberedLines 1 (splitWhere (· == '\n') (uncommented .code source.toList)) := by
  rw [logicalLines_eq_fst_scanLines]
  exact fst_scanLines_splitWhere 1 false source.toList

theorem pairwise_numberedLines (first : Nat) (codes : List (List Char)) :
    (numberedLines first codes).Pairwise fun line next => line.number < next.number := by
  have hnumbers : (codes.zipIdx first).Pairwise fun entry next => entry.2 < next.2 := by
    have hrange := List.pairwise_lt_range' (s := first) (n := codes.length) 1
    rw [← List.zipIdx_map_snd first codes, List.pairwise_map] at hrange
    exact hrange
  refine List.Pairwise.filterMap _ ?_ hnumbers
  intro entry next hless line hline after hafter
  rw [(lineOf?_eq_some_iff.1 hline).2, (lineOf?_eq_some_iff.1 hafter).2]
  exact hless

/-- **Logical lines are what the grammar of comments leaves of a text.** They are found by searching
line by line, and they are the lines of the text without comments: trimmed, without the empty ones,
and each with the number that it has in the text. -/
theorem logicalLines_eq_scan (source : String) :
    SearchesComments stripComments ∧
    logicalLines source =
      numberedLines 1 (splitWhere (· == '\n') (uncommented .code source.toList)) ∧
    (logicalLines source).Pairwise fun line next => line.number < next.number := by
  refine ⟨searchesComments_stripComments, logicalLines_eq_numberedLines source, ?_⟩
  rw [logicalLines_eq_numberedLines]
  exact pairwise_numberedLines 1 _

-- signs of comments that overlap
example : logicalLines "a/*/b*/c //*\n**/ *//d\r\n/*\n//*/ e /" =
    [⟨1, "a c"⟩, ⟨2, "**/ *"⟩, ⟨4, "e /"⟩] := by
  decide +kernel

/-! ## Normal form -/

/-- A line that is found again as it is. -/
structure IsNormalLine (text : String) : Prop where
  ne_empty : text ≠ ""
  isTrimmed : IsTrimmed isBlank text.toList
  noBreak : '\n' ∉ text.toList
  isCommentFree : IsCommentFree text.toList

/-- Code that is kept starts as the line does, or with the space in place of a comment. -/
theorem head?_stripComments_code {raw : List Char} {c : Char} (hc : c ≠ ' ')
    (h : (stripComments false raw).1.head? = some c) : raw.head? = some c := by
  cases raw with
  | nil => cases h
  | cons d rest =>
    by_cases hline : ['/', '/'] <+: d :: rest
    · obtain ⟨after, hafter⟩ := hline
      rw [← hafter] at h
      cases h
    by_cases hblock : ['/', '*'] <+: d :: rest
    · obtain ⟨after, hafter⟩ := hblock
      rw [← hafter] at h
      exact absurd (Option.some.inj h).symm hc
    · rw [stripComments_code_cons hline hblock] at h
      exact h

theorem isCommentFree_cons {c : Char} {s : List Char} (hs : IsCommentFree s)
    (hline : ¬ ['/', '/'] <+: c :: s) (hblock : ¬ ['/', '*'] <+: c :: s) :
    IsCommentFree (c :: s) :=
  ⟨fun h => (List.infix_cons_iff.1 h).elim hline hs.noLineComment,
    fun h => (List.infix_cons_iff.1 h).elim hblock hs.noBlockComment⟩

theorem pair_startsWith_iff {a b c : Char} {s : List Char} :
    [a, b] <+: c :: s ↔ a = c ∧ s.head? = some b := by
  rw [List.cons_prefix_cons]
  cases s <;> simp [eq_comm]

/-- **Taking out comments leaves none.** -/
theorem isCommentFree_stripComments (inBlock : Bool) (raw : List Char) :
    IsCommentFree (stripComments inBlock raw).1 := by
  fun_induction stripComments inBlock raw with
  | case1 inBlock => exact isCommentFree_of_not_mem (by simp)
  | case2 rest ih => exact ih
  | case3 c rest hclose ih => exact ih
  | case4 rest => exact isCommentFree_of_not_mem (by simp)
  | case5 rest out inBlock hout ih =>
    rw [hout] at ih
    exact isCommentFree_cons ih (by simp) (by simp)
  | case6 c rest hline hblock out inBlock hout ih =>
    -- a character that is kept stands before what it stood before in the line, or before a space
    have hnext {d : Char} (hd : d ≠ ' ') (hhead : out.head? = some d) : rest.head? = some d :=
      head?_stripComments_code hd (by rw [hout, hhead])
    rw [hout] at ih
    refine isCommentFree_cons ih ?_ ?_
    · rw [pair_startsWith_iff]
      rintro ⟨rfl, hhead⟩
      obtain ⟨after, rfl⟩ := List.head?_eq_some_iff.1 (hnext (by decide) hhead)
      exact hline after rfl rfl
    · rw [pair_startsWith_iff]
      rintro ⟨rfl, hhead⟩
      obtain ⟨after, rfl⟩ := List.head?_eq_some_iff.1 (hnext (by decide) hhead)
      exact hblock after rfl rfl

theorem isInfix_trim (s : List Char) : trim s <:+: s := by
  have hend : trim s <+: trimStart s := List.rdropWhile_prefix isBlank (trimStart s)
  have hstart : trimStart s <:+ s := List.dropWhile_suffix isBlank
  exact hend.isInfix.trans hstart.isInfix

theorem isNormalLine_trim {code : List Char} (hne : trim code ≠ []) (hbreak : '\n' ∉ code)
    (hcode : IsCommentFree code) : IsNormalLine (String.ofList (trim code)) where
  ne_empty := by simpa [← String.toList_inj] using hne
  isTrimmed := by
    rw [String.toList_ofList]
    exact isTrimmed_trimWhere isBlank code
  noBreak := by
    rw [String.toList_ofList]
    exact fun hmem => hbreak ((isInfix_trim code).subset hmem)
  isCommentFree := by
    rw [String.toList_ofList]
    exact hcode.of_isInfix (isInfix_trim code)

/-- What is left of a line has no comment, no break and no blanks around it. -/
theorem isNormalLine_of_mem_scanLines {raws : List (List Char)} (hraws : ∀ raw ∈ raws, '\n' ∉ raw)
    (number : Nat) (inBlock : Bool) :
    ∀ line ∈ (scanLines number inBlock raws).1, IsNormalLine line.text := by
  induction raws generalizing number inBlock with
  | nil => simp [scanLines]
  | cons raw rest ih =>
    intro line hline
    rw [fst_scanLines_cons, List.mem_append, Option.mem_toList] at hline
    rcases hline with hline | hline
    · obtain ⟨hne, rfl⟩ := lineOf?_eq_some_iff.1 hline
      exact isNormalLine_trim hne (not_break_of_mem_stripComments (hraws raw List.mem_cons_self))
        (isCommentFree_stripComments inBlock raw)
    · exact ih (fun other hother => hraws other (List.mem_cons_of_mem raw hother)) _ _ line hline

theorem isNormalLine_of_mem_logicalLines {source : String} :
    ∀ line ∈ logicalLines source, IsNormalLine line.text := by
  rw [logicalLines_eq_fst_scanLines]
  exact isNormalLine_of_mem_scanLines (fun raw hraw => not_break_of_mem_splitWhere hraw) 1 false

theorem IsNormalLine.lineOf?_eq {text : String} (h : IsNormalLine text) (number : Nat) :
    lineOf? number text.toList = some ⟨number, text⟩ := by
  have htrim : trim text.toList = text.toList := h.isTrimmed.trimWhere_eq
  have hne : text.toList ≠ [] := fun hnil => h.ne_empty (String.toList_injective hnil)
  rw [lineOf?_eq_some_iff, htrim, String.ofList_toList]
  exact ⟨hne, rfl⟩

/-- Normal lines are found as they are. -/
theorem fst_scanLines_of_isNormalLine {texts : List String}
    (h : ∀ text ∈ texts, IsNormalLine text) (number : Nat) :
    (scanLines number false (texts.map String.toList)).1 =
      (texts.zipIdx number).map fun (text, number) => ⟨number, text⟩ := by
  induction texts generalizing number with
  | nil => rfl
  | cons text rest ih =>
    have htext := h text List.mem_cons_self
    have hrest := ih (fun other hother => h other (List.mem_cons_of_mem text hother)) (number + 1)
    rw [List.map_cons, fst_scanLines_cons, htext.isCommentFree.stripComments_eq, hrest,
      htext.lineOf?_eq]
    rfl

theorem splitWhere_joinWith_newline {texts : List String} (hne : texts ≠ [])
    (h : ∀ text ∈ texts, '\n' ∉ text.toList) :
    splitWhere (· == '\n') (joinWith "\n" texts).toList = texts.map String.toList := by
  have hfields : fields (· == '\n') (joinWith "\n" texts) = texts := by
    rw [fields_joinWith (c := '\n') rfl rfl hne]
    refine flatMap_fields_eq_self fun text htext c hc => beq_eq_false_iff_ne.2 ?_
    rintro rfl
    exact h text htext hc
  have hlists := congrArg (List.map String.toList) hfields
  rw [fields, List.map_map] at hlists
  simpa [Function.comp_def] using hlists

/-- Normal lines are read back as they are. -/
theorem logicalLines_joinWith {texts : List String} (h : ∀ text ∈ texts, IsNormalLine text) :
    logicalLines (joinWith "\n" texts) =
      (texts.zipIdx 1).map fun (text, number) => ⟨number, text⟩ := by
  by_cases hne : texts = []
  · subst hne
    rfl
  · rw [logicalLines_eq_fst_scanLines,
      splitWhere_joinWith_newline hne fun text htext => (h text htext).noBreak,
      fst_scanLines_of_isNormalLine h]

/-- **Logical lines are in normal form.** None of them is empty, has blanks at its ends, holds a
line end or starts a comment. Joined by line ends they are found again, counted from one, so the
model is that of the text they were found in. -/
theorem logicalLines_normal (source : String) :
    (∀ line ∈ logicalLines source, IsNormalLine line.text) ∧
    logicalLines (joinWith "\n" (logicalTexts source)) =
      ((logicalTexts source).zipIdx 1).map (fun (text, number) => ⟨number, text⟩) ∧
    parse source = parse (joinWith "\n" (logicalTexts source)) := by
  have hnormal : ∀ text ∈ logicalTexts source, IsNormalLine text := by
    intro text htext
    obtain ⟨line, hline, rfl⟩ := List.mem_map.1 htext
    exact isNormalLine_of_mem_logicalLines line hline
  have hagain := logicalLines_joinWith hnormal
  have htexts : logicalTexts (joinWith "\n" (logicalTexts source)) = logicalTexts source := by
    rw [logicalTexts, hagain, List.map_map]
    exact List.zipIdx_map_fst 1 _
  refine ⟨isNormalLine_of_mem_logicalLines, hagain, ?_⟩
  rw [parse_eq_readTexts, parse_eq_readTexts, htexts]

end DomainForge.Source
