import DomainForge.Proofs.Code.Lines
import Mathlib.Data.List.Chain

/-!
# The layout of code

Code is well laid out if its braces match and its empty lines divide something: no two of them
stand together, none opens a block and none closes one. Both are laws about the lines that are
written. They are kept when code is put together in the three ways that a language needs: one
piece below the other, with an empty line between them, and between braces (`IsTidy`).
-/

namespace DomainForge

open Text

/-! ## Braces -/

/-- The braces of a text match: none is closed before it was opened, and in the end all are
closed. -/
structure HasBalancedBraces (text : List Char) : Prop where
  neverBelow : ∀ before after, before ++ after = text → before.count '}' ≤ before.count '{'
  settled : text.count '{' = text.count '}'

namespace HasBalancedBraces

theorem of_not_mem {text : List Char} (hopen : '{' ∉ text) (hclose : '}' ∉ text) :
    HasBalancedBraces text where
  neverBelow := by
    rintro before after rfl
    rw [List.count_eq_zero_of_not_mem fun hmem => hclose (List.mem_append_left after hmem)]
    exact Nat.zero_le _
  settled := by
    rw [List.count_eq_zero_of_not_mem hopen, List.count_eq_zero_of_not_mem hclose]

theorem lineBreak : HasBalancedBraces ['\n'] :=
  of_not_mem (by decide) (by decide)

/-- Balanced texts can be put side by side. -/
theorem append {first second : List Char} (hfirst : HasBalancedBraces first)
    (hsecond : HasBalancedBraces second) : HasBalancedBraces (first ++ second) where
  neverBelow := by
    intro before after heq
    rcases List.append_eq_append_iff.1 heq with ⟨rest, hrest, -⟩ | ⟨rest, rfl, hrest⟩
    · exact hfirst.neverBelow before rest hrest.symm
    · have hsettled := hfirst.settled
      have hle := hsecond.neverBelow rest after hrest.symm
      simp only [List.count_append]
      omega
  settled := by
    rw [List.count_append, List.count_append, hfirst.settled, hsecond.settled]

/-- A balanced text stays balanced between braces. -/
theorem enclosed {text : List Char} (h : HasBalancedBraces text) :
    HasBalancedBraces ('{' :: (text ++ ['}'])) where
  neverBelow := by
    intro before after heq
    rcases List.append_eq_cons_iff.1 heq with ⟨rfl, -⟩ | ⟨rest, rfl, hrest⟩
    · exact Nat.le_refl _
    rw [List.count_cons_self, List.count_cons_of_ne (by decide)]
    rcases List.append_eq_append_iff.1 hrest with ⟨tail, rfl, htail⟩ | ⟨tail, htext, -⟩
    · -- The rest of the text is at most the brace that closes it.
      have hle : tail.count '}' ≤ ['}'].count '}' := by
        rw [htail, List.count_append]
        omega
      have hsettled := h.settled
      rw [List.count_singleton_self] at hle
      rw [List.count_append, List.count_append]
      omega
    · have hle := h.neverBelow rest tail htext.symm
      omega
  settled := by
    rw [List.count_cons_self, List.count_cons_of_ne (by decide), List.count_append,
      List.count_append, List.count_singleton_self, h.settled]
    rfl

theorem flatMap {α : Type} {f : α → List Char} {items : List α}
    (h : ∀ item ∈ items, HasBalancedBraces (f item)) : HasBalancedBraces (items.flatMap f) := by
  induction items with
  | nil => exact of_not_mem List.not_mem_nil List.not_mem_nil
  | cons item rest ih =>
    rw [List.flatMap_cons]
    exact (h item List.mem_cons_self).append
      (ih fun other hother => h other (List.mem_cons_of_mem item hother))

end HasBalancedBraces

/-- A text with one outermost pair of braces, which its last line closes. -/
def IsBlock (text : List Char) : Prop :=
  ∃ front inner, '{' ∉ front ∧ '}' ∉ front ∧ HasBalancedBraces inner ∧
    text = front ++ '{' :: (inner ++ ['}', '\n'])

namespace IsBlock

variable {text : List Char} (h : IsBlock text)

include h

/-- A block is balanced: its braces close each other, and what is inside is balanced. -/
theorem hasBalancedBraces : HasBalancedBraces text := by
  obtain ⟨front, inner, hopen, hclose, hinner, rfl⟩ := h
  have htext : front ++ '{' :: (inner ++ ['}', '\n']) =
      front ++ ('{' :: (inner ++ ['}'])) ++ ['\n'] := by
    simp
  rw [htext]
  exact ((HasBalancedBraces.of_not_mem hopen hclose).append hinner.enclosed).append .lineBreak

/-- Nothing inside a block is outside of all braces. -/
theorem not_mem_of_settled {before after : List Char} (htext : before ++ after = text)
    (hsettled : before.count '{' = before.count '}') : '{' ∉ before ∨ '}' ∉ after := by
  obtain ⟨front, inner, hopen, hclose, hinner, rfl⟩ := h
  rcases List.append_eq_append_iff.1 htext.symm with ⟨rest, rfl, hrest⟩ | ⟨rest, rfl, -⟩
  · rcases List.cons_eq_append_iff.1 hrest with ⟨rfl, -⟩ | ⟨inside, rfl, hinside⟩
    · rw [List.append_nil]
      exact .inl hopen
    -- From here on the outer brace is open, and only the last one closes it.
    rw [List.count_append, List.count_append, List.count_eq_zero_of_not_mem hopen,
      List.count_eq_zero_of_not_mem hclose, List.count_cons_self,
      List.count_cons_of_ne (by decide)] at hsettled
    rcases List.append_eq_append_iff.1 hinside with ⟨tail, rfl, htail⟩ | ⟨tail, htail, -⟩
    · rcases List.cons_eq_append_iff.1 htail with ⟨rfl, -⟩ | ⟨tail, -, hafter⟩
      · rw [List.append_nil, hinner.settled] at hsettled
        omega
      · refine .inr fun hmem => ?_
        have hmem : '}' ∈ ['\n'] := hafter ▸ List.mem_append_right tail hmem
        exact absurd hmem (by decide)
    · have hle := hinner.neverBelow inside tail htail.symm
      omega
  · exact .inl fun hmem => hopen (List.mem_append_left rest hmem)

theorem opening_mem : '{' ∈ text := by
  obtain ⟨front, inner, -, -, -, rfl⟩ := h
  simp

theorem closing_suffix : ['}', '\n'] <:+ text := by
  obtain ⟨front, inner, -, -, -, rfl⟩ := h
  exact ⟨front ++ '{' :: inner, by simp⟩

end IsBlock

/-! ## Texts on one line -/

/-- Whether a text can stand on a line without changing the layout: it has no braces and no line
ends. -/
def isInline (text : String) : Bool :=
  text.toList.all fun c => c != '{' && c != '}' && c != '\n'

theorem isInline_iff {text : String} :
    isInline text = true ↔ '{' ∉ text.toList ∧ '}' ∉ text.toList ∧ '\n' ∉ text.toList := by
  constructor
  · intro h
    rw [isInline, List.all_eq_true] at h
    refine ⟨fun hmem => ?_, fun hmem => ?_, fun hmem => ?_⟩ <;> simpa using h _ hmem
  · rintro ⟨hopen, hclose, hbreak⟩
    rw [isInline, List.all_eq_true]
    intro c hc
    have hopen : c ≠ '{' := ne_of_mem_of_not_mem hc hopen
    have hclose : c ≠ '}' := ne_of_mem_of_not_mem hc hclose
    have hbreak : c ≠ '\n' := ne_of_mem_of_not_mem hc hbreak
    simp [hopen, hclose, hbreak]

theorem isInline_of_subset {text other : String} (h : isInline text = true)
    (hsubset : other.toList ⊆ text.toList) : isInline other = true :=
  List.all_eq_true.2 fun c hc => List.all_eq_true.1 h c (hsubset hc)

@[simp]
theorem isInline_append (first second : String) :
    isInline (first ++ second) = (isInline first && isInline second) := by
  simp [isInline]

theorem isInline_joinWith {separator : String} (hseparator : isInline separator = true)
    {texts : List String} (h : ∀ text ∈ texts, isInline text = true) :
    isInline (joinWith separator texts) = true := by
  induction texts with
  | nil => rfl
  | cons text rest ih =>
    have htext := h text List.mem_cons_self
    have hrest := ih fun other hother => h other (List.mem_cons_of_mem text hother)
    cases rest with
    | nil => exact htext
    | cons second others =>
      have hjoin : joinWith separator (text :: second :: others) =
          text ++ separator ++ joinWith separator (second :: others) := rfl
      simp [hjoin, htext, hseparator, hrest]

theorem Indent.isInline_text (indent : Indent) : isInline indent.text = true := by
  unfold Indent.text
  split <;> decide

theorem isInline_margin (indent : Indent) (level : Nat) :
    isInline (CodeWriter.margin indent level) = true := by
  induction level with
  | zero => rfl
  | succ level ih => simp [CodeWriter.margin, indent.isInline_text, ih]

/-! ## Tidy lines -/

/-- What may stand on two lines, one below the other: an empty line is not beside another one, not
below an opening brace and not above a closing one. -/
structure MayFollow (line next : String) : Prop where
  notTwice : line = "" → next ≠ ""
  afterOpening : '{' ∈ line.toList → next ≠ ""
  beforeClosing : '}' ∈ next.toList → line ≠ ""

theorem MayFollow.of_ne {line next : String} (hline : line ≠ "") (hnext : next ≠ "") :
    MayFollow line next :=
  ⟨fun h => absurd h hline, fun _ => hnext, fun _ => hline⟩

/-- The lines of a text that a line feed ends. -/
def finishedLines (text : String) : List String :=
  (fields (· == '\n') text).dropLast

theorem finishedLines_unlines {texts : List String} (h : ∀ line ∈ texts, '\n' ∉ line.toList) :
    finishedLines (unlines texts) = texts := by
  have hlines : ∀ line ∈ texts.map String.toList, ∀ c ∈ line, (c == '\n') = false := by
    intro line hline c hc
    obtain ⟨text, htext, rfl⟩ := List.mem_map.1 hline
    exact beq_eq_false_iff_ne.2 (ne_of_mem_of_not_mem hc (h text htext))
  rw [finishedLines, fields, toList_unlines, splitWhere_flatMap_append (by rfl) _ hlines,
    List.map_append, List.map_singleton, List.dropLast_concat, List.map_map]
  simp

/-- Lines that can stand in a block and beside an empty line. -/
structure IsTidy (texts : List String) : Prop where
  chain : texts.IsChain MayFollow
  head : ∀ line, texts.head? = some line → line ≠ "" ∧ '}' ∉ line.toList
  last : ∀ line, texts.getLast? = some line → line ≠ "" ∧ '{' ∉ line.toList
  noBreak : ∀ line ∈ texts, '\n' ∉ line.toList
  balanced : HasBalancedBraces (unlines texts).toList

/-- Lines that hold text, and no braces. -/
def AreFlat (texts : List String) : Prop :=
  ∀ line ∈ texts, line ≠ "" ∧ isInline line = true

theorem not_mem_unlines {texts : List String} (h : ∀ line ∈ texts, isInline line = true) :
    '{' ∉ (unlines texts).toList ∧ '}' ∉ (unlines texts).toList := by
  rw [toList_unlines]
  constructor
  · intro hmem
    obtain ⟨line, hline, hopen⟩ : ∃ line ∈ texts, '{' ∈ line.toList := by simpa using hmem
    exact (isInline_iff.1 (h line hline)).1 hopen
  · intro hmem
    obtain ⟨line, hline, hclose⟩ : ∃ line ∈ texts, '}' ∈ line.toList := by simpa using hmem
    exact (isInline_iff.1 (h line hline)).2.1 hclose

namespace IsTidy

theorem of_areFlat {texts : List String} (h : AreFlat texts) : IsTidy texts where
  chain := by
    have hpairwise : texts.Pairwise MayFollow :=
      List.pairwise_of_forall_mem_list fun line hline next hnext =>
        .of_ne (h line hline).1 (h next hnext).1
    exact hpairwise.isChain
  head := fun line hline =>
    have hflat := h line (List.mem_of_mem_head? hline)
    ⟨hflat.1, (isInline_iff.1 hflat.2).2.1⟩
  last := fun line hline =>
    have hflat := h line (List.mem_of_mem_getLast? hline)
    ⟨hflat.1, (isInline_iff.1 hflat.2).1⟩
  noBreak := fun line hline => (isInline_iff.1 (h line hline).2).2.2
  balanced := by
    obtain ⟨hopen, hclose⟩ := not_mem_unlines fun line hline => (h line hline).2
    exact .of_not_mem hopen hclose

variable {before after : List String} (hbefore : IsTidy before) (hafter : IsTidy after)

include hbefore hafter

/-- Tidy lines can follow each other, since none of them starts or ends with a blank line. -/
theorem append : IsTidy (before ++ after) where
  chain := hbefore.chain.append hafter.chain fun line hline next hnext =>
    .of_ne (hbefore.last line hline).1 (hafter.head next hnext).1
  head := by
    intro line hline
    rw [List.head?_append, Option.or_eq_some_iff] at hline
    rcases hline with hline | ⟨-, hline⟩
    · exact hbefore.head line hline
    · exact hafter.head line hline
  last := by
    intro line hline
    rw [List.getLast?_append, Option.or_eq_some_iff] at hline
    rcases hline with hline | ⟨-, hline⟩
    · exact hafter.last line hline
    · exact hbefore.last line hline
  noBreak := by
    intro line hline
    rcases List.mem_append.1 hline with hline | hline
    · exact hbefore.noBreak line hline
    · exact hafter.noBreak line hline
  balanced := by
    rw [unlines_append, String.toList_append]
    exact hbefore.balanced.append hafter.balanced

/-- An empty line may stand between lines, but not before the first or behind the last. -/
theorem append_blank (hfirst : before ≠ []) (hlast : after ≠ []) :
    IsTidy (before ++ "" :: after) where
  chain := by
    have hchain : ("" :: after).IsChain MayFollow := by
      refine hafter.chain.cons fun next hnext => ?_
      obtain ⟨hne, hclose⟩ := hafter.head next hnext
      exact ⟨fun _ => hne, fun _ => hne, fun hmem => absurd hmem hclose⟩
    refine hbefore.chain.append hchain fun line hline next hnext => ?_
    obtain rfl : "" = next := Option.some.inj hnext
    obtain ⟨hne, hopen⟩ := hbefore.last line hline
    exact ⟨fun h => absurd h hne, fun hmem => absurd hmem hopen, fun _ => hne⟩
  head := by
    intro line hline
    obtain ⟨first, rest, rfl⟩ := List.exists_cons_of_ne_nil hfirst
    exact hbefore.head line hline
  last := by
    intro line hline
    obtain ⟨first, rest, rfl⟩ := List.exists_cons_of_ne_nil hlast
    rw [List.getLast?_append, List.getLast?_cons_cons] at hline
    have hsome : ((first :: rest).getLast?).isSome := by simp
    rw [Option.or_of_isSome hsome] at hline
    exact hafter.last line hline
  noBreak := by
    intro line hline
    rcases List.mem_append.1 hline with hline | hline
    · exact hbefore.noBreak line hline
    rcases List.mem_cons.1 hline with rfl | hline
    · exact List.not_mem_nil
    · exact hafter.noBreak line hline
  balanced := by
    have hblank : HasBalancedBraces (unlines [""]).toList := .lineBreak
    rw [← List.singleton_append, unlines_append, unlines_append, String.toList_append,
      String.toList_append]
    exact hbefore.balanced.append (hblank.append hafter.balanced)

end IsTidy

section Enclosed

variable {body : List String} (hbody : IsTidy body) {front back : String}
  (hfront : isInline front = true) (hback : isInline back = true)

include hbody hfront hback

/-- A heading, and tidy lines between braces, make a block. -/
theorem isBlock_enclosed {heading : List String} (hheading : AreFlat heading) :
    IsBlock (unlines (heading ++ (front ++ "\x7b") :: (body ++ [back ++ "\x7d"]))).toList := by
  obtain ⟨hopen, hclose⟩ := not_mem_unlines fun line hline => (hheading line hline).2
  obtain ⟨hfrontOpen, hfrontClose, -⟩ := isInline_iff.1 hfront
  obtain ⟨hbackOpen, hbackClose, -⟩ := isInline_iff.1 hback
  refine ⟨(unlines heading).toList ++ front.toList,
    ['\n'] ++ (unlines body).toList ++ back.toList, ?_, ?_, ?_, ?_⟩
  · exact List.not_mem_append hopen hfrontOpen
  · exact List.not_mem_append hclose hfrontClose
  · exact (HasBalancedBraces.lineBreak.append hbody.balanced).append
      (.of_not_mem hbackOpen hbackClose)
  · simp [toList_unlines]

theorem IsTidy.enclosed : IsTidy ((front ++ "\x7b") :: (body ++ [back ++ "\x7d"])) where
  chain := by
    have hclosing : back ++ "\x7d" ≠ "" := by simp
    have hchain : (body ++ [back ++ "\x7d"]).IsChain MayFollow := by
      refine hbody.chain.append (.singleton _) fun line hline next hnext => ?_
      obtain rfl := Option.some.inj hnext
      exact .of_ne (hbody.last line hline).1 hclosing
    refine hchain.cons fun next hnext => ?_
    have hnext : next ≠ "" := by
      rw [Option.mem_def, List.head?_append, Option.or_eq_some_iff] at hnext
      rcases hnext with hnext | ⟨-, hnext⟩
      · exact (hbody.head next hnext).1
      · obtain rfl := Option.some.inj hnext
        exact hclosing
    exact .of_ne (by simp) hnext
  head := by
    intro line hline
    obtain rfl := Option.some.inj hline
    simpa using (isInline_iff.1 hfront).2.1
  last := by
    intro line hline
    rw [← List.cons_append, List.getLast?_concat] at hline
    obtain rfl := Option.some.inj hline
    simpa using (isInline_iff.1 hback).1
  noBreak := by
    intro line hline
    rcases List.mem_cons.1 hline with rfl | hline
    · simpa using (isInline_iff.1 hfront).2.2
    rcases List.mem_append.1 hline with hline | hline
    · exact hbody.noBreak line hline
    · obtain rfl := List.mem_singleton.1 hline
      simpa using (isInline_iff.1 hback).2.2
  balanced := by
    have hnone : AreFlat [] := fun _ hline => absurd hline List.not_mem_nil
    exact (isBlock_enclosed hbody hfront hback hnone).hasBalancedBraces

end Enclosed

/-! ## Tidy fragments -/

namespace Fragment

open CodeWriter (margin docLine docLines)

/-- Fragments whose lines hold text and no braces. -/
def AllFlat (fragments : List Fragment) : Prop :=
  ∀ indent level, AreFlat (allLinesAt indent level fragments)

/-- Fragments whose lines are tidy, however deep they are nested. -/
def AllTidy (fragments : List Fragment) : Prop :=
  ∀ indent level, IsTidy (allLinesAt indent level fragments)

/-- Tidy fragments that are not without lines. -/
structure IsSection (fragments : List Fragment) : Prop where
  allTidy : AllTidy fragments
  ne_nil : ∀ indent level, allLinesAt indent level fragments ≠ []

theorem allFlat_map_line {texts : List String} (h : AreFlat texts) :
    AllFlat (texts.map .line) := by
  intro indent level line hline
  rw [allLinesAt_map_line, List.mem_map] at hline
  obtain ⟨text, htext, rfl⟩ := hline
  obtain ⟨hne, hinline⟩ := h text htext
  simp [isInline_margin, hinline, hne]

theorem allFlat_line {text : String} (hne : text ≠ "") (h : isInline text = true) :
    AllFlat [.line text] := by
  have htext : AreFlat [text] := by
    intro line hline
    obtain rfl := List.mem_singleton.1 hline
    exact ⟨hne, h⟩
  exact allFlat_map_line htext

theorem areFlat_docLines {texts : List String} (h : ∀ text ∈ texts, isInline text = true) :
    AreFlat (docLines texts) := by
  have hdoc (text : String) (htext : text ∈ texts) :
      docLine text ≠ "" ∧ isInline (docLine text) = true := by
    unfold docLine
    split
    · decide
    · have hopening : isInline " * " = true := by decide
      simp [hopening, h text htext]
  have hclosing : isInline " */" = true := by decide
  intro line hline
  rcases texts with - | ⟨first, - | ⟨second, rest⟩⟩
  · exact absurd hline List.not_mem_nil
  · obtain rfl := List.mem_singleton.1 hline
    have hstart : isInline "/** " = true := by decide
    simp [hstart, hclosing, h first List.mem_cons_self]
  · have hlines : docLines (first :: second :: rest) =
        ["/**"] ++ (first :: second :: rest).map docLine ++ [" */"] := rfl
    rw [hlines, List.mem_append, List.mem_append, List.mem_singleton, List.mem_singleton,
      List.mem_map] at hline
    rcases hline with (rfl | ⟨text, htext, rfl⟩) | rfl
    · exact ⟨by decide, by decide⟩
    · exact hdoc text htext
    · exact ⟨by decide, hclosing⟩

theorem allFlat_doc {texts : List String} (h : ∀ text ∈ texts, isInline text = true) :
    AllFlat [.doc texts] := by
  intro indent level
  have hlines := allFlat_map_line (areFlat_docLines h) indent level
  rw [allLinesAt_map_line] at hlines
  simpa [allLinesAt, linesAt] using hlines

theorem AllFlat.append {before after : List Fragment} (hbefore : AllFlat before)
    (hafter : AllFlat after) : AllFlat (before ++ after) := by
  intro indent level line hline
  rw [allLinesAt_append, List.mem_append] at hline
  rcases hline with hline | hline
  · exact hbefore indent level line hline
  · exact hafter indent level line hline

theorem AllFlat.flatMap {α : Type} {f : α → List Fragment} {items : List α}
    (h : ∀ item ∈ items, AllFlat (f item)) : AllFlat (items.flatMap f) := by
  induction items with
  | nil => exact fun _ _ _ hline => absurd hline List.not_mem_nil
  | cons item rest ih =>
    rw [List.flatMap_cons]
    exact (h item List.mem_cons_self).append
      (ih fun other hother => h other (List.mem_cons_of_mem item hother))

theorem AllFlat.allTidy {fragments : List Fragment} (h : AllFlat fragments) :
    AllTidy fragments :=
  fun indent level => .of_areFlat (h indent level)

/-- Tidy fragments stay tidy if they are indented. -/
theorem AllTidy.indent {body : List Fragment} (h : AllTidy body) : AllTidy [.indent body] := by
  intro indent level
  simpa [allLinesAt, linesAt] using h indent (level + 1)

theorem allLinesAt_enclosed (indent : Indent) (level : Nat) (front : String)
    (body : List Fragment) :
    allLinesAt indent level [.line (front ++ "\x7b"), .indent body, .line "\x7d"] =
      (margin indent level ++ front ++ "\x7b") ::
        (allLinesAt indent (level + 1) body ++ [margin indent level ++ "\x7d"]) := by
  simp [allLinesAt, linesAt, String.append_assoc]

namespace IsSection

theorem map_line {texts : List String} (hne : texts ≠ []) (h : AreFlat texts) :
    IsSection (texts.map .line) where
  allTidy := (allFlat_map_line h).allTidy
  ne_nil := by
    intro indent level
    rwa [allLinesAt_map_line, Ne, List.map_eq_nil_iff]

theorem line {text : String} (hne : text ≠ "") (h : isInline text = true) :
    IsSection [.line text] where
  allTidy := (allFlat_line hne h).allTidy
  ne_nil := fun _ _ => List.cons_ne_nil _ _

theorem enclosed {front : String} (hfront : isInline front = true) {body : List Fragment}
    (hbody : AllTidy body) : IsSection [.line (front ++ "\x7b"), .indent body, .line "\x7d"] where
  allTidy := by
    intro indent level
    rw [allLinesAt_enclosed]
    refine (hbody indent (level + 1)).enclosed ?_ (isInline_margin indent level)
    rw [isInline_append, isInline_margin, hfront, Bool.and_self]
  ne_nil := by
    intro indent level
    rw [allLinesAt_enclosed]
    exact List.cons_ne_nil _ _

theorem below {before after : List Fragment} (h : IsSection after) (hbefore : AllTidy before) :
    IsSection (before ++ after) where
  allTidy := by
    intro indent level
    rw [allLinesAt_append]
    exact (hbefore indent level).append (h.allTidy indent level)
  ne_nil := by
    intro indent level
    rw [allLinesAt_append]
    exact List.append_ne_nil_of_right_ne_nil _ (h.ne_nil indent level)

/-- Two sections with a blank line between them are one. -/
theorem append_blank {before after : List Fragment} (hbefore : IsSection before)
    (hafter : IsSection after) : IsSection (before ++ .blank :: after) where
  allTidy := by
    intro indent level
    rw [allLinesAt_append]
    exact (hbefore.allTidy indent level).append_blank (hafter.allTidy indent level)
      (hbefore.ne_nil indent level) (hafter.ne_nil indent level)
  ne_nil := by
    intro indent level
    rw [allLinesAt_append]
    exact List.append_ne_nil_of_left_ne_nil (hbefore.ne_nil indent level) _

/-- Any number of sections with an empty line between them. -/
theorem append_sections {first : List Fragment} (hfirst : IsSection first)
    {parts : List (List Fragment)} (h : ∀ part ∈ parts, IsSection part) :
    IsSection (first ++ parts.flatMap (.blank :: ·)) := by
  induction parts generalizing first with
  | nil => rwa [List.flatMap_nil, List.append_nil]
  | cons part rest ih =>
    rw [List.flatMap_cons, ← List.append_assoc]
    exact ih (hfirst.append_blank (h part List.mem_cons_self))
      fun other hother => h other (List.mem_cons_of_mem part hother)

end IsSection

end Fragment

end DomainForge
