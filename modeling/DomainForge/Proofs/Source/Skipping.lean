import DomainForge.Proofs.Source.Actions
import Mathlib.Tactic.MkIffOfInductiveProp

/-!
# Skipped blocks

A block that cannot be placed in the model is skipped: it opens a detached scope, and up to its
closing brace no line changes the model. Whatever is opened in a detached scope is detached as well
(`perform_opening_detached`), so this holds at any depth, and the state after the block is the state
before it (`parse_skipping`).
-/

namespace DomainForge.Source

open Text

/-! ## Blocks -/

/-- A text that neither opens nor closes a block. -/
@[mk_iff]
structure HasNoBraces (text : String) : Prop where
  opening : '{' ∉ text.toList
  closing : '}' ∉ text.toList

instance (text : String) : Decidable (HasNoBraces text) :=
  decidable_of_iff _ (hasNoBraces_iff text).symm

/-- What may stand before the brace that opens a block. -/
@[mk_iff]
structure IsHeader (header : String) : Prop where
  ne_empty : header ≠ ""
  trimmed : trimmed header = header
  noBraces : HasNoBraces header

instance (header : String) : Decidable (IsHeader header) :=
  decidable_of_iff _ (isHeader_iff header).symm

/-- A line, or a part of one, that opens nothing. -/
@[mk_iff]
structure OpensNothing (text : String) : Prop where
  noBraces : HasNoBraces text
  noKeyword : keywordOf? text.toList = none

instance (text : String) : Decidable (OpensNothing text) :=
  decidable_of_iff _ (opensNothing_iff text).symm

/-- The line that opens a block with the given header. -/
def blockOpening (header : String) : String := header ++ " \x7b"

/-- A block on one line, with the given header and content. -/
def oneLineBlock (header inline : String) : String := header ++ " \x7b " ++ inline ++ " \x7d"

/-- A line that closes the innermost scope and opens none. -/
inductive IsClosing : String → Prop where
  | brace : IsClosing "\x7d"
  | behind {text : String} (h : OpensNothing text) : IsClosing (text ++ " \x7d")

/-- Lines that close every block that they open, with blocks nested in each other. -/
inductive IsBalanced : List String → Prop where
  | nil : IsBalanced []
  | line {text : String} {rest : List String} (htext : OpensNothing text)
      (hrest : IsBalanced rest) :
    IsBalanced (text :: rest)
  | oneLine {header inline : String} {rest : List String} (hheader : IsHeader header)
    (hinline : HasNoBraces inline) (hrest : IsBalanced rest) :
    IsBalanced (oneLineBlock header inline :: rest)
  | block {header closing : String} {inner rest : List String} (hheader : IsHeader header)
    (hinner : IsBalanced inner) (hclosing : IsClosing closing) (hrest : IsBalanced rest) :
    IsBalanced (blockOpening header :: inner ++ closing :: rest)

/-! ## Their actions -/

/-- What is done behind the first opening brace of a line. -/
def inlineActions (inline : List Char) : List Action :=
  if inline.getLast? = some '}' then sayings (trim inline.dropLast) ++ [.close]
  else sayings (trim inline)

theorem opening_congr {head other : List Char} (h : words head = words other) :
    opening head = opening other := by
  simp only [opening, keywordOf?, h]

/-- A line that is more than an opening brace opens what stands before its first one. -/
theorem actionsOf_brace {head inline : List Char} (hhead : '{' ∉ head)
    (hbare : head ++ '{' :: inline ≠ ['{']) :
    actionsOf (head ++ '{' :: inline) = opening head :: inlineActions inline := by
  have hopen (body : List Char) : openActions (head ++ '{' :: body) =
      opening head :: sayings (trim body) := by
    have hbreak : breakOn ['{'] (head ++ '{' :: body) = some (head, body) := breakOn_append hhead
    rw [openActions, hbreak]
    exact congrArg (· :: sayings (trim body)) (opening_congr (words_trim head))
  rw [actionsOf, if_neg hbare, inlineActions]
  by_cases hclose : inline.getLast? = some '}'
  · obtain ⟨body, rfl⟩ := List.getLast?_eq_some_iff.1 hclose
    have hline : head ++ '{' :: (body ++ ['}']) = head ++ '{' :: body ++ ['}'] := by simp
    have htrim : trim (trimEnd body) = trim body := trimWhere_dropTail isBlank body
    -- the opening brace is no blank, so only what stands behind it is trimmed
    rw [if_pos hclose, hline, if_pos List.getLast?_concat, List.dropLast_concat,
      List.dropLast_concat, trimEnd, dropTail_append_cons (by decide), ← trimEnd, hopen, htrim]
    rfl
  · have hlast : (head ++ '{' :: inline).getLast? ≠ some '}' := by
      cases inline with
      | nil => simp
      | cons c rest =>
        rwa [List.getLast?_append_of_ne_nil _ (List.cons_ne_nil _ _), List.getLast?_cons_cons]
    rw [if_neg hclose, if_neg hlast, hopen]

theorem ne_brace_of_blank {text : List Char} (h : ' ' ∈ text) : text ≠ ['{'] := by
  rintro rfl
  exact absurd h (by decide)

/-- A header and a brace open a block, and the rest is inside it. -/
theorem actionsOf_header_append {header : String} (h : HasNoBraces header) (inline : List Char) :
    actionsOf (header.toList ++ ' ' :: '{' :: inline) =
      opening header.toList :: inlineActions inline := by
  have hbrace : '{' ∉ header.toList ++ [' '] := by simpa using h.opening
  have hwords : words (header.toList ++ [' ']) = words header.toList := by
    rw [words_append_cons (by decide), words_nil, List.append_nil]
  have hline : header.toList ++ ' ' :: '{' :: inline =
      header.toList ++ [' '] ++ '{' :: inline := by simp
  rw [hline, actionsOf_brace hbrace (ne_brace_of_blank (by simp)), opening_congr hwords]

theorem actionsOf_blockOpening {header : String} (h : HasNoBraces header) :
    actionsOf (blockOpening header).toList = [opening header.toList] := by
  have htext : (blockOpening header).toList = header.toList ++ ' ' :: '{' :: [] := by
    simp [blockOpening]
  rw [htext, actionsOf_header_append h]
  rfl

theorem actionsOf_oneLineBlock {header inline : String} (h : HasNoBraces header) :
    actionsOf (oneLineBlock header inline).toList =
      opening header.toList :: sayings (trim inline.toList) ++ [.close] := by
  have htext : (oneLineBlock header inline).toList =
      header.toList ++ ' ' :: '{' :: ([' '] ++ inline.toList ++ [' '] ++ ['}']) := by
    simp [oneLineBlock]
  have hblank : ∀ c ∈ [' '], isBlank c = true := List.forall_mem_singleton.2 (by decide)
  have hinline : trim ([' '] ++ inline.toList ++ [' ']) = trim inline.toList :=
    trimWhere_append hblank hblank
  rw [htext, actionsOf_header_append h, inlineActions, if_pos List.getLast?_concat,
    List.dropLast_concat, hinline]
  rfl

theorem openActions_of_noKeyword {text : List Char} (hbrace : '{' ∉ text)
    (hkeyword : keywordOf? text = none) : openActions text = sayings text := by
  simp [openActions, breakOn_eq_none hbrace, hkeyword]

theorem actionsOf_of_noBraces {text : String} (h : HasNoBraces text) :
    actionsOf text.toList = openActions text.toList := by
  have hbrace : text.toList ≠ ['{'] := by
    intro heq
    exact h.opening (heq ▸ List.mem_singleton_self _)
  have hlast : text.toList.getLast? ≠ some '}' :=
    fun hlast => h.closing (List.mem_of_getLast? hlast)
  rw [actionsOf, if_neg hbrace, if_neg hlast]

theorem actionsOf_plain {text : String} (h : OpensNothing text) :
    actionsOf text.toList = sayings text.toList := by
  rw [actionsOf_of_noBraces h.noBraces]
  exact openActions_of_noKeyword h.noBraces.opening h.noKeyword

/-- What stands before a closing brace is said before the scope is closed. -/
theorem actionsOf_closingBehind {text : String} (h : OpensNothing text) :
    actionsOf (text ++ " \x7d").toList = sayings (trimEnd text.toList) ++ [.close] := by
  have htext : (text ++ " \x7d").toList = text.toList ++ [' '] ++ ['}'] := by simp
  have hbrace : text.toList ++ [' '] ++ ['}'] ≠ ['{'] := ne_brace_of_blank (by simp)
  have hopen : '{' ∉ trimEnd text.toList :=
    fun hmem => h.noBraces.opening (mem_of_mem_dropTail hmem)
  have hkeyword : keywordOf? (trimEnd text.toList) = none := by
    rw [keywordOf?, words_trimEnd]
    exact h.noKeyword
  rw [htext, actionsOf, if_neg hbrace, if_pos List.getLast?_concat, List.dropLast_concat, trimEnd,
    dropTail_append (List.forall_mem_singleton.2 (by decide)), ← trimEnd,
    openActions_of_noKeyword hopen hkeyword]

/-- A line that closes may say something first. -/
theorem actionsOf_closing {closing : String} (h : IsClosing closing) :
    ∃ text, actionsOf closing.toList = sayings text ++ [.close] := by
  cases h with
  | brace => exact ⟨[], by decide⟩
  | behind hnothing => exact ⟨_, actionsOf_closingBehind hnothing⟩

/-! ## In a detached scope -/

/-- What is opened in a detached scope is detached. -/
theorem perform_opening_detached (state : State) (header : List Char) :
    (opening header).perform (state.push .detached) = (state.push .detached).push .detached := by
  unfold opening
  cases keywordOf? header with
  | none => rfl
  | some keyword =>
    cases keyword with
    | boundedContext => simp [Action.perform, State.declare, State.push]
    | aggregate => rfl
    | entity => rfl
    | valueObject => rfl
    | enumeration => rfl

/-- What is said in a detached scope is ignored. -/
theorem foldl_sayings_detached (state : State) (text : List Char) :
    (sayings text).foldl Action.perform (state.push .detached) = state.push .detached := by
  unfold sayings
  split <;> rfl

/-- A detached block ends where it is closed. -/
theorem readLine_closing_detached {closing : String} (h : IsClosing closing) (state : State) :
    (state.push .detached).readLine closing.toList = state := by
  obtain ⟨text, hactions⟩ := actionsOf_closing h
  rw [State.readLine_eq_foldl, hactions, List.foldl_append, foldl_sayings_detached]
  rfl

/-- Balanced lines leave a detached block open and the model alone. -/
theorem readTexts_balanced {body : List String} (h : IsBalanced body) (state : State) :
    readTexts (state.push .detached) body = state.push .detached := by
  -- a block inside is read one detached scope further in, so the state varies
  induction h generalizing state with
  | nil => rfl
  | line htext hrest ih =>
    rw [readTexts_cons, State.readLine_eq_foldl, actionsOf_plain htext, foldl_sayings_detached]
    exact ih state
  | oneLine hheader hinline hrest ih =>
    rw [readTexts_cons, State.readLine_eq_foldl, actionsOf_oneLineBlock hheader.noBraces,
      List.cons_append, List.foldl_cons, perform_opening_detached, List.foldl_append,
      foldl_sayings_detached]
    exact ih state
  | block hheader hinner hclosing hrest ihinner ihrest =>
    rw [List.cons_append, readTexts_cons, State.readLine_eq_foldl,
      actionsOf_blockOpening hheader.noBraces, List.foldl_cons, List.foldl_nil,
      perform_opening_detached, readTexts_append, ihinner, readTexts_cons,
      readLine_closing_detached hclosing]
    exact ihrest state

/-! ## Skipping -/

theorem openUnit_eq_push_detached {state : State} {add : Aggregate → Aggregate}
    {count : Aggregate → Nat} {scope : Nat → Nat → Nat → Scope}
    (hscope : ∀ c a k, scope c a k ≠ .detached)
    (h : (state.openUnit add count scope).scopes = .detached :: state.scopes) :
    state.openUnit add count scope = state.push .detached := by
  unfold State.openUnit at h ⊢
  split at h
  · exact absurd (List.cons.inj h).1 (hscope _ _ _)
  · rfl

/-- A declaration that opens a detached scope does nothing else. -/
theorem declare_eq_push_detached {state : State} {keyword : Keyword} {name : String}
    (h : (state.declare keyword name).scopes = .detached :: state.scopes) :
    state.declare keyword name = state.push .detached := by
  cases keyword with
  | boundedContext =>
    simp only [State.declare] at h ⊢
    split at h
    · rw [if_pos ‹_›]
    · cases h
  | aggregate =>
    simp only [State.declare] at h ⊢
    split at h
    · cases h
    · rfl
  | entity | valueObject | enumeration => exact openUnit_eq_push_detached (by simp) h

/-- If a header opens a detached scope, it does nothing else. -/
theorem readLine_blockOpening {state : State} {header : String} (hheader : IsHeader header)
    (h : (state.readLine (blockOpening header).toList).scopes = .detached :: state.scopes) :
    state.readLine (blockOpening header).toList = state.push .detached := by
  rw [State.readLine_eq_foldl, actionsOf_blockOpening hheader.noBraces, List.foldl_cons,
    List.foldl_nil] at h ⊢
  unfold opening at h ⊢
  cases hkeyword : keywordOf? header.toList with
  | none => rfl
  | some keyword =>
    rw [hkeyword] at h
    exact declare_eq_push_detached h

/-- The texts of the logical lines of a text. -/
def logicalTexts (source : String) : List String :=
  (logicalLines source).map Line.text

theorem parse_eq_readTexts (source : String) :
    parse source = (readTexts {} (logicalTexts source)).model := by
  rw [parse, readLines_eq_readTexts]
  rfl

/-- **Skipped blocks are transparent.** If the header of a block opens a detached scope, the block
leaves the state as it was. So a text is read as it would be read without the block, wherever the
block stands among its lines. -/
theorem parse_skipping {state : State} {header closing : String} {body : List String}
    (hheader : IsHeader header)
    (hdetached : (state.readLine (blockOpening header).toList).scopes = .detached :: state.scopes)
    (hbody : IsBalanced body) (hclosing : IsClosing closing) :
    readTexts state (blockOpening header :: body ++ [closing]) = state ∧
      ∀ (short long : String) (before after : List String),
        readTexts {} before = state →
        logicalTexts short = before ++ after →
        logicalTexts long = before ++ (blockOpening header :: body ++ [closing]) ++ after →
        parse long = parse short := by
  have hblock : readTexts state (blockOpening header :: body ++ [closing]) = state := by
    rw [List.cons_append, readTexts_cons, readLine_blockOpening hheader hdetached, readTexts_append,
      readTexts_balanced hbody, readTexts_cons, readLine_closing_detached hclosing, readTexts_nil]
  refine ⟨hblock, ?_⟩
  intro short long before after hstate hshort hlong
  rw [parse_eq_readTexts, parse_eq_readTexts, hshort, hlong, List.append_assoc, readTexts_append,
    readTexts_append {} before after, hstate, readTexts_append, hblock]

/-- A body with declarations that are nested in each other and cannot be placed. -/
def lostBody : List String :=
  ["String name", "Aggregate A \x7b", "enum K \x7b B, C \x7d", "int n \x7d", "T \x7b  \x7d"]

theorem isBalanced_lostBody : IsBalanced lostBody := by
  have hinner : IsBalanced [oneLineBlock "enum K" "B, C"] := .oneLine (by decide) (by decide) .nil
  have hclosing : IsClosing ("int n" ++ " \x7d") := .behind (by decide)
  have hlast : IsBalanced [oneLineBlock "T" ""] := .oneLine (by decide) (by decide) .nil
  have hblock : IsBalanced (blockOpening "Aggregate A" :: [oneLineBlock "enum K" "B, C"] ++
      ("int n" ++ " \x7d") :: [oneLineBlock "T" ""]) := .block (by decide) hinner hclosing hlast
  exact .line (by decide) hblock

theorem parse_skipping_lostEntity :
    IsHeader "Entity L" ∧
    ((readTexts {} ["BoundedContext S \x7b"]).readLine (blockOpening "Entity L").toList).scopes =
      .detached :: (readTexts {} ["BoundedContext S \x7b"]).scopes ∧
    IsBalanced lostBody ∧ IsClosing "x \x7d" ∧
    readTexts (readTexts {} ["BoundedContext S \x7b"])
        (blockOpening "Entity L" :: lostBody ++ ["x \x7d"]) =
      readTexts {} ["BoundedContext S \x7b"] ∧
    parse (unlines (["BoundedContext S \x7b"] ++
        (blockOpening "Entity L" :: lostBody ++ ["x \x7d"]) ++ ["Aggregate O \x7b", "\x7d"])) =
      parse (unlines ["BoundedContext S \x7b", "Aggregate O \x7b", "\x7d"]) := by
  have hheader : IsHeader "Entity L" := by decide
  have hdetached : ((readTexts {} ["BoundedContext S \x7b"]).readLine
      (blockOpening "Entity L").toList).scopes =
        .detached :: (readTexts {} ["BoundedContext S \x7b"]).scopes := by decide +kernel
  have hclosing : IsClosing ("x" ++ " \x7d") := .behind (by decide)
  have hskip := parse_skipping hheader hdetached isBalanced_lostBody hclosing
  refine ⟨hheader, hdetached, isBalanced_lostBody, hclosing, hskip.1, ?_⟩
  exact hskip.2 _ _ ["BoundedContext S \x7b"] ["Aggregate O \x7b", "\x7d"] rfl
    (by decide +kernel) (by decide +kernel)

end DomainForge.Source
