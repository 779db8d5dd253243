import DomainForge.Proofs.Source.Scopes
import DomainForge.Proofs.Source.Skipping

/-!
# Layouts of a block

A block with its brace behind its header may be written on one line or on several. Every layout does
the same things in the same order: it opens the block, says what stands in it, and closes it
(`readTexts_blockLayouts`).

A keyword opens its block even without a brace, so the brace may stand on the line below, where it
is ignored. This is true only of a line that is nothing but the brace. If more stands behind it, the
brace opens a detached scope in the block that is already open (`readLine_looseBrace`): what is said
there is lost, and a closing brace on that line leaves the block open. So the two ways to write the
brace agree on bare braces and nowhere else (`readTexts_looseBrace_iff`).
-/

namespace DomainForge.Source

open Text

/-! ## What actions do to the open scopes -/

theorem exists_scopes_openUnit (state : State) (add : Aggregate → Aggregate)
    (count : Aggregate → Nat) (unit : Nat → Nat → Nat → Scope) :
    ∃ scope, (state.openUnit add count unit).scopes = scope :: state.scopes := by
  unfold State.openUnit
  split
  · exact ⟨_, rfl⟩
  · exact ⟨.detached, rfl⟩

/-- A declaration opens one scope, wherever it stands. -/
theorem exists_scopes_declare (state : State) (keyword : Keyword) (name : String) :
    ∃ scope, (state.declare keyword name).scopes = scope :: state.scopes := by
  cases keyword with
  | boundedContext =>
    simp only [State.declare]
    split
    · exact ⟨.detached, rfl⟩
    · exact ⟨_, rfl⟩
  | aggregate =>
    simp only [State.declare]
    split
    · exact ⟨_, rfl⟩
    · exact ⟨.detached, rfl⟩
  | entity | valueObject | enumeration => exact exists_scopes_openUnit state _ _ _

theorem exists_scopes_opening (state : State) (head : List Char) :
    ∃ scope, ((opening head).perform state).scopes = scope :: state.scopes := by
  unfold opening
  cases keywordOf? head with
  | none => exact ⟨.detached, rfl⟩
  | some keyword => exact exists_scopes_declare state keyword _

/-- Nothing that is said inside a block opens or closes a scope. -/
theorem scopes_content (state : State) (text : List Char) :
    (state.content text).scopes = state.scopes := by
  unfold State.content
  split <;> rfl

theorem scopes_foldl_sayings (state : State) (text : List Char) :
    ((sayings text).foldl Action.perform state).scopes = state.scopes := by
  unfold sayings
  split
  · rfl
  · exact scopes_content state text

/-- What stands behind a brace closes the block if it ends with a brace. -/
theorem scopes_foldl_inlineActions (state : State) (inline : List Char) :
    ((inlineActions inline).foldl Action.perform state).scopes =
      if inline.getLast? = some '}' then state.scopes.tail else state.scopes := by
  unfold inlineActions
  split
  · rw [List.foldl_append]
    exact congrArg List.tail (scopes_foldl_sayings state _)
  · exact scopes_foldl_sayings state _

/-! ## Layouts with the brace behind the header -/

/-- The ways to write a block with a body of one line. -/
def blockLayouts (header body : String) : List (List String) :=
  [[oneLineBlock header body],
    [blockOpening header, body, "\x7d"],
    [blockOpening header, body ++ " \x7d"],
    [blockOpening header ++ " " ++ body, "\x7d"]]

section Layouts

variable {header body : String} (hheader : HasNoBraces header) (hbody : OpensNothing body)
  (htrimmed : trimmed body = body)

include hheader hbody in
/-- A block that is opened and filled on one line, and closed later. -/
theorem actionsOf_unclosedBlock :
    actionsOf (blockOpening header ++ " " ++ body).toList =
      opening header.toList :: sayings (trim body.toList) := by
  have htext : (blockOpening header ++ " " ++ body).toList =
      header.toList ++ ' ' :: '{' :: (' ' :: body.toList) := by
    simp [blockOpening]
  have hlast : (' ' :: body.toList).getLast? ≠ some '}' := by
    intro hlast
    have hmem := List.mem_of_getLast? hlast
    rcases List.mem_cons.1 hmem with heq | hmem
    · exact absurd heq (by decide)
    · exact hbody.noBraces.closing hmem
  have htrim : trim (' ' :: body.toList) = trim body.toList :=
    congrArg trimEnd (List.dropWhile_cons_of_pos (by decide))
  rw [htext, actionsOf_header_append hheader, inlineActions, if_neg hlast, htrim]

include hheader hbody htrimmed in
/-- All layouts do the same, one line after another. -/
theorem flatMap_actionsOf_blockLayouts {layout : List String}
    (hlayout : layout ∈ blockLayouts header body) :
    layout.flatMap (fun text => actionsOf text.toList) =
      opening header.toList :: sayings body.toList ++ [.close] := by
  have htrim : trim body.toList = body.toList := trim_toList htrimmed
  have hend : trimEnd body.toList = body.toList :=
    dropTail_eq_self (isTrimmed_iff.2 htrim).last
  have hclose : actionsOf "\x7d".toList = [.close] := by decide
  simp only [blockLayouts, List.mem_cons, List.not_mem_nil, or_false] at hlayout
  rcases hlayout with rfl | rfl | rfl | rfl
  · simp only [List.flatMap_cons, List.flatMap_nil, List.append_nil,
      actionsOf_oneLineBlock hheader, htrim]
  · simp only [List.flatMap_cons, List.flatMap_nil, List.append_nil,
      actionsOf_blockOpening hheader, actionsOf_plain hbody, hclose]
    rfl
  · simp only [List.flatMap_cons, List.flatMap_nil, List.append_nil,
      actionsOf_blockOpening hheader, actionsOf_closingBehind hbody, hend]
    rfl
  · simp only [List.flatMap_cons, List.flatMap_nil, List.append_nil,
      actionsOf_unclosedBlock hheader hbody, hclose, htrim]

end Layouts

/-- **A block may be written on one line or on several.** All layouts lead to the same state, with
the scopes open that were open before the block. So a text is read alike however its blocks are laid
out. -/
theorem readTexts_blockLayouts (state : State) {header body : String}
    (hheader : HasNoBraces header) (hbody : OpensNothing body) (htrimmed : trimmed body = body)
    {layout other : List String} (hlayout : layout ∈ blockLayouts header body)
    (hother : other ∈ blockLayouts header body) :
    readTexts state layout = readTexts state other ∧
      (readTexts state layout).scopes = state.scopes ∧
      ∀ (source rearranged : String) (before after : List String),
        logicalTexts source = before ++ layout ++ after →
        logicalTexts rearranged = before ++ other ++ after →
        parse source = parse rearranged := by
  have hactions {layout : List String} (hlayout : layout ∈ blockLayouts header body)
      (state : State) : readTexts state layout =
        (opening header.toList :: sayings body.toList ++ [Action.close]).foldl Action.perform
          state := by
    rw [readTexts_eq_foldl, flatMap_actionsOf_blockLayouts hheader hbody htrimmed hlayout]
  have hsame (state : State) : readTexts state layout = readTexts state other :=
    (hactions hlayout state).trans (hactions hother state).symm
  refine ⟨hsame state, ?_, ?_⟩
  · obtain ⟨scope, hscope⟩ := exists_scopes_opening state header.toList
    rw [hactions hlayout, List.foldl_append, List.foldl_cons]
    exact congrArg List.tail ((scopes_foldl_sayings _ _).trans hscope)
  · intro source rearranged before after hsource hrearranged
    rw [parse_eq_readTexts, parse_eq_readTexts, hsource, hrearranged, readTexts_append,
      readTexts_append, readTexts_append, readTexts_append, hsame]

/-- A text whose first two lines open an aggregate, with lines that stand in it. -/
def inSales (texts : List String) : String :=
  unlines (["BoundedContext Sales \x7b", "Aggregate Order \x7b"] ++ texts ++ ["\x7d", "\x7d"])

/-- The state in that aggregate. -/
def salesState : State :=
  readLines {} ((logicalLines (inSales [])).take 2)

theorem readTexts_blockLayouts_status :
    HasNoBraces "enum Status" ∧ OpensNothing "open, closed;" ∧
    trimmed "open, closed;" = "open, closed;" ∧
    ["enum Status \x7b open, closed; \x7d"] ∈ blockLayouts "enum Status" "open, closed;" ∧
    ["enum Status \x7b", "open, closed; \x7d"] ∈ blockLayouts "enum Status" "open, closed;" ∧
    readTexts salesState ["enum Status \x7b open, closed; \x7d"] =
      readTexts salesState ["enum Status \x7b", "open, closed; \x7d"] ∧
    parse (inSales ["enum Status \x7b open, closed; \x7d"]) =
      parse (inSales ["enum Status \x7b", "open, closed; \x7d"]) := by
  have hheader : HasNoBraces "enum Status" := by decide
  have hbody : OpensNothing "open, closed;" := by decide
  have htrimmed : trimmed "open, closed;" = "open, closed;" := by decide
  have hlayout : ["enum Status \x7b open, closed; \x7d"] ∈
      blockLayouts "enum Status" "open, closed;" := by decide
  have hother : ["enum Status \x7b", "open, closed; \x7d"] ∈
      blockLayouts "enum Status" "open, closed;" := by decide
  obtain ⟨hsame, -, hparse⟩ :=
    readTexts_blockLayouts salesState hheader hbody htrimmed hlayout hother
  refine ⟨hheader, hbody, htrimmed, hlayout, hother, hsame, ?_⟩
  exact hparse _ _ ["BoundedContext Sales \x7b", "Aggregate Order \x7b"] ["\x7d", "\x7d"]
    (by decide +kernel) (by decide +kernel)

/-! ## A brace below its header -/

/-- What opens a declaration on a line of its own. -/
@[mk_iff]
structure IsDeclarationHeader (header : String) : Prop where
  noBraces : HasNoBraces header
  isKeyword : (keywordOf? header.toList).isSome

instance (header : String) : Decidable (IsDeclarationHeader header) :=
  decidable_of_iff _ (isDeclarationHeader_iff header).symm

/-- A keyword and a name head a declaration. -/
theorem isDeclarationHeader_of_name (keyword : Keyword) {name : String} (hname : HasNoBraces name) :
    IsDeclarationHeader (keyword.spelling ++ " " ++ name) := by
  have htext : (keyword.spelling ++ " " ++ name).toList =
      keyword.spelling.toList ++ ' ' :: name.toList := by simp
  have hsign {c : Char} (hc : isAsciiWordChar c = false) : c ∉ keyword.spelling.toList :=
    (isWord_spelling keyword).not_mem hc
  refine ⟨⟨?_, ?_⟩, ?_⟩
  · simpa [htext, hsign (c := '{') (by decide)] using hname.opening
  · simpa [htext, hsign (c := '}') (by decide)] using hname.closing
  · rw [htext, keywordOf?, words_append_cons (by decide), words_spelling]
    simp [ofToken?_spelling]

/-- A header without a brace opens its declaration all the same. -/
theorem IsDeclarationHeader.actionsOf_eq {header : String} (h : IsDeclarationHeader header) :
    actionsOf header.toList = [opening header.toList] := by
  rw [actionsOf_of_noBraces h.noBraces, openActions, breakOn_eq_none h.noBraces.opening]
  exact if_pos h.isKeyword

/-- A brace with something behind it opens a detached scope, in which nothing is said. -/
theorem readLine_looseBrace (state : State) {remainder : String} (hne : remainder ≠ "") :
    state.readLine ("\x7b" ++ remainder).toList =
      if remainder.toList.getLast? = some '}' then state else state.push .detached := by
  have htext : ("\x7b" ++ remainder).toList = [] ++ '{' :: remainder.toList := by simp
  have hbare : [] ++ '{' :: remainder.toList ≠ ['{'] := by simpa using hne
  rw [State.readLine_eq_foldl, htext, actionsOf_brace List.not_mem_nil hbare, List.foldl_cons,
    inlineActions]
  have hdetach : (opening []).perform state = state.push .detached := rfl
  rw [hdetach]
  split
  · rw [List.foldl_append, foldl_sayings_detached]
    rfl
  · exact foldl_sayings_detached state _

/-- **A brace may stand below its header only if nothing stands behind it.** -/
theorem readTexts_looseBrace_iff (state : State) {header : String}
    (hheader : IsDeclarationHeader header) (remainder : String) :
    readTexts state [header ++ " \x7b" ++ remainder] =
        readTexts state [header, "\x7b" ++ remainder] ↔
      remainder = "" := by
  have htext : (header ++ " \x7b" ++ remainder).toList =
      header.toList ++ ' ' :: '{' :: remainder.toList := by simp
  have hone : readTexts state [header ++ " \x7b" ++ remainder] =
      (inlineActions remainder.toList).foldl Action.perform
        ((opening header.toList).perform state) := by
    rw [readTexts_cons, readTexts_nil, State.readLine_eq_foldl, htext,
      actionsOf_header_append hheader.noBraces, List.foldl_cons]
  have hopened : state.readLine header.toList = (opening header.toList).perform state := by
    rw [State.readLine_eq_foldl, hheader.actionsOf_eq]
    rfl
  rw [hone, readTexts_cons, readTexts_cons, readTexts_nil, hopened]
  constructor
  · intro heq
    by_contra hne
    -- on two lines one scope more is left open
    obtain ⟨scope, hscope⟩ := exists_scopes_opening state header.toList
    have hscopes := congrArg (fun state => state.scopes.length) heq
    simp only [readLine_looseBrace _ hne, scopes_foldl_inlineActions] at hscopes
    split at hscopes <;> simp [hscope, State.push] at hscopes
  · rintro rfl
    rfl

theorem readTexts_looseBrace_iff_status :
    IsDeclarationHeader "enum Status" ∧
    readTexts salesState ["enum Status \x7b"] = readTexts salesState ["enum Status", "\x7b"] ∧
    readTexts salesState ["enum Status \x7b\x7d"] ≠
      readTexts salesState ["enum Status", "\x7b\x7d"] := by
  have hname : HasNoBraces "Status" := by decide
  have hheader : IsDeclarationHeader "enum Status" := isDeclarationHeader_of_name .enumeration hname
  refine ⟨hheader, (readTexts_looseBrace_iff salesState hheader "").2 rfl, ?_⟩
  exact mt (readTexts_looseBrace_iff salesState hheader "\x7d").1 (by decide)

/-- With the brace below its header an enumeration loses its values, and its scope stays open. -/
theorem looseBrace_loses_values :
    salesState.IsReachable ∧ IsDeclarationHeader "enum Status" ∧
    readTexts salesState ["enum Status" ++ " \x7b" ++ " open, closed \x7d"] ≠
      readTexts salesState ["enum Status", "\x7b" ++ " open, closed \x7d"] ∧
    (parse (inSales ["enum Status \x7b open, closed \x7d"])).aggregate? 0 0 =
      some { name := "Order", enums := [{ name := "Status", values := ["open", "closed"] }] } ∧
    (parse (inSales ["enum Status", "\x7b open, closed \x7d"])).aggregate? 0 0 =
      some { name := "Order", enums := [{ name := "Status" }] } := by
  refine ⟨⟨inSales [], 2, rfl⟩, by decide, ?_, by decide +kernel, by decide +kernel⟩
  decide +kernel

end DomainForge.Source
