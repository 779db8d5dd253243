import DomainForge.Proofs.Source.Skipping

/-!
# Texts one after another

Two texts that stand one after another, with a line end between them, are read as each would be read
alone, if the first one ends outside of all blocks and comments (`parse_append_newline`).

There are two sides to this. The logical lines of the whole are those of its parts, since all that
the lines of a text leave to those behind them is whether a comment is open (`scanLines_append`),
and since nothing is found on the last line of the first part that was not found there without the
line end (`scanLines_finished`). And the lines of the second part are read behind a model that is
there already. Scopes hold positions in the whole model, so this run differs from the run of the
second part alone by a shift of all positions, which every action keeps (`perform_after`).
-/

namespace DomainForge

open Source

/-! ## Models behind contexts -/

theorem modify_append_add {α : Type} (done rest : List α) (index : Nat) (f : α → α) :
    (done ++ rest).modify (done.length + index) f = done ++ rest.modify index f := by
  induction done with
  | nil => simp
  | cons item others ih =>
    have hindex : (item :: others).length + index = others.length + index + 1 := by
      rw [List.length_cons]
      omega
    rw [hindex, List.cons_append, List.modify_succ_cons, ih, List.cons_append]

namespace Model

/-- A model with contexts in front of it. -/
def behind (done : List BoundedContext) (model : Model) : Model :=
  { contexts := done ++ model.contexts }

variable (done : List BoundedContext) (model : Model) (c a : Nat)

@[simp] theorem contexts_behind : (model.behind done).contexts = done ++ model.contexts :=
  rfl

theorem getElem?_behind : (model.behind done).contexts[done.length + c]? = model.contexts[c]? := by
  rw [contexts_behind, List.getElem?_append_right (Nat.le_add_right _ _), Nat.add_sub_cancel_left]

theorem aggregate?_behind :
    (model.behind done).aggregate? (done.length + c) a = model.aggregate? c a := by
  unfold aggregate?
  rw [getElem?_behind]

/-- Changing an aggregate does not depend on the contexts before it. -/
theorem modifyAggregate_behind (f : Aggregate → Aggregate) :
    (model.behind done).modifyAggregate (done.length + c) a f =
      (model.modifyAggregate c a f).behind done := by
  unfold modifyAggregate
  rw [contexts_behind, modify_append_add]
  rfl

end Model

namespace Source

open Text

/-! ## Reading behind contexts -/

/-- The scope in a model with a number of contexts in front. -/
def Scope.shift (count : Nat) : Scope → Scope
  | context c => context (count + c)
  | aggregate c a => aggregate (count + c) a
  | entity c a k => entity (count + c) a k
  | valueObject c a k => valueObject (count + c) a k
  | enumeration c a k => enumeration (count + c) a k
  | detached => detached

/-- What is found behind a shift is what is found without it, shifted. -/
theorem Scope.nearest?_shift {α : Type} {accept : Scope → Option α} {move : α → α} {count : Nat}
    (haccept : ∀ scope : Scope, accept (scope.shift count) = (accept scope).map move)
    (scopes : List Scope) :
    nearest? accept (scopes.map (shift count)) = (nearest? accept scopes).map move := by
  induction scopes with
  | nil => rfl
  | cons scope outer ih =>
    by_cases hdetached : scope = .detached
    · subst hdetached
      rfl
    · have hshift : scope.shift count ≠ .detached := by cases scope <;> simp_all [shift]
      rw [List.map_cons, nearest?, nearest?, haccept]
      · cases accept scope with
        | none => exact ih
        | some found => rfl
      · exact hdetached
      · exact hshift

namespace State

/-- A state of reading with contexts in front of the model. -/
def after (done : List BoundedContext) (state : State) : State :=
  { model := state.model.behind done
    scopes := state.scopes.map (Scope.shift done.length) }

variable (done : List BoundedContext) (state : State)

theorem push_after (scope : Scope) :
    (state.after done).push (scope.shift done.length) = (state.push scope).after done :=
  rfl

theorem pop_after : (state.after done).pop = state.pop.after done := by
  simp [pop, after]

theorem contains_detached_after :
    (state.after done).scopes.contains .detached = state.scopes.contains .detached := by
  rw [Bool.eq_iff_iff, List.contains_iff_mem, List.contains_iff_mem, after, List.mem_map]
  constructor
  · rintro ⟨scope, hscope, hshift⟩
    cases scope <;> simp_all [Scope.shift]
  · exact fun hmem => ⟨.detached, hmem, rfl⟩

theorem openContext_after (name : String) :
    (state.after done).openContext name = (state.openContext name).after done := by
  simp [openContext, after, Scope.shift, Model.behind]

theorem openAggregate_after (c : Nat) (name : String) :
    (state.after done).openAggregate (done.length + c) name =
      (state.openAggregate c name).after done := by
  unfold openAggregate after
  simp only [Model.getElem?_behind, List.map_cons, Scope.shift]
  rw [Model.contexts_behind, modify_append_add]
  rfl

theorem unitsOf_after (c a : Nat) (count : Aggregate → Nat) :
    (state.after done).unitsOf (done.length + c) a count = state.unitsOf c a count := by
  unfold unitsOf after
  rw [Model.aggregate?_behind]

/-- A unit is added alike behind other contexts, if its scope is shifted with them. -/
theorem addUnit_after (c a : Nat) {add : Aggregate → Aggregate} {count : Aggregate → Nat}
    {scope : Nat → Nat → Nat → Scope}
    (hscope : ∀ k, (scope c a k).shift done.length = scope (done.length + c) a k) :
    (state.after done).addUnit (done.length + c) a add count scope =
      (state.addUnit c a add count scope).after done := by
  simp only [addUnit, unitsOf_after]
  simp only [after, Model.modifyAggregate_behind, List.map_cons, hscope]

theorem openUnit_after {add : Aggregate → Aggregate} {count : Aggregate → Nat}
    {scope : Nat → Nat → Nat → Scope}
    (hscope : ∀ c a k, (scope c a k).shift done.length = scope (done.length + c) a k) :
    (state.after done).openUnit add count scope =
      (state.openUnit add count scope).after done := by
  have hnearest : Scope.nearest? Scope.aggregate? (state.after done).scopes =
      (Scope.nearest? Scope.aggregate? state.scopes).map fun found =>
        (done.length + found.1, found.2) :=
    Scope.nearest?_shift (fun scope => by cases scope <;> rfl) state.scopes
  unfold openUnit
  rw [hnearest]
  cases Scope.nearest? Scope.aggregate? state.scopes with
  | none => exact push_after done state .detached
  | some found => exact addUnit_after done state found.1 found.2 (hscope _ _)

theorem declare_after (keyword : Keyword) (name : String) :
    (state.after done).declare keyword name = (state.declare keyword name).after done := by
  cases keyword with
  | boundedContext =>
    simp only [declare, contains_detached_after]
    split
    · exact push_after done state .detached
    · exact openContext_after done state name
  | aggregate =>
    have hnearest : Scope.nearest? Scope.context? (state.after done).scopes =
        (Scope.nearest? Scope.context? state.scopes).map (done.length + ·) :=
      Scope.nearest?_shift (fun scope => by cases scope <;> rfl) state.scopes
    simp only [declare, hnearest]
    cases Scope.nearest? Scope.context? state.scopes with
    | none => exact push_after done state .detached
    | some c => exact openAggregate_after done state c name
  | entity | valueObject | enumeration => exact openUnit_after done state fun _ _ _ => rfl

theorem content_after (text : List Char) :
    (state.after done).content text = (state.content text).after done := by
  have hhead : (state.after done).scopes.head? =
      state.scopes.head?.map (Scope.shift done.length) := List.head?_map
  unfold content
  rw [hhead]
  cases state.scopes.head? with
  | none => rfl
  | some scope =>
    cases scope <;>
      simp only [Option.map_some, Scope.shift, after, Model.modifyAggregate_behind]

/-- **Every action keeps the shift.** -/
theorem perform_after (action : Action) :
    action.perform (state.after done) = (action.perform state).after done := by
  cases action with
  | declare keyword name => exact declare_after done state keyword name
  | detach => exact push_after done state .detached
  | say text => exact content_after done state text
  | close => exact pop_after done state

theorem readLine_after (text : List Char) :
    (state.after done).readLine text = (state.readLine text).after done := by
  rw [readLine_eq_foldl, readLine_eq_foldl]
  exact List.foldl_hom (after done) fun state action => perform_after done state action

end State

theorem readTexts_after (done : List BoundedContext) (state : State) (texts : List String) :
    readTexts (state.after done) texts = (readTexts state texts).after done :=
  List.foldl_hom (State.after done) fun state text => State.readLine_after done state text.toList

/-- Between blocks all that is known is the model, so reading goes on as it would begin. -/
theorem readTexts_of_scopes_eq_nil {state : State} (h : state.scopes = []) (texts : List String) :
    readTexts state texts = (readTexts {} texts).after state.model.contexts := by
  have hstate : state = State.after state.model.contexts {} := by
    obtain ⟨model, scopes⟩ := state
    cases h
    simp [State.after, Model.behind]
  conv_lhs => rw [hstate]
  exact readTexts_after state.model.contexts {} texts

/-! ## Logical lines of two texts -/

/-- Lines are scanned one after another, with the number and the comment passed on. -/
theorem scanLines_append (number : Nat) (inBlock : Bool) (first rest : List (List Char)) :
    scanLines number inBlock (first ++ rest) =
      ((scanLines number inBlock first).1 ++
          (scanLines (number + first.length) (scanLines number inBlock first).2 rest).1,
        (scanLines (number + first.length) (scanLines number inBlock first).2 rest).2) := by
  induction first generalizing number inBlock with
  | nil => rfl
  | cons raw others ih =>
    have hnumber : number + (raw :: others).length = number + 1 + others.length := by
      rw [List.length_cons]
      omega
    rw [hnumber, List.cons_append]
    simp only [scanLines, ih]
    split <;> rfl

/-- The texts of lines do not depend on how the lines are numbered. -/
theorem texts_scanLines_eq (number other : Nat) (inBlock : Bool) (raws : List (List Char)) :
    (scanLines number inBlock raws).1.map Line.text =
      (scanLines other inBlock raws).1.map Line.text := by
  induction raws generalizing number other inBlock with
  | nil => rfl
  | cons raw rest ih =>
    simp only [scanLines]
    have hrest := ih (number + 1) (other + 1) (stripComments inBlock raw).2
    split
    · exact hrest
    · rw [List.map_cons, List.map_cons, hrest]

/-- A text keeps its first character when another one is put behind it. -/
theorem exists_cons_of_append_eq_cons {raw t after : List Char} {c : Char} (ht : t.head? ≠ some c)
    (h : raw ++ t = c :: after) : ∃ rest, raw = c :: rest := by
  cases raw with
  | nil =>
    subst h
    exact absurd rfl ht
  | cons d rest => exact ⟨rest, by rw [(List.cons.inj h).1]⟩

/-- A carriage return at the end of a line is left there, or is part of a comment. -/
theorem stripComments_append_return (inBlock : Bool) (raw : List Char) :
    ∃ tail : List Char, (∀ c ∈ tail, isBlank c = true) ∧
      stripComments inBlock (raw ++ ['\r']) =
        ((stripComments inBlock raw).1 ++ tail, (stripComments inBlock raw).2) := by
  fun_induction stripComments inBlock raw with
  | case1 inBlock =>
    cases inBlock with
    | false =>
      refine ⟨['\r'], fun c hc => ?_, rfl⟩
      rw [List.mem_singleton.1 hc]
      decide
    | true => exact ⟨[], by simp, rfl⟩
  | case2 rest ih => exact ih
  | case3 c rest hclose ih =>
    obtain ⟨tail, htail, hrest⟩ := ih
    refine ⟨tail, htail, ?_⟩
    rw [List.cons_append, stripComments, hrest]
    intro after hc hafter
    obtain ⟨others, rfl⟩ := exists_cons_of_append_eq_cons (by simp) hafter
    exact hclose others hc rfl
  | case4 rest => exact ⟨[], by simp, rfl⟩
  | case5 rest out inBlock hout ih =>
    obtain ⟨tail, htail, hrest⟩ := ih
    refine ⟨tail, htail, ?_⟩
    simp only [List.cons_append, stripComments, hrest, hout]
  | case6 c rest hline hblock out inBlock hout ih =>
    obtain ⟨tail, htail, hrest⟩ := ih
    refine ⟨tail, htail, ?_⟩
    rw [List.cons_append, stripComments, hrest, hout]
    · rfl
    · intro after hc hafter
      obtain ⟨others, rfl⟩ := exists_cons_of_append_eq_cons (by simp) hafter
      exact hline others hc rfl
    · intro after hc hafter
      obtain ⟨others, rfl⟩ := exists_cons_of_append_eq_cons (by simp) hafter
      exact hblock others hc rfl

/-- Whether a line is finished by a line end makes no difference to what is found on it. -/
theorem scanLines_finished (number : Nat) (inBlock : Bool) (raw : List Char) :
    scanLines number inBlock [dropReturn raw] =
      scanLines number inBlock (if raw.isEmpty then [] else [raw]) := by
  cases hraw : raw.isEmpty with
  | true =>
    rw [List.isEmpty_iff.1 hraw]
    simp [dropReturn, scanLines, stripComments, trim, trimStart, trimEnd, dropTail]
  | false =>
    unfold dropReturn
    split
    · rename_i hlast
      obtain ⟨line, rfl⟩ := List.getLast?_eq_some_iff.1 hlast
      obtain ⟨tail, htail, hstrip⟩ := stripComments_append_return inBlock line
      have htrim : trim ([] ++ (stripComments inBlock line).1 ++ tail) =
          trim (stripComments inBlock line).1 :=
        trimWhere_append (p := isBlank) (by simp) htail
      rw [List.nil_append] at htrim
      simp [scanLines, hstrip, htrim]
    · rfl

theorem lines_append_newline (s t : List Char) :
    lines (s ++ '\n' :: t) = (splitWhere (· == '\n') s).map dropReturn ++ lines t := by
  have hne : splitWhere (· == '\n') t ≠ [] := splitWhere_ne_nil _ t
  unfold lines
  simp only [splitWhere_append_cons (p := (· == '\n')) (c := '\n') rfl,
    List.dropLast_append_of_ne_nil hne, List.getLast?_append_of_ne_nil _ hne, List.map_append,
    List.append_assoc]

/-- Lines are found in a text as they are if it ends with a line end. -/
theorem scanLines_splitWhere (number : Nat) (inBlock : Bool) (s : List Char) :
    scanLines number inBlock ((splitWhere (· == '\n') s).map dropReturn) =
      scanLines number inBlock (lines s) := by
  obtain ⟨finished, last, hpieces⟩ :=
    (List.eq_nil_or_concat (splitWhere (· == '\n') s)).resolve_left (splitWhere_ne_nil _ s)
  rw [List.concat_eq_append] at hpieces
  unfold lines
  simp only [hpieces, List.map_append, List.map_cons, List.map_nil, List.dropLast_concat,
    List.getLast?_concat, Option.getD_some]
  rw [scanLines_append, scanLines_append, scanLines_finished]

/-- Whether a text ends inside a block comment. -/
def endsInComment (source : String) : Bool :=
  (scanLines 1 false (lines source.toList)).2

/-- If a text leaves no comment open, the texts of two are those of each. -/
theorem logicalTexts_append_newline {first : String} (h : endsInComment first = false)
    (second : String) :
    logicalTexts (first ++ "\n" ++ second) = logicalTexts first ++ logicalTexts second := by
  have hlines : lines (first ++ "\n" ++ second).toList =
      (splitWhere (· == '\n') first.toList).map dropReturn ++ lines second.toList := by
    rw [← lines_append_newline]
    simp
  unfold endsInComment at h
  unfold logicalTexts logicalLines
  rw [hlines, scanLines_append, scanLines_splitWhere, h, List.map_append,
    texts_scanLines_eq _ 1 false (lines second.toList)]

/-! ## The model of two texts -/

/-- **Texts can be put one after another.** If the first one closes its blocks and its comments, the
contexts of the whole are those of the first, followed by those of the second, whatever the second
one is. -/
theorem parse_append_newline (first second : String)
    (hscopes : (readLines {} (logicalLines first)).scopes = [])
    (hcomment : endsInComment first = false) :
    (parse (first ++ "\n" ++ second)).contexts =
      (parse first).contexts ++ (parse second).contexts := by
  have hstate : readLines {} (logicalLines first) = readTexts {} (logicalTexts first) :=
    readLines_eq_readTexts {} (logicalLines first)
  rw [hstate] at hscopes
  rw [parse_eq_readTexts, parse_eq_readTexts, parse_eq_readTexts,
    logicalTexts_append_newline hcomment, readTexts_append, readTexts_of_scopes_eq_nil hscopes]
  rfl

/-- A text that closes its block and its comments, and ends in a carriage return. -/
def closedText : String :=
  "BoundedContext A \x7b // one\nAggregate B \x7b /* two\nthree */ \x7d\n\x7d\r"

/-- A text with a stray brace and with blocks that are never closed. -/
def brokenText : String :=
  "\x7d\nBoundedContext C \x7b\nAggregate D \x7b\nEntity E \x7b\nString id"

theorem parse_append_newline_brokenText :
    (readLines {} (logicalLines closedText)).scopes = [] ∧ endsInComment closedText = false ∧
    (parse (closedText ++ "\n" ++ brokenText)).contexts =
      (parse closedText).contexts ++ (parse brokenText).contexts ∧
    (parse closedText).contexts = [{ name := "A", aggregates := [{ name := "B" }] }] ∧
    (parse brokenText).contexts = [{
      name := "C"
      aggregates := [{
        name := "D"
        entities := [{ name := "E", properties := [{ name := "id", type := "String" }] }] }] }] :=
  have hscopes : (readLines {} (logicalLines closedText)).scopes = [] := by decide +kernel
  have hcomment : endsInComment closedText = false := by decide +kernel
  ⟨hscopes, hcomment, parse_append_newline closedText brokenText hscopes hcomment,
    by decide +kernel, by decide +kernel⟩

end Source

end DomainForge
