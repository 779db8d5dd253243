import DomainForge.Proofs.Source.Blocks

/-!
# Lines of an enumeration

In an enumeration a line without braces holds labels. They are added to the values of the innermost
enumeration, and nothing else in the state changes. To say this, a model is split into one of its
enumerations and everything around it (`Surroundings`): before and after the line the surroundings
are the same (`AddsValues`).

The words of a line are looked at before the scope that it stands in. A line that starts with a
keyword opens a declaration even in an enumeration, and its labels are lost. So exactly the lines
that no keyword starts add their labels (`readLine_addsValues_iff`).
-/

namespace DomainForge.Source

open Text

/-! ## Around an enumeration -/

/-- A model without one of its enumerations. -/
structure Surroundings where
  contextsBefore : List BoundedContext
  contextName : String
  aggregatesBefore : List Aggregate
  aggregateName : String
  entities : List Entity
  valueObjects : List ValueObject
  enumsBefore : List Enumeration
  enumsAfter : List Enumeration
  aggregatesAfter : List Aggregate
  contextsAfter : List BoundedContext

namespace Surroundings

/-- The model that has an enumeration in the given surroundings. -/
def fill (around : Surroundings) (enumeration : Enumeration) : Model :=
  let aggregate : Aggregate := {
    name := around.aggregateName
    entities := around.entities
    valueObjects := around.valueObjects
    enums := around.enumsBefore ++ enumeration :: around.enumsAfter }
  let context : BoundedContext := {
    name := around.contextName
    aggregates := around.aggregatesBefore ++ aggregate :: around.aggregatesAfter }
  { contexts := around.contextsBefore ++ context :: around.contextsAfter }

/-- The scope of the enumeration that is left out. -/
def scope (around : Surroundings) : Scope :=
  .enumeration around.contextsBefore.length around.aggregatesBefore.length around.enumsBefore.length

/-- The state in which the enumeration is open. -/
def inside (around : Surroundings) (enumeration : Enumeration) (outer : List Scope) : State :=
  { model := around.fill enumeration, scopes := around.scope :: outer }

end Surroundings

theorem exists_append_of_getElem? {α : Type} {items : List α} {index : Nat} {item : α}
    (h : items[index]? = some item) :
    ∃ before after, items = before ++ item :: after ∧ before.length = index := by
  obtain ⟨hlt, rfl⟩ := List.getElem?_eq_some_iff.1 h
  refine ⟨items.take index, items.drop (index + 1), ?_, List.length_take_of_le hlt.le⟩
  rw [List.getElem_cons_drop hlt, List.take_append_drop]

/-- A model is split at any of its enumerations. -/
theorem exists_fill_of_pointsInto {model : Model} {c a k : Nat}
    (h : (Scope.enumeration c a k).PointsInto model) :
    ∃ (around : Surroundings) (enumeration : Enumeration),
      around.scope = .enumeration c a k ∧ model = around.fill enumeration := by
  obtain ⟨aggregate, haggregate, hk⟩ := h
  obtain ⟨context, hcontext, hat⟩ := Model.aggregate?_eq_some_iff.1 haggregate
  obtain ⟨contextsBefore, contextsAfter, hcontexts, hc⟩ := exists_append_of_getElem? hcontext
  obtain ⟨aggregatesBefore, aggregatesAfter, haggregates, ha⟩ := exists_append_of_getElem? hat
  obtain ⟨enumsBefore, enumsAfter, henums, hlength⟩ :=
    exists_append_of_getElem? (List.getElem?_eq_getElem hk)
  refine ⟨⟨contextsBefore, context.name, aggregatesBefore, aggregate.name, aggregate.entities,
    aggregate.valueObjects, enumsBefore, enumsAfter, aggregatesAfter, contextsAfter⟩,
    aggregate.enums[k], ?_, ?_⟩
  · simp only [Surroundings.scope, hc, ha, hlength]
  · simp only [Surroundings.fill, ← henums, ← haggregates, ← hcontexts]

/-! ## Labels and keywords -/

/-- The pieces between the commas of a line, trimmed and without what trails them. The empty ones
are dropped. -/
def lineLabels (text : String) : List String :=
  ((fields (· == ',') text).map fun piece =>
    String.ofList (trim (dropTrailers (trim piece.toList)))).filter (· != "")

/-- The reader cuts out these labels. -/
theorem labels_eq_lineLabels (text : String) : State.labels text.toList = lineLabels text := by
  have hempty (piece : List Char) : (String.ofList piece != "") = !piece.isEmpty := by
    cases piece with
    | nil => rfl
    | cons c rest => simp [← String.toList_inj]
  simp only [State.labels, lineLabels, fields, List.map_map, List.filter_map, Function.comp_def,
    hempty, String.toList_ofList]

theorem keywordOf?_eq_none_iff {text : List Char} :
    keywordOf? text = none ↔
      ∀ keyword : Keyword, (words text).head? ≠ some keyword.spelling.toList := by
  unfold keywordOf?
  constructor
  · intro h keyword hhead
    rw [hhead, Option.bind_some, ofToken?_spelling] at h
    cases h
  · intro h
    cases hhead : (words text).head? with
    | none => rfl
    | some token => exact ofToken?_eq_none fun keyword heq => h keyword (heq ▸ hhead)

/-! ## Reading in an enumeration -/

namespace Surroundings

variable (around : Surroundings) (enumeration : Enumeration) (outer : List Scope)

/-- What is said inside an enumeration changes it and nothing around it. -/
theorem content_inside (text : List Char) :
    (around.inside enumeration outer).content text =
      around.inside (State.readEnumerationLine text enumeration) outer := by
  simp only [State.content, inside, scope, List.head?_cons, Model.modifyAggregate, fill,
    modify_append_cons]

/-- A line that opens nothing adds its labels. -/
theorem readLine_inside {text : String} (h : OpensNothing text) :
    (around.inside enumeration outer).readLine text.toList =
      around.inside (State.readEnumerationLine text.toList enumeration) outer := by
  rw [State.readLine_eq_foldl, actionsOf_plain h, sayings]
  split
  · rename_i hempty
    have hnone : State.labels [] = [] := by decide
    rw [List.isEmpty_iff.1 hempty, State.readEnumerationLine, hnone, List.append_nil]
    rfl
  · exact content_inside around enumeration outer text.toList

/-- So all lines of a block add their labels in order. -/
theorem readTexts_inside {texts : List String} (h : ∀ text ∈ texts, OpensNothing text) :
    readTexts (around.inside enumeration outer) texts =
      around.inside { enumeration with
        values := enumeration.values ++ texts.flatMap lineLabels } outer := by
  induction texts generalizing enumeration with
  | nil => simp
  | cons text rest ih =>
    have hrest := ih (State.readEnumerationLine text.toList enumeration)
      fun other hother => h other (List.mem_cons_of_mem text hother)
    rw [readTexts_cons, readLine_inside around enumeration outer (h text List.mem_cons_self), hrest]
    simp only [State.readEnumerationLine, labels_eq_lineLabels, List.flatMap_cons,
      List.append_assoc]

end Surroundings

/-! ## What a line adds -/

/-- Between two states values were added to the enumeration of a scope, and nothing else changed. -/
structure AddsValues (scope : Scope) (values : List String) (before after : State) : Prop where
  scopes : after.scopes = before.scopes
  model : ∃ (around : Surroundings) (enumeration : Enumeration), around.scope = scope ∧
    before.model = around.fill enumeration ∧
    after.model = around.fill { enumeration with values := enumeration.values ++ values }

/-- **A line of an enumeration adds its labels exactly if no keyword starts it.** Several such lines
add the labels of each, in order. -/
theorem readLine_addsValues_iff {state : State} {c a k : Nat} (hreachable : state.IsReachable)
    (hscope : state.scopes.head? = some (.enumeration c a k)) :
    (∀ text : String, HasNoBraces text →
      (AddsValues (.enumeration c a k) (lineLabels text) state (state.readLine text.toList) ↔
        ∀ keyword : Keyword, (words text.toList).head? ≠ some keyword.spelling.toList)) ∧
      ∀ texts : List String, (∀ text ∈ texts, OpensNothing text) →
        AddsValues (.enumeration c a k) (texts.flatMap lineLabels) state
          (readTexts state texts) := by
  have hpoints := hreachable.isWellScoped.pointsInto _ (List.mem_of_head? hscope)
  obtain ⟨around, enumeration, haround, hmodel⟩ := exists_fill_of_pointsInto hpoints
  obtain ⟨outer, houter⟩ := List.head?_eq_some_iff.1 hscope
  have hstate : state = around.inside enumeration outer := by
    rw [Surroundings.inside, haround, ← hmodel, ← houter]
  have hbody (texts : List String) (h : ∀ text ∈ texts, OpensNothing text) :
      AddsValues (.enumeration c a k) (texts.flatMap lineLabels) state (readTexts state texts) := by
    rw [hstate, around.readTexts_inside enumeration outer h]
    exact ⟨rfl, around, enumeration, haround, rfl, rfl⟩
  refine ⟨?_, hbody⟩
  intro text hbraces
  rw [← keywordOf?_eq_none_iff]
  constructor
  · intro hadds
    by_contra hkeyword
    -- a keyword opens one scope more
    have hheader : IsDeclarationHeader text := ⟨hbraces, Option.isSome_iff_ne_none.2 hkeyword⟩
    obtain ⟨scope, hopened⟩ := exists_scopes_opening state text.toList
    have hlength := congrArg List.length hadds.scopes
    rw [State.readLine_eq_foldl, hheader.actionsOf_eq, List.foldl_cons, List.foldl_nil, hopened,
      List.length_cons] at hlength
    omega
  · intro hkeyword
    have hline := hbody [text] (List.forall_mem_singleton.2 ⟨hbraces, hkeyword⟩)
    rwa [List.flatMap_singleton] at hline

/-- An enumeration whose last value is spelled as a keyword. -/
def unitKinds : String :=
  inSales ["enum UnitKind \x7b", "Aggregate,", "Entity", "\x7d"]

/-- The state before a line of `unitKinds`. -/
def unitKindsAt (count : Nat) : State :=
  readLines {} ((logicalLines unitKinds).take count)

theorem readLine_addsValues_iff_unitKinds :
    (unitKindsAt 3).IsReachable ∧
    (unitKindsAt 3).scopes.head? = some (.enumeration 0 0 0) ∧
    HasNoBraces "Aggregate," ∧
    (∀ keyword : Keyword, (words "Aggregate,".toList).head? ≠ some keyword.spelling.toList) ∧
    AddsValues (.enumeration 0 0 0) ["Aggregate"] (unitKindsAt 3)
      ((unitKindsAt 3).readLine "Aggregate,".toList) := by
  have hreachable : (unitKindsAt 3).IsReachable := ⟨unitKinds, 3, rfl⟩
  have hscope : (unitKindsAt 3).scopes.head? = some (.enumeration 0 0 0) := by decide +kernel
  have hbraces : HasNoBraces "Aggregate," := by decide
  have hkeyword : ∀ keyword : Keyword,
      (words "Aggregate,".toList).head? ≠ some keyword.spelling.toList := by
    intro keyword
    cases keyword <;> decide
  have hlabels : lineLabels "Aggregate," = ["Aggregate"] := by decide
  refine ⟨hreachable, hscope, hbraces, hkeyword, ?_⟩
  rw [← hlabels]
  exact ((readLine_addsValues_iff hreachable hscope).1 "Aggregate," hbraces).2 hkeyword

/-- The last value of `unitKinds` is lost, and an entity without a name is declared instead. On one
line with the header it is a value. -/
theorem keyword_is_no_value :
    (unitKindsAt 4).IsReachable ∧
    (unitKindsAt 4).scopes.head? = some (.enumeration 0 0 0) ∧
    HasNoBraces "Entity" ∧
    ¬ AddsValues (.enumeration 0 0 0) (lineLabels "Entity") (unitKindsAt 4)
      ((unitKindsAt 4).readLine "Entity".toList) ∧
    (parse unitKinds).aggregate? 0 0 = some {
      name := "Order"
      entities := [{ name := "" }]
      enums := [{ name := "UnitKind", values := ["Aggregate"] }] } ∧
    (parse (inSales ["enum UnitKind \x7b Entity \x7d"])).aggregate? 0 0 = some {
      name := "Order"
      enums := [{ name := "UnitKind", values := ["Entity"] }] } := by
  refine ⟨⟨unitKinds, 4, rfl⟩, by decide +kernel, by decide, ?_, by decide +kernel,
    by decide +kernel⟩
  intro hadds
  exact absurd hadds.scopes (by decide +kernel)

end DomainForge.Source
