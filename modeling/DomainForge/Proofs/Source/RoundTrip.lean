import DomainForge.Proofs.Source.Property

/-!
# Reading a printed model

Reading undoes printing: the model of a printed text is the model that was printed
(`parse_print`), for every model that can be printed and any indentation.

Each printed line does one thing to the state of the reader: it opens a block, closes one, or says
something about the innermost. The states that come up are those in which the last context, its last
aggregate and the last unit in it are open (`inContext`, `inAggregate`, `inEntity`, ...), so the
positions in the scopes are lengths of what is done. What a list of constructs does follows from
what one does (`readTexts_flatMap`).
-/

namespace DomainForge.Source

open Text

/-! ## Lines that open and close -/

theorem ofToken?_spelling (keyword : Keyword) :
    Keyword.ofToken? keyword.spelling.toList = some keyword := by
  cases keyword <;> decide

theorem words_spelling (keyword : Keyword) :
    words keyword.spelling.toList = [keyword.spelling.toList] := by
  refine words_eq_singleton ?_ fun c hc => isBlank_of_isAsciiWordChar (isWord_spelling keyword c hc)
  cases keyword <;> decide

theorem IsLabel.trim_eq {label : String} (h : IsLabel label) :
    trim label.toList = label.toList :=
  trim_toList h.trimmed

/-- The words before an opening brace: the keyword, and the name unless it is empty. -/
theorem words_head {name : String} (hname : IsName name) (keyword : Keyword) :
    words (trim (keyword.spelling.toList ++ ' ' :: (name.toList ++ [' ']))) =
      keyword.spelling.toList :: if name.toList = [] then [] else [name.toList] := by
  have hblank : isBlank ' ' = true := by decide
  rw [words_trim, words_append_cons hblank, words_spelling, words_append_cons hblank, words_nil,
    List.append_nil]
  split
  · rename_i hnil
    rw [hnil]
    rfl
  · rename_i hne
    rw [words_eq_singleton hne fun c hc => (hname.of_mem hc).1]
    rfl

namespace State

/-- A line that opens a block declares it, and what stands behind the brace is its content. -/
theorem readOpen_opening (state : State) (keyword : Keyword) {name : String} (hname : IsName name)
    (inline : List Char) :
    state.readOpen (keyword.spelling.toList ++ ' ' :: (name.toList ++ ' ' :: '{' :: inline)) =
      (state.declare keyword name).contentUnlessEmpty (trim inline) := by
  have hbrace : '{' ∉ keyword.spelling.toList ++ ' ' :: (name.toList ++ [' ']) := by
    have hkeyword : '{' ∉ keyword.spelling.toList := (isWord_spelling keyword).not_mem (by decide)
    have hinside : '{' ∉ name.toList := fun hmem => (hname.of_mem hmem).2.1 rfl
    simp [hkeyword, hinside]
  have hsplit : keyword.spelling.toList ++ ' ' :: (name.toList ++ ' ' :: '{' :: inline) =
      keyword.spelling.toList ++ ' ' :: (name.toList ++ [' ']) ++ ('{' :: [] ++ inline) := by
    simp
  rw [hsplit, readOpen, breakOn_append hbrace]
  simp only [readBody, words_head hname, List.head?_cons, Option.bind_some, ofToken?_spelling,
    List.tail_cons, Option.getD_some]
  congr 2
  split
  · rename_i hnil
    exact String.toList_injective hnil.symm
  · exact String.ofList_toList

theorem readLine_openingLine (state : State) (keyword : Keyword) {name : String}
    (hname : IsName name) :
    state.readLine (openingLine keyword name).toList = state.declare keyword name := by
  have hblank : ' ' ∈ (openingLine keyword name).toList := by simp [toList_openingLine]
  have hbrace : (openingLine keyword name).toList ≠ ['{'] :=
    fun heq => absurd (heq ▸ hblank) (by decide)
  have hlast : (openingLine keyword name).toList.getLast? ≠ some '}' := by
    rw [openingLine, String.toList_append, List.getLast?_append_of_ne_nil _ (by decide)]
    decide
  rw [readLine, if_neg hbrace, if_neg hlast, toList_openingLine]
  exact readOpen_opening state keyword hname []

theorem readLine_closingLine (state : State) : state.readLine closingLine.toList = state.pop :=
  rfl

/-- A line without braces that no keyword starts says something about the innermost block. -/
theorem readLine_content (state : State) {text : List Char} (hne : text ≠ []) (hopen : '{' ∉ text)
    (hclose : '}' ∉ text) (hkeyword : (words text).head?.bind Keyword.ofToken? = none) :
    state.readLine text = state.content text := by
  have hbrace : text ≠ ['{'] := fun heq => hopen (heq ▸ List.mem_singleton_self _)
  have hlast : text.getLast? ≠ some '}' := fun hlast => hclose (List.mem_of_getLast? hlast)
  rw [readLine, if_neg hbrace, if_neg hlast, readOpen, breakOn_eq_none hopen]
  simp only [readBody, hkeyword]
  rw [contentUnlessEmpty, if_neg (by simpa using hne)]

theorem readLine_rootMarker (state : State) :
    state.readLine rootMarker.toList = state.content rootMarker.toList :=
  state.readLine_content (by decide) (by decide) (by decide) (by decide)

/-- A printed property is content, since its type is no keyword. -/
theorem readLine_printProperty (state : State) {property : Property} (h : property.IsPrintable) :
    state.readLine (printProperty property).toList =
      state.content (printProperty property).toList :=
  state.readLine_content (isLine_printProperty h).ne_nil
    (not_mem_printProperty h (by decide) (by decide))
    (not_mem_printProperty h (by decide) (by decide)) (ofToken?_printProperty h)

/-! ## Labels -/

/-- A comma divides the labels of a text. -/
theorem labels_append_cons (s t : List Char) : labels (s ++ ',' :: t) = labels s ++ labels t := by
  unfold labels
  rw [splitWhere_append_cons (by decide), List.map_append, List.filter_append, List.map_append]

/-- A blank before the labels does not count. -/
theorem labels_cons_blank (s : List Char) : labels (' ' :: s) = labels s := by
  obtain ⟨piece, pieces, hpieces⟩ :=
    List.exists_cons_of_ne_nil (splitWhere_ne_nil (· == ',') s)
  have htrim : trim (' ' :: piece) = trim piece :=
    congrArg trimEnd (List.dropWhile_cons_of_pos (by decide))
  simp [labels, splitWhere, hpieces, htrim]

theorem labels_eq_singleton {label : String} (h : IsLabel label) :
    labels label.toList = [label] := by
  have hnil : label.toList ≠ [] := fun hnil => h.ne_empty (String.toList_injective hnil)
  have hpiece : splitWhere (· == ',') label.toList = [label.toList] :=
    splitWhere_eq_singleton fun c hc => beq_eq_false_iff_ne.2 (h.of_mem hc).2.1
  have htail : dropTrailers label.toList = label.toList := by
    refine dropTail_eq_self fun c hc => ?_
    have hchar := h.of_mem (List.mem_of_getLast? hc)
    simp [isTrailer, hchar]
  simp [labels, hpiece, h.trim_eq, htail, hnil]

/-- Joined labels are told apart. -/
theorem labels_joinWith {values : List String} (h : ∀ label ∈ values, IsLabel label) :
    labels (joinWith ", " values).toList = values := by
  induction values with
  | nil => decide
  | cons first rest ih =>
    have hfirst := labels_eq_singleton (h first List.mem_cons_self)
    have hrest := ih fun label hlabel => h label (List.mem_cons_of_mem first hlabel)
    cases rest with
    | nil => exact hfirst
    | cons second others =>
      have hjoin : (joinWith ", " (first :: second :: others)).toList =
          first.toList ++ ',' :: ' ' :: (joinWith ", " (second :: others)).toList := by
        simp [joinWith]
      rw [hjoin, labels_append_cons, labels_cons_blank, hfirst, hrest]
      rfl

theorem trim_joinWith {values : List String} (h : ∀ label ∈ values, IsLabel label) :
    trim (joinWith ", " values).toList = (joinWith ", " values).toList := by
  have htrimmed : IsTrimmed isBlank (joinWith ", " values).toList :=
    isTrimmed_joinWith (fun label hlabel => (h label hlabel).ne_empty)
      fun label hlabel => isTrimmed_iff.2 (h label hlabel).trim_eq
  exact htrimmed.trimWhere_eq

/-- The line of an enumeration declares it, reads its labels and closes it. -/
theorem readLine_enumerationLine (state : State) {enumeration : Enumeration}
    (h : enumeration.IsPrintable) :
    state.readLine (enumerationLine enumeration).toList =
      ((state.declare .enumeration enumeration.name).contentUnlessEmpty
        (joinWith ", " enumeration.values).toList).pop := by
  let body := Keyword.enumeration.spelling.toList ++ ' ' :: (enumeration.name.toList ++ [' '])
  let inline := [' '] ++ (joinWith ", " enumeration.values).toList ++ [' ']
  have hline : (enumerationLine enumeration).toList = body ++ '{' :: inline ++ ['}'] := by
    simp [enumerationLine, toList_openingLine, body, inline]
  have hbrace : body ++ '{' :: inline ++ ['}'] ≠ ['{'] := by
    intro heq
    have hlast := congrArg List.getLast? heq
    rw [List.getLast?_concat] at hlast
    exact absurd hlast (by decide)
  have hblank : isBlank ' ' = true := by decide
  have hinline : trim (trimEnd inline) = (joinWith ", " enumeration.values).toList :=
    calc trim (trimEnd inline)
      _ = trim inline := trimWhere_dropTail isBlank inline
      _ = trim (joinWith ", " enumeration.values).toList :=
        trimWhere_append (List.forall_mem_singleton.2 hblank) (List.forall_mem_singleton.2 hblank)
      _ = (joinWith ", " enumeration.values).toList := trim_joinWith h.values
  rw [hline, readLine, if_neg hbrace, if_pos List.getLast?_concat, List.dropLast_concat, trimEnd,
    dropTail_append_cons (by decide), ← trimEnd, ← hinline]
  have hopen := state.readOpen_opening .enumeration h.name (trimEnd inline)
  rw [← hopen]
  simp [body]

end State

/-! ## Open blocks -/

theorem modify_append_cons {α : Type} (before : List α) (item : α) (after : List α) (f : α → α) :
    (before ++ item :: after).modify before.length f = before ++ f item :: after := by
  induction before with
  | nil => rfl
  | cons first rest ih => simpa using ih

theorem modify_concat {α : Type} (done : List α) (last : α) (f : α → α) :
    (done ++ [last]).modify done.length f = done ++ [f last] :=
  modify_append_cons done last [] f

/-- The state between contexts. -/
def between (done : List BoundedContext) : State :=
  { model := { contexts := done } }

/-- The state in a context, which comes after those that are done. -/
def inContext (done : List BoundedContext) (context : BoundedContext) : State :=
  { model := { contexts := done ++ [context] }, scopes := [.context done.length] }

section Open

variable (done : List BoundedContext) (context : BoundedContext) (aggregate : Aggregate)

/-- The state in an aggregate, which comes after those of its context. -/
def inAggregate : State :=
  { model := (inContext done
      { context with aggregates := context.aggregates ++ [aggregate] }).model
    scopes := [.aggregate done.length context.aggregates.length, .context done.length] }

/-- The state in an entity. -/
def inEntity (entity : Entity) : State :=
  (inAggregate done context { aggregate with entities := aggregate.entities ++ [entity] }).push
    (.entity done.length context.aggregates.length aggregate.entities.length)

/-- The state in a value object. -/
def inValueObject (valueObject : ValueObject) : State :=
  (inAggregate done context
      { aggregate with valueObjects := aggregate.valueObjects ++ [valueObject] }).push
    (.valueObject done.length context.aggregates.length aggregate.valueObjects.length)

/-- The state in an enumeration. -/
def inEnumeration (enumeration : Enumeration) : State :=
  (inAggregate done context { aggregate with enums := aggregate.enums ++ [enumeration] }).push
    (.enumeration done.length context.aggregates.length aggregate.enums.length)

/-- Inside an aggregate, what is changed is the last one. -/
theorem modifyAggregate_inAggregate (f : Aggregate → Aggregate) :
    (inAggregate done context aggregate).model.modifyAggregate done.length
        context.aggregates.length f =
      (inAggregate done context (f aggregate)).model := by
  simp [Model.modifyAggregate, inAggregate, inContext, modify_concat]

theorem unitsOf_inAggregate (count : Aggregate → Nat) :
    (inAggregate done context aggregate).unitsOf done.length context.aggregates.length count =
      count aggregate := by
  simp [State.unitsOf, Model.aggregate?, inAggregate, inContext]

/-- A unit is opened in the aggregate that is open. -/
theorem openUnit_inAggregate (add : Aggregate → Aggregate) (count : Aggregate → Nat)
    (scope : Nat → Nat → Nat → Scope) :
    (inAggregate done context aggregate).openUnit add count scope =
      (inAggregate done context (add aggregate)).push
        (scope done.length context.aggregates.length (count aggregate)) := by
  have hnearest : (inAggregate done context aggregate).openUnit add count scope =
      (inAggregate done context aggregate).addUnit done.length context.aggregates.length add count
        scope := rfl
  rw [hnearest, State.addUnit, unitsOf_inAggregate, modifyAggregate_inAggregate]
  rfl

/-! ### Opening -/

theorem declare_between (name : String) :
    (between done).declare .boundedContext name = inContext done { name := name } :=
  rfl

theorem declare_inContext (name : String) :
    (inContext done context).declare .aggregate name =
      inAggregate done context { name := name } := by
  simp [State.declare, inContext, inAggregate, Scope.nearest?, Scope.context?,
    State.openAggregate, modify_concat]

theorem declare_entity (name : String) :
    (inAggregate done context aggregate).declare .entity name =
      inEntity done context aggregate { name := name } :=
  openUnit_inAggregate done context aggregate _ _ _

theorem declare_valueObject (name : String) :
    (inAggregate done context aggregate).declare .valueObject name =
      inValueObject done context aggregate { name := name } :=
  openUnit_inAggregate done context aggregate _ _ _

theorem declare_enumeration (name : String) :
    (inAggregate done context aggregate).declare .enumeration name =
      inEnumeration done context aggregate { name := name } :=
  openUnit_inAggregate done context aggregate _ _ _

/-! ### Content -/

theorem content_inEntity (entity : Entity) (text : List Char) :
    (inEntity done context aggregate entity).content text =
      inEntity done context aggregate (State.readEntityLine text entity) := by
  simp only [State.content, inEntity, State.push, List.head?_cons, modifyAggregate_inAggregate,
    modify_concat]
  rfl

theorem content_inValueObject (valueObject : ValueObject) (text : List Char) :
    (inValueObject done context aggregate valueObject).content text =
      inValueObject done context aggregate (State.readValueObjectLine text valueObject) := by
  simp only [State.content, inValueObject, State.push, List.head?_cons,
    modifyAggregate_inAggregate, modify_concat]
  rfl

theorem content_inEnumeration (enumeration : Enumeration) (text : List Char) :
    (inEnumeration done context aggregate enumeration).content text =
      inEnumeration done context aggregate (State.readEnumerationLine text enumeration) := by
  simp only [State.content, inEnumeration, State.push, List.head?_cons,
    modifyAggregate_inAggregate, modify_concat]
  rfl

/-! ### Closing -/

theorem pop_inContext : (inContext done context).pop = between (done ++ [context]) :=
  rfl

theorem pop_inAggregate :
    (inAggregate done context aggregate).pop =
      inContext done { context with aggregates := context.aggregates ++ [aggregate] } :=
  rfl

theorem pop_inEntity (entity : Entity) :
    (inEntity done context aggregate entity).pop =
      inAggregate done context { aggregate with entities := aggregate.entities ++ [entity] } :=
  rfl

theorem pop_inValueObject (valueObject : ValueObject) :
    (inValueObject done context aggregate valueObject).pop =
      inAggregate done context
        { aggregate with valueObjects := aggregate.valueObjects ++ [valueObject] } :=
  rfl

theorem pop_inEnumeration (enumeration : Enumeration) :
    (inEnumeration done context aggregate enumeration).pop =
      inAggregate done context { aggregate with enums := aggregate.enums ++ [enumeration] } :=
  rfl

end Open

/-! ## Reading line after line -/

/-- Reads texts of lines one after another. -/
def readTexts (state : State) (texts : List String) : State :=
  texts.foldl (fun state text => state.readLine text.toList) state

/-- Only the texts of lines are read, not their numbers. -/
theorem readLines_eq_readTexts (state : State) (found : List Line) :
    readLines state found = readTexts state (found.map Line.text) := by
  rw [readTexts, List.foldl_map]
  rfl

@[simp] theorem readTexts_nil (state : State) : readTexts state [] = state :=
  rfl

@[simp] theorem readTexts_cons (state : State) (text : String) (rest : List String) :
    readTexts state (text :: rest) = readTexts (state.readLine text.toList) rest :=
  rfl

@[simp] theorem readTexts_append (state : State) (first rest : List String) :
    readTexts state (first ++ rest) = readTexts (readTexts state first) rest :=
  List.foldl_append

/-- If the lines of each item add that item to what is done, the lines of all items add them all. -/
theorem readTexts_flatMap {α : Type} (state : List α → State) {lines : α → List String}
    {items : List α}
    (hitem : ∀ done, ∀ item ∈ items, readTexts (state done) (lines item) = state (done ++ [item]))
    (done : List α) : readTexts (state done) (items.flatMap lines) = state (done ++ items) := by
  induction items generalizing done with
  | nil => simp
  | cons item rest ih =>
    have hrest := ih (fun done other hother => hitem done other (List.mem_cons_of_mem item hother))
      (done ++ [item])
    rw [List.flatMap_cons, readTexts_append, hitem done item List.mem_cons_self, hrest,
      List.append_assoc, List.singleton_append]

/-- Lines that each add one item add them all. -/
theorem readTexts_map {α : Type} (state : List α → State) {line : α → String} {items : List α}
    (hitem : ∀ done, ∀ item ∈ items,
      (state done).readLine (line item).toList = state (done ++ [item]))
    (done : List α) : readTexts (state done) (items.map line) = state (done ++ items) := by
  rw [List.map_eq_flatMap]
  exact readTexts_flatMap state hitem done

/-! ## Units -/

theorem readEntityLine_rootMarker (entity : Entity) :
    State.readEntityLine rootMarker.toList entity = { entity with isAggregateRoot := true } :=
  if_pos rfl

/-- A printed property goes behind the properties of the entity. -/
theorem readEntityLine_printProperty {property : Property} (h : property.IsPrintable)
    (entity : Entity) :
    State.readEntityLine (printProperty property).toList entity =
      { entity with properties := entity.properties ++ [property] } := by
  have hroot : (printProperty property).toList ≠ rootMarker.toList := by
    intro heq
    have hnone := isNoDeclaration_printProperty property
    rw [heq] at hnone
    exact absurd hnone (by decide)
  simp [State.readEntityLine, hroot, String.ofList_toList, parseProperty?_printProperty h]

theorem readValueObjectLine_printProperty {property : Property} (h : property.IsPrintable)
    (valueObject : ValueObject) :
    State.readValueObjectLine (printProperty property).toList valueObject =
      { valueObject with properties := valueObject.properties ++ [property] } := by
  simp [State.readValueObjectLine, String.ofList_toList, parseProperty?_printProperty h]

section Units

variable (done : List BoundedContext) (context : BoundedContext) (aggregate : Aggregate)

/-- The lines of an entity add it to the aggregate around it. -/
theorem readTexts_entityLines {entity : Entity} (h : entity.IsPrintable) :
    readTexts (inAggregate done context aggregate) (entityLines entity) =
      inAggregate done context { aggregate with entities := aggregate.entities ++ [entity] } := by
  have hroot : readTexts (inEntity done context aggregate { name := entity.name })
      (if entity.isAggregateRoot then [rootMarker] else []) =
        inEntity done context aggregate
          { name := entity.name, isAggregateRoot := entity.isAggregateRoot } := by
    cases entity.isAggregateRoot with
    | false => rfl
    | true =>
      simp only [↓reduceIte, readTexts_cons, readTexts_nil, State.readLine_rootMarker,
        content_inEntity, readEntityLine_rootMarker]
  have hproperties : readTexts (inEntity done context aggregate { entity with properties := [] })
      (entity.properties.map printProperty) = inEntity done context aggregate entity := by
    refine readTexts_map (fun properties => inEntity done context aggregate
      { entity with properties }) (fun properties property hproperty => ?_) []
    rw [State.readLine_printProperty _ (h.properties property hproperty), content_inEntity,
      readEntityLine_printProperty (h.properties property hproperty)]
  simp only [entityLines, List.cons_append, readTexts_cons, readTexts_append, readTexts_nil,
    State.readLine_openingLine _ _ h.name, declare_entity, hroot, hproperties,
    State.readLine_closingLine, pop_inEntity]

theorem readTexts_valueObjectLines {valueObject : ValueObject} (h : valueObject.IsPrintable) :
    readTexts (inAggregate done context aggregate) (valueObjectLines valueObject) =
      inAggregate done context
        { aggregate with valueObjects := aggregate.valueObjects ++ [valueObject] } := by
  have hproperties : readTexts (inValueObject done context aggregate { name := valueObject.name })
      (valueObject.properties.map printProperty) =
        inValueObject done context aggregate valueObject := by
    refine readTexts_map (fun properties => inValueObject done context aggregate
      { valueObject with properties }) (fun properties property hproperty => ?_) []
    rw [State.readLine_printProperty _ (h.properties property hproperty), content_inValueObject,
      readValueObjectLine_printProperty (h.properties property hproperty)]
  simp only [valueObjectLines, List.cons_append, readTexts_cons, readTexts_append, readTexts_nil,
    State.readLine_openingLine _ _ h.name, declare_valueObject, hproperties,
    State.readLine_closingLine, pop_inValueObject]

theorem readLine_enumerationLine_inAggregate {enumeration : Enumeration}
    (h : enumeration.IsPrintable) :
    (inAggregate done context aggregate).readLine (enumerationLine enumeration).toList =
      inAggregate done context { aggregate with enums := aggregate.enums ++ [enumeration] } := by
  have hlabels := State.labels_joinWith h.values
  rw [State.readLine_enumerationLine _ h, declare_enumeration, State.contentUnlessEmpty]
  split
  · -- no label is empty, so there is none
    rename_i hempty
    rw [List.isEmpty_iff.1 hempty] at hlabels
    have hvalues : enumeration.values = [] := hlabels.symm
    rw [pop_inEnumeration, ← hvalues]
  · rw [content_inEnumeration, pop_inEnumeration, State.readEnumerationLine, hlabels,
      List.nil_append]

/-! ## Aggregates, contexts and models -/

/-- The lines of an aggregate add it to the context around it. -/
theorem readTexts_aggregateLines {aggregate : Aggregate} (h : aggregate.IsPrintable) :
    readTexts (inContext done context) (aggregateLines aggregate) =
      inContext done { context with aggregates := context.aggregates ++ [aggregate] } := by
  obtain ⟨hname, hentities, hvalueObjects, henums⟩ := h
  have hentityLines : readTexts (inAggregate done context { name := aggregate.name })
      (aggregate.entities.flatMap entityLines) =
        inAggregate done context { name := aggregate.name, entities := aggregate.entities } :=
    readTexts_flatMap (fun entities => inAggregate done context
        { name := aggregate.name, entities })
      (fun _ entity hentity => readTexts_entityLines done context _ (hentities entity hentity)) []
  have hvalueObjectLines : readTexts
      (inAggregate done context { name := aggregate.name, entities := aggregate.entities })
      (aggregate.valueObjects.flatMap valueObjectLines) =
        inAggregate done context { aggregate with enums := [] } :=
    readTexts_flatMap (fun valueObjects => inAggregate done context
        { name := aggregate.name, entities := aggregate.entities, valueObjects })
      (fun _ valueObject hvalueObject => readTexts_valueObjectLines done context _
        (hvalueObjects valueObject hvalueObject)) []
  have henumLines : readTexts (inAggregate done context { aggregate with enums := [] })
      (aggregate.enums.map enumerationLine) = inAggregate done context aggregate :=
    readTexts_map (fun enums => inAggregate done context { aggregate with enums })
      (fun _ enumeration henumeration => readLine_enumerationLine_inAggregate done context _
        (henums enumeration henumeration)) []
  simp only [aggregateLines, List.cons_append, readTexts_cons, readTexts_append, readTexts_nil,
    State.readLine_openingLine _ _ hname, declare_inContext, hentityLines, hvalueObjectLines,
    henumLines, State.readLine_closingLine, pop_inAggregate]

/-- The lines of a context add it to the model. -/
theorem readTexts_contextLines {context : BoundedContext} (h : context.IsPrintable) :
    readTexts (between done) (contextLines context) = between (done ++ [context]) := by
  have haggregates : readTexts (inContext done { name := context.name })
      (context.aggregates.flatMap aggregateLines) = inContext done context :=
    readTexts_flatMap (fun aggregates => inContext done { name := context.name, aggregates })
      (fun _ aggregate haggregate => readTexts_aggregateLines done _
        (h.aggregates aggregate haggregate)) []
  simp only [contextLines, List.cons_append, readTexts_cons, readTexts_append, readTexts_nil,
    State.readLine_openingLine _ _ h.name, declare_between, haggregates, State.readLine_closingLine,
    pop_inContext]

end Units

/-- The lines of a model are read as that model. -/
theorem readTexts_modelLines {model : Model} (h : model.IsPrintable) :
    readTexts {} (modelLines model) = between model.contexts :=
  readTexts_flatMap between
    (fun done context hcontext => readTexts_contextLines done (h context hcontext)) []

/-! ## Reading the text -/

theorem isLine_of_mem_entityLines {entity : Entity} (h : entity.IsPrintable) {line : String}
    (hline : line ∈ entityLines entity) : IsLine line := by
  simp only [entityLines, List.cons_append, List.mem_cons, List.mem_append, List.mem_map,
    List.not_mem_nil, or_false] at hline
  rcases hline with rfl | (hroot | ⟨property, hproperty, rfl⟩) | rfl
  · exact isLine_openingLine .entity h.name
  · split at hroot
    · rw [List.mem_singleton.1 hroot]
      exact isLine_rootMarker
    · cases hroot
  · exact isLine_printProperty (h.properties property hproperty)
  · exact isLine_closingLine

theorem isLine_of_mem_valueObjectLines {valueObject : ValueObject} (h : valueObject.IsPrintable)
    {line : String} (hline : line ∈ valueObjectLines valueObject) : IsLine line := by
  simp only [valueObjectLines, List.cons_append, List.mem_cons, List.mem_append, List.mem_map,
    List.not_mem_nil, or_false] at hline
  rcases hline with rfl | ⟨property, hproperty, rfl⟩ | rfl
  · exact isLine_openingLine .valueObject h.name
  · exact isLine_printProperty (h.properties property hproperty)
  · exact isLine_closingLine

theorem isLine_of_mem_aggregateLines {aggregate : Aggregate} (h : aggregate.IsPrintable)
    {line : String} (hline : line ∈ aggregateLines aggregate) : IsLine line := by
  obtain ⟨hname, hentities, hvalueObjects, henums⟩ := h
  simp only [aggregateLines, List.cons_append, List.mem_cons, List.mem_append, List.mem_map,
    List.mem_flatMap, List.not_mem_nil, or_false] at hline
  rcases hline with rfl | ((⟨entity, hentity, hline⟩ | ⟨valueObject, hvalueObject, hline⟩) |
    ⟨enumeration, henumeration, rfl⟩) | rfl
  · exact isLine_openingLine .aggregate hname
  · exact isLine_of_mem_entityLines (hentities entity hentity) hline
  · exact isLine_of_mem_valueObjectLines (hvalueObjects valueObject hvalueObject) hline
  · exact isLine_enumerationLine (henums enumeration henumeration)
  · exact isLine_closingLine

/-- All that is printed is made of lines. -/
theorem isLine_of_mem_modelLines {model : Model} (h : model.IsPrintable) {line : String}
    (hline : line ∈ modelLines model) : IsLine line := by
  obtain ⟨context, hcontext, hline⟩ := List.mem_flatMap.1 hline
  obtain ⟨hname, haggregates⟩ := h context hcontext
  simp only [contextLines, List.cons_append, List.mem_cons, List.mem_append, List.mem_flatMap,
    List.not_mem_nil, or_false] at hline
  rcases hline with rfl | ⟨aggregate, haggregate, hline⟩ | rfl
  · exact isLine_openingLine .boundedContext hname
  · exact isLine_of_mem_aggregateLines (haggregates aggregate haggregate) hline
  · exact isLine_closingLine

/-- The logical lines of a printed text are the lines of the model. -/
theorem texts_logicalLines_print {indent : Nat → String} {model : Model}
    (hindent : ∀ index, IsIndent (indent index)) (h : model.IsPrintable) :
    (logicalLines (print indent model)).map Line.text = modelLines model := by
  let found := (modelLines model).zipIdx.map fun entry => (indent entry.2, entry.1)
  have hfound : ∀ entry ∈ found, IsIndent entry.1 ∧ IsLine entry.2 := by
    intro entry hentry
    obtain ⟨⟨line, index⟩, hmem, rfl⟩ := List.mem_map.1 hentry
    exact ⟨hindent index, isLine_of_mem_modelLines h (List.fst_mem_of_mem_zipIdx hmem)⟩
  have hprint : print indent model = unlines (found.map fun entry => entry.1 ++ entry.2) := by
    rw [List.map_map]
    rfl
  rw [hprint, texts_logicalLines_unlines hfound, List.map_map]
  exact List.zipIdx_map_fst 0 (modelLines model)

/-- **Reading undoes printing.** A model that can be printed is read back from its text, however the
lines are indented. -/
theorem parse_print (indent : Nat → String) (model : Model)
    (hindent : ∀ index, IsIndent (indent index)) (h : model.IsPrintable) :
    parse (print indent model) = model := by
  rw [parse, readLines_eq_readTexts, texts_logicalLines_print hindent h, readTexts_modelLines h]
  rfl

/-- A model with all flags of properties, with empty names, and with names and labels that look like
other constructs. -/
def allConstructs : Model :=
  { contexts := [
      { name := "Sales"
        aggregates := [
          { name := "Order*"
            entities := [
              { name := "Order", isAggregateRoot := true
                properties := [
                  { name := "lines", type := "Line", isRelation := true, isCollection := true },
                  { name := "List", type := "Set", isCollection := true, nullable := true },
                  { name := "Entity", type := "Status", isEnum := true, nullable := true },
                  { name := "_", type := "9", isRelation := true, isCollection := true
                    isEnum := true, nullable := true },
                  { name := "aggregateRoot", type := "aggregateRoot" }] },
              { name := "" }]
            valueObjects := [
              { name := "List<"
                properties := [{ name := "x", type := "List", isRelation := true }] }]
            enums := [
              { name := "Status", values := ["open", "in progress", "-^", "enum"] },
              { name := "" }] },
          { name := "" }] },
      { name := "" }] }

theorem parse_print_allConstructs :
    (∀ index, IsIndent ((fun index => if index % 2 = 0 then "" else "\t ") index)) ∧
    allConstructs.IsPrintable ∧
    parse (print (fun index => if index % 2 = 0 then "" else "\t ") allConstructs) =
      allConstructs := by
  have hindent : ∀ index, IsIndent ((fun index => if index % 2 = 0 then "" else "\t ") index) := by
    intro index
    dsimp only
    have htab : isBlank '\t' = true := by decide
    have hblank : isBlank ' ' = true := by decide
    split <;> simp [IsIndent, htab, hblank]
  have hprintable : allConstructs.IsPrintable := by decide +kernel
  exact ⟨hindent, hprintable, parse_print _ allConstructs hindent hprintable⟩

end DomainForge.Source
