import DomainForge.Proofs.Source.Actions

/-!
# Open scopes

The open scopes hold positions in the model that is being read. They stay right on every text,
however malformed (`IsWellScoped`): a scope points at something that is there, it lies above the
scope that it was declared in, and above a detached scope there are only detached ones. Every action
keeps this, because the model only grows (`Model.Grows`) and because a declaration is opened only
where no scope is detached.

The reader changes nothing where a position leads nowhere. A strict reader gives up there instead
(`parse?`). It never has to, and reads the same model.
-/

namespace DomainForge

namespace Source

/-! ## Positions -/

namespace Scope

/-- Whether what a scope points at is part of a model. -/
def PointsInto (model : Model) : Scope → Prop
  | context c => c < model.contexts.length
  | aggregate c a => ∃ found, model.aggregate? c a = some found
  | entity c a k => ∃ found, model.aggregate? c a = some found ∧ k < found.entities.length
  | valueObject c a k => ∃ found, model.aggregate? c a = some found ∧ k < found.valueObjects.length
  | enumeration c a k => ∃ found, model.aggregate? c a = some found ∧ k < found.enums.length
  | detached => True

/-- The scope that a scope is declared in. -/
def enclosing? : Scope → Option Scope
  | context _ => none
  | aggregate c _ => some (context c)
  | entity c a _ => some (aggregate c a)
  | valueObject c a _ => some (aggregate c a)
  | enumeration c a _ => some (aggregate c a)
  | detached => none

end Scope

end Source

open Source

/-! ## Models that grow -/

/-- No position of the first aggregate is lost in the second. -/
structure Aggregate.Grows (before after : Aggregate) : Prop where
  entities : before.entities.length ≤ after.entities.length
  valueObjects : before.valueObjects.length ≤ after.valueObjects.length
  enums : before.enums.length ≤ after.enums.length

/-- No position of the first model is lost in the second. -/
structure Model.Grows (before after : Model) : Prop where
  contexts : before.contexts.length ≤ after.contexts.length
  aggregates : ∀ c a found, before.aggregate? c a = some found →
    ∃ later, after.aggregate? c a = some later ∧ found.Grows later

theorem Aggregate.Grows.refl (found : Aggregate) : found.Grows found :=
  ⟨Nat.le_refl _, Nat.le_refl _, Nat.le_refl _⟩

theorem Model.Grows.refl (model : Model) : model.Grows model :=
  ⟨Nat.le_refl _, fun _ _ found h => ⟨found, h, .refl found⟩⟩

/-- A scope points into all that a model grows to. -/
theorem Source.Scope.PointsInto.mono {before after : Model} (hgrows : before.Grows after)
    {scope : Scope} (h : scope.PointsInto before) : scope.PointsInto after := by
  cases scope with
  | context c => exact Nat.lt_of_lt_of_le h hgrows.contexts
  | aggregate c a =>
    obtain ⟨found, hfound⟩ := h
    obtain ⟨later, hlater, -⟩ := hgrows.aggregates c a found hfound
    exact ⟨later, hlater⟩
  | entity c a k =>
    obtain ⟨found, hfound, hk⟩ := h
    obtain ⟨later, hlater, hmore⟩ := hgrows.aggregates c a found hfound
    exact ⟨later, hlater, Nat.lt_of_lt_of_le hk hmore.entities⟩
  | valueObject c a k =>
    obtain ⟨found, hfound, hk⟩ := h
    obtain ⟨later, hlater, hmore⟩ := hgrows.aggregates c a found hfound
    exact ⟨later, hlater, Nat.lt_of_lt_of_le hk hmore.valueObjects⟩
  | enumeration c a k =>
    obtain ⟨found, hfound, hk⟩ := h
    obtain ⟨later, hlater, hmore⟩ := hgrows.aggregates c a found hfound
    exact ⟨later, hlater, Nat.lt_of_lt_of_le hk hmore.enums⟩
  | detached => trivial

namespace Model

theorem aggregate?_eq_some_iff {model : Model} {c a : Nat} {found : Aggregate} :
    model.aggregate? c a = some found ↔
      ∃ context, model.contexts[c]? = some context ∧ context.aggregates[a]? = some found := by
  exact Option.bind_eq_some_iff

theorem aggregate?_modifyAggregate_self {model : Model} {c a : Nat} {found : Aggregate}
    (h : model.aggregate? c a = some found) (f : Aggregate → Aggregate) :
    (model.modifyAggregate c a f).aggregate? c a = some (f found) := by
  obtain ⟨context, hcontext, hat⟩ := aggregate?_eq_some_iff.1 h
  simp [aggregate?, modifyAggregate, hcontext, hat]

theorem grows_modifyAggregate (model : Model) (c a : Nat) {f : Aggregate → Aggregate}
    (hf : ∀ found, Aggregate.Grows found (f found)) :
    model.Grows (model.modifyAggregate c a f) := by
  refine ⟨by simp [modifyAggregate], ?_⟩
  intro c' a' found hfound
  obtain ⟨context, hcontext, hat⟩ := aggregate?_eq_some_iff.1 hfound
  by_cases hc : c = c'
  · subst c'
    by_cases ha : a = a'
    · subst a'
      exact ⟨f found, by simp [aggregate?, modifyAggregate, hcontext, hat], hf found⟩
    · exact ⟨found, by simp [aggregate?, modifyAggregate, hcontext, hat, ha], .refl found⟩
  · exact ⟨found, by simp [aggregate?, modifyAggregate, hcontext, hat, hc], .refl found⟩

theorem grows_addContext (model : Model) (context : BoundedContext) :
    model.Grows { model with contexts := model.contexts ++ [context] } := by
  refine ⟨by simp, ?_⟩
  intro c a found hfound
  obtain ⟨before, hbefore, hat⟩ := aggregate?_eq_some_iff.1 hfound
  have hc : c < model.contexts.length := (List.getElem?_eq_some_iff.1 hbefore).1
  refine ⟨found, aggregate?_eq_some_iff.2 ⟨before, ?_, hat⟩, .refl found⟩
  rw [List.getElem?_append_left hc]
  exact hbefore

theorem grows_addAggregate (model : Model) (c : Nat) (aggregate : Aggregate) :
    model.Grows { model with
      contexts := model.contexts.modify c fun context =>
        { context with aggregates := context.aggregates ++ [aggregate] } } := by
  refine ⟨by simp, ?_⟩
  intro c' a found hfound
  obtain ⟨context, hcontext, hat⟩ := aggregate?_eq_some_iff.1 hfound
  have ha : a < context.aggregates.length := (List.getElem?_eq_some_iff.1 hat).1
  refine ⟨found, ?_, .refl found⟩
  by_cases hc : c = c'
  · subst c'
    simp [aggregate?, hcontext, hat, List.getElem?_append_left ha]
  · simp [aggregate?, hcontext, hat, hc]

end Model

/-! ## Nested scopes -/

namespace Source

/-- The scopes point into the model and lie in each other as declarations do, and what lies in a
detached scope is detached. What is below a scope is further out. -/
structure State.IsWellScoped (state : State) : Prop where
  pointsInto : ∀ scope ∈ state.scopes, scope.PointsInto state.model
  enclosed : ∀ above scope below, state.scopes = above ++ scope :: below →
    ∀ outer ∈ scope.enclosing?, outer ∈ below
  detached : ∀ above below, state.scopes = above ++ .detached :: below →
    ∀ scope ∈ above, scope = .detached

/-- A scope that is found has no detached one before it. -/
theorem Scope.nearest?_eq_some {α : Type} {accept : Scope → Option α} {scopes : List Scope}
    {found : α} (h : nearest? accept scopes = some found) :
    ∃ above scope below, scopes = above ++ scope :: below ∧ accept scope = some found ∧
      scope ≠ .detached ∧ .detached ∉ above := by
  fun_induction nearest? accept scopes with
  | case1 => cases h
  | case2 => cases h
  | case3 scope outer hne value hvalue =>
    cases h
    exact ⟨[], scope, outer, rfl, hvalue, hne, List.not_mem_nil⟩
  | case4 scope outer hne hvalue ih =>
    obtain ⟨above, found, below, rfl, haccept, hfound, habove⟩ := ih h
    refine ⟨scope :: above, found, below, rfl, haccept, hfound, ?_⟩
    rw [List.mem_cons, not_or]
    exact ⟨Ne.symm hne, habove⟩

namespace State.IsWellScoped

theorem initial : IsWellScoped {} := by
  refine ⟨fun _ h => absurd h List.not_mem_nil, ?_, ?_⟩
  · intro above scope below h
    simp at h
  · intro above below h
    simp at h

variable {state : State} (h : state.IsWellScoped)

include h

/-- What is found below no detached scope has none below it either. -/
theorem not_mem_of_nearest? {α : Type} {accept : Scope → Option α} {found : α}
    (hfound : Scope.nearest? accept state.scopes = some found) :
    ∃ scope ∈ state.scopes, accept scope = some found ∧ .detached ∉ state.scopes := by
  obtain ⟨above, scope, below, hscopes, haccept, hne, habove⟩ := Scope.nearest?_eq_some hfound
  refine ⟨scope, by simp [hscopes], haccept, ?_⟩
  rw [hscopes, List.mem_append, List.mem_cons, not_or, not_or]
  refine ⟨habove, hne.symm, ?_⟩
  intro hbelow
  obtain ⟨between, outer, rfl⟩ := List.append_of_mem hbelow
  refine hne (h.detached (above ++ scope :: between) outer ?_ scope (by simp))
  rw [hscopes, List.append_assoc, List.cons_append]

theorem mem_of_context? {c : Nat}
    (hfound : Scope.nearest? Scope.context? state.scopes = some c) :
    .context c ∈ state.scopes ∧ .detached ∉ state.scopes := by
  obtain ⟨scope, hscope, haccept, hdetached⟩ := h.not_mem_of_nearest? hfound
  cases scope <;> simp only [Scope.context?, Option.some.injEq, reduceCtorEq] at haccept
  subst c
  exact ⟨hscope, hdetached⟩

/-- The aggregate that is found is open, and no detached block is. -/
theorem mem_of_aggregate? {c a : Nat}
    (hfound : Scope.nearest? Scope.aggregate? state.scopes = some (c, a)) :
    .aggregate c a ∈ state.scopes ∧ .detached ∉ state.scopes := by
  obtain ⟨scope, hscope, haccept, hdetached⟩ := h.not_mem_of_nearest? hfound
  cases scope <;>
    simp only [Scope.aggregate?, Option.some.injEq, Prod.mk.injEq, reduceCtorEq] at haccept
  obtain ⟨rfl, rfl⟩ := haccept
  exact ⟨hscope, hdetached⟩

/-- A scope may be opened where the one that it is declared in is open, and unless it is detached,
only where none is. -/
theorem opened {model : Model} (hgrows : state.model.Grows model) {scope : Scope}
    (hpoints : scope.PointsInto model)
    (hinside : ∀ outer ∈ scope.enclosing?, outer ∈ state.scopes)
    (hdetached : scope = .detached ∨ .detached ∉ state.scopes) :
    IsWellScoped { model, scopes := scope :: state.scopes } := by
  refine ⟨?_, ?_, ?_⟩
  · intro other hother
    rcases List.mem_cons.1 hother with rfl | hother
    · exact hpoints
    · exact (h.pointsInto other hother).mono hgrows
  · intro above other below hscopes
    rcases List.cons_eq_append_iff.1 hscopes with ⟨-, hbelow⟩ | ⟨above', -, houter⟩
    · cases hbelow
      exact hinside
    · exact h.enclosed above' other below houter
  · intro above below hscopes
    rcases List.cons_eq_append_iff.1 hscopes with ⟨rfl, -⟩ | ⟨above', rfl, houter⟩
    · exact fun _ hmem => absurd hmem List.not_mem_nil
    · have hmem : .detached ∈ state.scopes := by simp [houter]
      intro other hother
      rcases List.mem_cons.1 hother with rfl | hother
      · exact hdetached.resolve_right (absurd hmem)
      · exact h.detached above' below houter other hother

theorem push_detached : (state.push .detached).IsWellScoped :=
  h.opened (.refl _) trivial (fun _ hmem => absurd hmem (by simp [Scope.enclosing?])) (.inl rfl)

/-- Closing a scope leaves those around it. -/
theorem pop : state.pop.IsWellScoped := by
  obtain ⟨model, scopes⟩ := state
  cases scopes with
  | nil => exact h
  | cons scope outer =>
    refine ⟨?_, ?_, ?_⟩
    · exact fun other hother => h.pointsInto other (List.mem_cons_of_mem scope hother)
    · intro above other below hscopes
      exact h.enclosed (scope :: above) other below (congrArg (scope :: ·) hscopes)
    · intro above below hscopes other hother
      exact h.detached (scope :: above) below (congrArg (scope :: ·) hscopes) other
        (List.mem_cons_of_mem scope hother)

theorem withModel {model : Model} (hgrows : state.model.Grows model) :
    IsWellScoped { state with model } :=
  ⟨fun scope hscope => (h.pointsInto scope hscope).mono hgrows, h.enclosed, h.detached⟩

/-! ### Declarations -/

theorem openContext (hdetached : .detached ∉ state.scopes) (name : String) :
    (state.openContext name).IsWellScoped := by
  refine h.opened (state.model.grows_addContext _) ?_ ?_ (.inr hdetached)
  · simp [Scope.PointsInto]
  · simp [Scope.enclosing?]

theorem openAggregate {c : Nat} (hcontext : .context c ∈ state.scopes)
    (hdetached : .detached ∉ state.scopes) (name : String) :
    (state.openAggregate c name).IsWellScoped := by
  have hc : c < state.model.contexts.length := h.pointsInto _ hcontext
  refine h.opened (state.model.grows_addAggregate c _) ?_ ?_ (.inr hdetached)
  · simp [Scope.PointsInto, Model.aggregate?, hc]
  · simpa [Scope.enclosing?] using hcontext

/-- A unit is added to the aggregate that is open, and opened: it is then the last one of its
kind. -/
theorem addUnit {c a : Nat} (haggregate : .aggregate c a ∈ state.scopes)
    (hdetached : .detached ∉ state.scopes) {add : Aggregate → Aggregate} {count : Aggregate → Nat}
    {scope : Nat → Nat → Nat → Scope} (hgrows : ∀ found, Aggregate.Grows found (add found))
    (hinside : ∀ k, (scope c a k).enclosing? = some (.aggregate c a))
    (hpoints : ∀ model found, Model.aggregate? model c a = some (add found) →
      (scope c a (count found)).PointsInto model) :
    (state.addUnit c a add count scope).IsWellScoped := by
  obtain ⟨found, hfound⟩ := h.pointsInto _ haggregate
  have hcount : state.unitsOf c a count = count found := by simp [State.unitsOf, hfound]
  unfold State.addUnit
  rw [hcount]
  refine h.opened (state.model.grows_modifyAggregate c a hgrows)
    (hpoints _ found (Model.aggregate?_modifyAggregate_self hfound add)) ?_ (.inr hdetached)
  intro outer houter
  rw [hinside] at houter
  cases houter
  exact haggregate

/-- Opening a unit keeps states well scoped, whichever its kind: its scope is inside the aggregate
that it is added to. -/
theorem openUnit {add : Aggregate → Aggregate} {count : Aggregate → Nat}
    {scope : Nat → Nat → Nat → Scope} (hgrows : ∀ found, Aggregate.Grows found (add found))
    (hinside : ∀ c a k, (scope c a k).enclosing? = some (.aggregate c a))
    (hpoints : ∀ c a model found, Model.aggregate? model c a = some (add found) →
      (scope c a (count found)).PointsInto model) :
    (state.openUnit add count scope).IsWellScoped := by
  unfold State.openUnit
  cases hfound : Scope.nearest? Scope.aggregate? state.scopes with
  | none => exact h.push_detached
  | some position =>
    obtain ⟨haggregate, hdetached⟩ := h.mem_of_aggregate? hfound
    exact h.addUnit haggregate hdetached hgrows (hinside _ _) (hpoints _ _)

/-- Every keyword keeps states well scoped. -/
theorem declare (keyword : Keyword) (name : String) :
    (state.declare keyword name).IsWellScoped := by
  cases keyword with
  | boundedContext =>
    simp only [State.declare]
    split
    · exact h.push_detached
    · rename_i hdetached
      exact h.openContext (by simpa using hdetached) name
  | aggregate =>
    simp only [State.declare]
    cases hfound : Scope.nearest? Scope.context? state.scopes with
    | none => exact h.push_detached
    | some c =>
      obtain ⟨hcontext, hdetached⟩ := h.mem_of_context? hfound
      exact h.openAggregate hcontext hdetached name
  | entity | valueObject | enumeration =>
    exact h.openUnit (fun found => ⟨by simp, by simp, by simp⟩) (fun _ _ _ => rfl)
      fun _ _ _ _ hmodel => ⟨_, hmodel, by simp⟩

/-- What is said inside a block changes no scope, and the model only grows. -/
theorem content (text : List Char) : (state.content text).IsWellScoped := by
  unfold State.content
  split
  case h_4 => exact h
  all_goals
    exact h.withModel
      (state.model.grows_modifyAggregate _ _ fun found => ⟨by simp, by simp, by simp⟩)

/-- So every action keeps states well scoped. -/
theorem perform (action : Action) : (action.perform state).IsWellScoped := by
  cases action with
  | declare keyword name => exact h.declare keyword name
  | detach => exact h.push_detached
  | say text => exact h.content text
  | close => exact h.pop

end State.IsWellScoped

/-! ## Reading strictly -/

/-- Changes the item at a position, which has to be there. -/
def modifyAt? {α : Type} (items : List α) (index : Nat) (f : α → α) : Option (List α) :=
  items[index]?.map fun item => items.set index (f item)

theorem modifyAt?_eq {α : Type} {items : List α} {index : Nat} (h : index < items.length)
    (f : α → α) : modifyAt? items index f = some (items.modify index f) := by
  simp [modifyAt?, List.modify_eq_set_getElem?, h]

end Source

/-- Changes the aggregate at a position, which has to be there. -/
def Model.modifyAggregate? (model : Model) (c a : Nat) (f : Aggregate → Option Aggregate) :
    Option Model := do
  let context ← model.contexts[c]?
  let aggregate ← context.aggregates[a]?
  let changed ← f aggregate
  let aggregates := context.aggregates.set a changed
  return { contexts := model.contexts.set c { context with aggregates } }

theorem Model.modifyAggregate?_eq {model : Model} {c a : Nat} {found : Aggregate}
    (h : model.aggregate? c a = some found) {f : Aggregate → Option Aggregate}
    {g : Aggregate → Aggregate} (hf : f found = some (g found)) :
    model.modifyAggregate? c a f = some (model.modifyAggregate c a g) := by
  obtain ⟨context, hcontext, hat⟩ := aggregate?_eq_some_iff.1 h
  simp [modifyAggregate?, modifyAggregate, hcontext, hat, hf, List.modify_eq_set_getElem?]

namespace Source

namespace State

/-- Adds an aggregate at the end of a context, which has to be there, and opens it. -/
def openAggregate? (state : State) (c : Nat) (name : String) : Option State := do
  let context ← state.model.contexts[c]?
  let aggregates := context.aggregates ++ [{ name := name }]
  return {
    model := { contexts := state.model.contexts.set c { context with aggregates } }
    scopes := .aggregate c context.aggregates.length :: state.scopes }

/-- Adds a unit to the nearest aggregate, which has to be there, and opens it; or opens a detached
scope if no aggregate is near. -/
def openUnit? (state : State) (add : Aggregate → Aggregate) (count : Aggregate → Nat)
    (scope : Nat → Nat → Nat → Scope) : Option State :=
  match Scope.nearest? Scope.aggregate? state.scopes with
  | none => some (state.push .detached)
  | some (c, a) => do
    let found ← state.model.aggregate? c a
    let model ← state.model.modifyAggregate? c a fun found => some (add found)
    return { model, scopes := scope c a (count found) :: state.scopes }

/-- Opens a declaration, in a scope that has to be there. -/
def declare? (state : State) (keyword : Keyword) (name : String) : Option State :=
  match keyword with
  | .boundedContext =>
    some (if state.scopes.contains .detached then state.push .detached else state.openContext name)
  | .aggregate =>
    match Scope.nearest? Scope.context? state.scopes with
    | none => some (state.push .detached)
    | some c => state.openAggregate? c name
  | .entity =>
    state.openUnit? (fun found => { found with entities := found.entities ++ [{ name := name }] })
      (·.entities.length) .entity
  | .valueObject =>
    state.openUnit?
      (fun found => { found with valueObjects := found.valueObjects ++ [{ name := name }] })
      (·.valueObjects.length) .valueObject
  | .enumeration =>
    state.openUnit? (fun found => { found with enums := found.enums ++ [{ name := name }] })
      (·.enums.length) .enumeration

/-- Changes the aggregate at a position, which has to be there. -/
def changeAggregate? (state : State) (c a : Nat) (f : Aggregate → Option Aggregate) :
    Option State :=
  (state.model.modifyAggregate? c a f).map fun model => { state with model }

/-- Reads what a line says about the innermost scope, whose unit has to be there. -/
def content? (state : State) (text : List Char) : Option State :=
  match state.scopes.head? with
  | some (.entity c a k) =>
    state.changeAggregate? c a fun found =>
      (modifyAt? found.entities k (readEntityLine text)).map fun entities =>
        { found with entities }
  | some (.valueObject c a k) =>
    state.changeAggregate? c a fun found =>
      (modifyAt? found.valueObjects k (readValueObjectLine text)).map fun valueObjects =>
        { found with valueObjects }
  | some (.enumeration c a k) =>
    state.changeAggregate? c a fun found =>
      (modifyAt? found.enums k (readEnumerationLine text)).map fun enums => { found with enums }
  | _ => some state

end State

/-- Takes an action, where all positions have to lead somewhere. -/
def Action.perform? (state : State) : Action → Option State
  | declare keyword name => state.declare? keyword name
  | detach => some (state.push .detached)
  | say text => state.content? text
  | close => some state.pop

/-- Reads a line, where all positions have to lead somewhere. -/
def State.readLine? (state : State) (text : List Char) : Option State :=
  (actionsOf text).foldlM Action.perform? state

/-- Reads lines one after another, where all positions have to lead somewhere. -/
def readLines? (state : State) (found : List Line) : Option State :=
  found.foldlM (fun state line => state.readLine? line.text.toList) state

/-- Reads a text, and gives up where a position leads out of the model. -/
def parse? (source : String) : Option Model :=
  (readLines? {} (logicalLines source)).map State.model

-- a scope that points nowhere stops the strict reader
example : State.readLine? { scopes := [.entity 0 0 0] } "String id".toList = none := by decide

namespace State.IsWellScoped

variable {state : State} (h : state.IsWellScoped)

include h

theorem openAggregate?_eq {c : Nat} (hcontext : .context c ∈ state.scopes) (name : String) :
    state.openAggregate? c name = some (state.openAggregate c name) := by
  have hc : c < state.model.contexts.length := h.pointsInto _ hcontext
  simp [State.openAggregate?, State.openAggregate, hc, List.modify_eq_set_getElem?]

/-- Where a unit is opened, its aggregate is there. -/
theorem openUnit?_eq (add : Aggregate → Aggregate) (count : Aggregate → Nat)
    (scope : Nat → Nat → Nat → Scope) :
    state.openUnit? add count scope = some (state.openUnit add count scope) := by
  unfold State.openUnit? State.openUnit
  cases hfound : Scope.nearest? Scope.aggregate? state.scopes with
  | none => rfl
  | some position =>
    obtain ⟨c, a⟩ := position
    obtain ⟨found, hat⟩ := h.pointsInto _ (h.mem_of_aggregate? hfound).1
    have hmodel : state.model.modifyAggregate? c a (fun found => some (add found)) =
        some (state.model.modifyAggregate c a add) := Model.modifyAggregate?_eq hat rfl
    simp [hat, hmodel, State.addUnit, State.unitsOf]

/-- In a well-scoped state, no index of a declaration misses. -/
theorem declare?_eq (keyword : Keyword) (name : String) :
    state.declare? keyword name = some (state.declare keyword name) := by
  cases keyword with
  | boundedContext => rfl
  | aggregate =>
    simp only [State.declare?, State.declare]
    cases hfound : Scope.nearest? Scope.context? state.scopes with
    | none => rfl
    | some c => exact h.openAggregate?_eq (h.mem_of_context? hfound).1 name
  | entity | valueObject | enumeration => exact h.openUnit?_eq _ _ _

omit h in
theorem changeAggregate?_eq {c a : Nat} {found : Aggregate}
    (hat : state.model.aggregate? c a = some found) {f : Aggregate → Option Aggregate}
    {g : Aggregate → Aggregate} (hf : f found = some (g found)) :
    state.changeAggregate? c a f =
      some { state with model := state.model.modifyAggregate c a g } := by
  rw [State.changeAggregate?, Model.modifyAggregate?_eq hat hf]
  rfl

/-- In a well-scoped state, no index of what is said misses. -/
theorem content?_eq (text : List Char) : state.content? text = some (state.content text) := by
  unfold State.content? State.content
  cases hhead : state.scopes.head? with
  | none => rfl
  | some scope =>
    have hpoints := h.pointsInto scope (List.mem_of_head? hhead)
    cases scope with
    | entity c a k =>
      obtain ⟨found, hat, hk⟩ := hpoints
      exact changeAggregate?_eq hat (by rw [modifyAt?_eq hk, Option.map_some])
    | valueObject c a k =>
      obtain ⟨found, hat, hk⟩ := hpoints
      exact changeAggregate?_eq hat (by rw [modifyAt?_eq hk, Option.map_some])
    | enumeration c a k =>
      obtain ⟨found, hat, hk⟩ := hpoints
      exact changeAggregate?_eq hat (by rw [modifyAt?_eq hk, Option.map_some])
    | context c => rfl
    | aggregate c a => rfl
    | detached => rfl

theorem perform?_eq (action : Action) : action.perform? state = some (action.perform state) := by
  cases action with
  | declare keyword name => exact h.declare?_eq keyword name
  | detach => rfl
  | say text => exact h.content?_eq text
  | close => rfl

end State.IsWellScoped

/-! ## Every text -/

/-- Two runs agree if their steps do in every state that the first may reach. -/
theorem foldlM_eq_some_foldl {α : Type} {P : State → Prop} {step : State → α → State}
    {step? : State → α → Option State} (hkeep : ∀ state item, P state → P (step state item))
    (hagree : ∀ state item, P state → step? state item = some (step state item))
    (items : List α) {state : State} (h : P state) :
    items.foldlM step? state = some (items.foldl step state) := by
  induction items generalizing state with
  | nil => rfl
  | cons item rest ih =>
    rw [List.foldlM_cons, hagree state item h, List.foldl_cons]
    exact ih (hkeep state item h)

namespace State.IsWellScoped

variable {state : State} (h : state.IsWellScoped)

include h

theorem readLine (text : List Char) : (state.readLine text).IsWellScoped := by
  rw [State.readLine_eq_foldl]
  exact foldl_perform_induction (fun _ action hstate => hstate.perform action) _ h

theorem readLine?_eq (text : List Char) : state.readLine? text = some (state.readLine text) := by
  rw [State.readLine_eq_foldl]
  exact foldlM_eq_some_foldl (fun _ action hstate => hstate.perform action)
    (fun _ action hstate => hstate.perform?_eq action) (actionsOf text) h

theorem readLines (found : List Line) : (readLines state found).IsWellScoped := by
  rw [readLines_eq_readTexts]
  exact readTexts_induction (fun _ action hstate => hstate.perform action) _ h

/-- Reading lines with every index checked is reading them. -/
theorem readLines?_eq (found : List Line) :
    readLines? state found = some (Source.readLines state found) :=
  foldlM_eq_some_foldl (fun _ line hstate => hstate.readLine line.text.toList)
    (fun _ line hstate => hstate.readLine?_eq line.text.toList) found h

end State.IsWellScoped

/-- The states between the lines of some text. -/
def State.IsReachable (state : State) : Prop :=
  ∃ (source : String) (count : Nat), readLines {} ((logicalLines source).take count) = state

/-- Every state that is reached by reading is well scoped. -/
theorem State.IsReachable.isWellScoped {state : State} (h : state.IsReachable) :
    state.IsWellScoped := by
  obtain ⟨source, count, rfl⟩ := h
  exact .readLines .initial _

/-- **The open scopes stay right on every text.** After any number of lines they point into the
model and are nested as their declarations are, so a strict reader gets as far, and reads the whole
text. -/
theorem isWellScoped_readLines (source : String) (count : Nat) :
    (readLines {} ((logicalLines source).take count)).IsWellScoped ∧
      readLines? {} ((logicalLines source).take count) =
        some (readLines {} ((logicalLines source).take count)) ∧
      parse? source = some (parse source) := by
  refine ⟨.readLines .initial _, State.IsWellScoped.initial.readLines?_eq _, ?_⟩
  rw [parse?, State.IsWellScoped.initial.readLines?_eq]
  rfl

end Source

end DomainForge
