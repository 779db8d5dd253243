import DomainForge.Pattern.Language
import DomainForge.Proofs.Preparation

/-!
# Which unit a lookup finds

Seen from an aggregate, the units of a name have ranks: those of the aggregate itself come first,
then those of its context, then all others. A lookup finds the earliest unit of the best rank
(`lookup?_ofCalls_eq_some_iff`). This is shown along the registrations: one more unit is found
only if it beats every earlier one of its name (`lookup?_register_of_lt`,
`lookup?_register_of_le`), and otherwise the answer stays what it was.
-/

namespace DomainForge

/-- How far a unit is from an aggregate of a context: inside the aggregate, inside the context,
anywhere. -/
def UnitInfo.rank (context aggregate : String) (info : UnitInfo) : Nat :=
  if info.context = context then if info.aggregate = aggregate then 0 else 1 else 2

/-- There are three ranks: the same aggregate, the same context, elsewhere. -/
theorem UnitInfo.rank_le_two (context aggregate : String) (info : UnitInfo) :
    info.rank context aggregate ≤ 2 := by
  unfold rank
  split
  · split <;> omega
  · exact Nat.le_refl 2

namespace Registry

/-- The registry after units have been registered in order. -/
def ofCalls (calls : List (String × UnitInfo)) : Registry :=
  calls.foldl (fun registry call => registry.register call.1 call.2) {}

/-- A unit is registered under a name, has a better rank than all units of that name before it, and
no worse one than those after it. -/
def IsNearest (calls : List (String × UnitInfo)) (name context aggregate : String)
    (info : UnitInfo) : Prop :=
  ∃ before after, calls = before ++ (name, info) :: after ∧
    (∀ other, (name, other) ∈ before → info.rank context aggregate < other.rank context aggregate) ∧
    ∀ other, (name, other) ∈ after → info.rank context aggregate ≤ other.rank context aggregate

namespace IsNearest

variable {calls : List (String × UnitInfo)} {name context aggregate : String} {info : UnitInfo}

theorem mem (h : IsNearest calls name context aggregate info) : (name, info) ∈ calls := by
  obtain ⟨before, after, rfl, -, -⟩ := h
  exact List.mem_append_right before List.mem_cons_self

theorem rank_le (h : IsNearest calls name context aggregate info) {other : UnitInfo}
    (hother : (name, other) ∈ calls) :
    info.rank context aggregate ≤ other.rank context aggregate := by
  obtain ⟨before, after, rfl, hbefore, hafter⟩ := h
  rcases List.mem_append.1 hother with hmem | hmem
  · exact Nat.le_of_lt (hbefore other hmem)
  · rcases List.mem_cons.1 hmem with heq | hmem
    · rw [(Prod.mk.inj heq).2]
    · exact hafter other hmem

/-- A further call leaves the nearest unit alone, unless it registers a nearer one. -/
theorem concat (h : IsNearest calls name context aggregate info) {call : String × UnitInfo}
    (hcall : call.1 = name → info.rank context aggregate ≤ call.2.rank context aggregate) :
    IsNearest (calls ++ [call]) name context aggregate info := by
  obtain ⟨before, after, rfl, hbefore, hafter⟩ := h
  refine ⟨before, after ++ [call], by simp, hbefore, fun other hother => ?_⟩
  rcases List.mem_append.1 hother with hmem | hmem
  · exact hafter other hmem
  · obtain rfl := List.mem_singleton.1 hmem
    exact hcall rfl

/-- Among units of one rank the first is taken, so there is one answer. -/
theorem unique (h : IsNearest calls name context aggregate info) {other : UnitInfo}
    (hother : IsNearest calls name context aggregate other) : info = other := by
  have hle := h.rank_le hother.mem
  have hge := hother.rank_le h.mem
  obtain ⟨before, after, rfl, hbefore, -⟩ := h
  obtain ⟨before', after', heq, hbefore', -⟩ := hother
  -- one of the two calls comes first, and the later one would have to beat it
  rcases List.append_eq_append_iff.1 heq with ⟨between, rfl, hrest⟩ | ⟨between, rfl, hrest⟩
  · cases between with
    | nil => exact (Prod.mk.inj (List.cons.inj hrest).1).2
    | cons call rest =>
      obtain ⟨rfl, -⟩ := List.cons.inj hrest
      have hlt := hbefore' info (by simp)
      omega
  · cases between with
    | nil => exact (Prod.mk.inj (List.cons.inj hrest).1).2.symm
    | cons call rest =>
      obtain ⟨rfl, -⟩ := List.cons.inj hrest
      have hlt := hbefore other (by simp)
      omega

end IsNearest

/-! ## One registration -/

section Register

variable {registry : Registry} {name context aggregate : String} {info : UnitInfo}

theorem candidates_register (other : String) :
    (registry.register other info).candidates name =
      registry.candidates name ++ if other = name then [info] else [] := by
  unfold candidates register
  rw [List.filter_append, List.map_append]
  by_cases h : other = name <;> simp [h]

/-- A lookup takes the first unit of each rank in turn. -/
theorem lookup?_eq_find? (registry : Registry) (name context aggregate : String) :
    registry.lookup? name context aggregate =
      ((registry.candidates name).find? fun info => info.rank context aggregate ≤ 0).or
        (((registry.candidates name).find? fun info => info.rank context aggregate ≤ 1).or
          ((registry.candidates name).find? fun info => info.rank context aggregate ≤ 2)) := by
  have hexact : (fun info : UnitInfo => info.context == context && info.aggregate == aggregate) =
      fun info => decide (info.rank context aggregate ≤ 0) := by
    funext info
    by_cases hc : info.context = context <;> by_cases ha : info.aggregate = aggregate <;>
      simp [UnitInfo.rank, hc, ha]
  have hcontext : (fun info : UnitInfo => info.context == context) =
      fun info => decide (info.rank context aggregate ≤ 1) := by
    funext info
    by_cases hc : info.context = context <;> by_cases ha : info.aggregate = aggregate <;>
      simp [UnitInfo.rank, hc, ha]
  have hany : (registry.candidates name).head? =
      (registry.candidates name).find? fun info => info.rank context aggregate ≤ 2 := by
    cases registry.candidates name with
    | nil => rfl
    | cons info rest => simp [UnitInfo.rank_le_two]
  simp only [lookup?, hexact, hcontext, hany]

theorem lookup?_eq_none_iff :
    registry.lookup? name context aggregate = none ↔ ∀ info, (name, info) ∉ registry.units := by
  simp only [lookup?_eq_find?, Option.or_eq_none_iff, List.find?_eq_none, mem_candidates,
    decide_eq_true_eq]
  constructor
  · intro h info hmem
    exact h.2.2 info hmem (info.rank_le_two context aggregate)
  · intro h
    refine ⟨?_, ?_, ?_⟩ <;> exact fun info hmem => absurd hmem (h info)

theorem lookup?_register_other {other : String} (h : other ≠ name) :
    (registry.register other info).lookup? name context aggregate =
      registry.lookup? name context aggregate := by
  simp only [lookup?, candidates_register, if_neg h, List.append_nil]

/-- A unit that beats every earlier one of its name is found. -/
theorem lookup?_register_of_lt
    (h : ∀ earlier, (name, earlier) ∈ registry.units →
      info.rank context aggregate < earlier.rank context aggregate) :
    (registry.register name info).lookup? name context aggregate = some info := by
  have hbelow (bound : Nat) (hbound : bound ≤ info.rank context aggregate) :
      (registry.candidates name).find? (fun other => other.rank context aggregate ≤ bound) =
        none := by
    refine List.find?_eq_none.2 fun earlier hmem => ?_
    have hlt := h earlier (mem_candidates.1 hmem)
    simp only [decide_eq_true_eq]
    omega
  have hstep (bound : Nat) (hbound : bound ≤ info.rank context aggregate) :
      ((registry.register name info).candidates name).find?
          (fun other => other.rank context aggregate ≤ bound) =
        if info.rank context aggregate ≤ bound then some info else none := by
    rw [candidates_register, if_pos rfl, List.find?_append, hbelow bound hbound]
    by_cases hle : info.rank context aggregate ≤ bound <;> simp [hle]
  have htwo := info.rank_le_two context aggregate
  rw [lookup?_eq_find?, hstep 0 (Nat.zero_le _)]
  by_cases hzero : info.rank context aggregate ≤ 0
  · rw [if_pos hzero, Option.some_or]
  · rw [if_neg hzero, Option.none_or, hstep 1 (by omega)]
    by_cases hone : info.rank context aggregate ≤ 1
    · rw [if_pos hone, Option.some_or]
    · rw [if_neg hone, Option.none_or, hstep 2 (by omega), if_pos htwo]

/-- A unit that does not beat some earlier one of its name changes nothing. -/
theorem lookup?_register_of_le {earlier : UnitInfo} (hmem : (name, earlier) ∈ registry.units)
    (hle : earlier.rank context aggregate ≤ info.rank context aggregate) :
    (registry.register name info).lookup? name context aggregate =
      registry.lookup? name context aggregate := by
  have hstep (bound : Nat) :
      ((registry.register name info).candidates name).find?
          (fun other => other.rank context aggregate ≤ bound) =
        (registry.candidates name).find? fun other => other.rank context aggregate ≤ bound := by
    rw [candidates_register, if_pos rfl, List.find?_append]
    by_cases hbound : info.rank context aggregate ≤ bound
    · have hsome : ((registry.candidates name).find?
          fun other => other.rank context aggregate ≤ bound).isSome = true := by
        refine List.find?_isSome.2 ⟨earlier, mem_candidates.2 hmem, ?_⟩
        simp only [decide_eq_true_eq]
        omega
      obtain ⟨found, hfound⟩ := Option.isSome_iff_exists.1 hsome
      rw [hfound, Option.some_or]
    · simp [hbound]
  simp only [lookup?_eq_find?, hstep]

end Register

/-! ## All registrations -/

section OfCalls

variable {calls : List (String × UnitInfo)} {name context aggregate : String} {info : UnitInfo}

theorem ofCalls_concat (calls : List (String × UnitInfo)) (call : String × UnitInfo) :
    ofCalls (calls ++ [call]) = (ofCalls calls).register call.1 call.2 := by
  simp only [ofCalls, List.foldl_append, List.foldl_cons, List.foldl_nil]

theorem units_ofCalls (calls : List (String × UnitInfo)) : (ofCalls calls).units = calls := by
  induction calls using List.reverseRecOn with
  | nil => rfl
  | append_singleton calls call ih => rw [ofCalls_concat, register, ih]

/-- What is found is the nearest, by induction over the calls: a unit that is registered takes over
only if it is nearer than all before it. -/
theorem isNearest_of_lookup?
    (h : (ofCalls calls).lookup? name context aggregate = some info) :
    IsNearest calls name context aggregate info := by
  induction calls using List.reverseRecOn generalizing info with
  | nil => cases h
  | append_singleton calls call ih =>
    obtain ⟨other, further⟩ := call
    rw [ofCalls_concat] at h
    by_cases hother : other = name
    · subst hother
      by_cases hbeats : ∀ earlier, (other, earlier) ∈ (ofCalls calls).units →
          further.rank context aggregate < earlier.rank context aggregate
      · rw [lookup?_register_of_lt hbeats] at h
        obtain rfl := Option.some.inj h
        rw [units_ofCalls] at hbeats
        exact ⟨calls, [], rfl, hbeats, fun _ hmem => absurd hmem List.not_mem_nil⟩
      · push Not at hbeats
        obtain ⟨earlier, hmem, hle⟩ := hbeats
        rw [lookup?_register_of_le hmem hle] at h
        rw [units_ofCalls] at hmem
        exact (ih h).concat fun _ => ((ih h).rank_le hmem).trans hle
    · rw [lookup?_register_other hother] at h
      exact (ih h).concat fun heq => absurd heq hother

/-- A lookup finds the nearest unit of the name, and the first of those that are equally near. -/
theorem lookup?_ofCalls_eq_some_iff :
    (ofCalls calls).lookup? name context aggregate = some info ↔
      IsNearest calls name context aggregate info := by
  refine ⟨isNearest_of_lookup?, fun h => ?_⟩
  cases hfound : (ofCalls calls).lookup? name context aggregate with
  | none =>
    have hmem : (name, info) ∈ (ofCalls calls).units := by
      rw [units_ofCalls]
      exact h.mem
    exact absurd hmem (lookup?_eq_none_iff.1 hfound info)
  | some found => rw [(isNearest_of_lookup? hfound).unique h]

/-- What is registered under other names does not count. -/
theorem lookup?_ofCalls_filter :
    (ofCalls (calls.filter (·.1 == name))).lookup? name context aggregate =
      (ofCalls calls).lookup? name context aggregate := by
  simp only [lookup?, candidates, units_ofCalls, List.filter_filter, Bool.and_self]

/-- Only a unit that is nearer than all earlier ones changes what is found. -/
theorem nearer_of_lookup?_ne {call : String × UnitInfo}
    (h : (ofCalls (calls ++ [call])).lookup? name context aggregate ≠
      (ofCalls calls).lookup? name context aggregate) :
    call.1 = name ∧ ∀ earlier, (name, earlier) ∈ calls →
      call.2.rank context aggregate < earlier.rank context aggregate := by
  rw [ofCalls_concat] at h
  have hname : call.1 = name := by
    by_contra hother
    exact h (lookup?_register_other hother)
  refine ⟨hname, fun earlier hmem => ?_⟩
  subst hname
  by_contra hle
  rw [← units_ofCalls calls] at hmem
  exact h (lookup?_register_of_le hmem (Nat.le_of_not_lt hle))

end OfCalls

end Registry

/-! ## Planned units -/

/-- Plans for units of one name in one aggregate. -/
def UnitPlan.sharesName (plan other : UnitPlan) : Bool :=
  other.name == plan.name && (other.context == plan.context && other.aggregate == plan.aggregate)

theorem UnitPlan.exists_find?_sharesName {plans : List UnitPlan} {plan : UnitPlan}
    (h : plan ∈ plans) : ∃ first, plans.find? plan.sharesName = some first := by
  rw [← Option.isSome_iff_exists, List.find?_isSome]
  exact ⟨plan, h, by simp [sharesName]⟩

/-- From where it is declared, a unit's name refers to the first unit planned there with that
name. -/
theorem lookup?_of_units {registry : Registry} {plans : List UnitPlan}
    (hunits : registry.units = plans.map fun plan => (plan.name, plan.info)) {plan first : UnitPlan}
    (hfirst : plans.find? plan.sharesName = some first) :
    registry.lookup? plan.name plan.context plan.aggregate = some first.info := by
  have hexact : ((registry.candidates plan.name).find? fun info =>
      info.context == plan.context && info.aggregate == plan.aggregate) = some first.info := by
    rw [Registry.candidates, hunits, List.filter_map, List.map_map, List.find?_map,
      List.find?_filter, Option.map_eq_some_iff]
    refine ⟨first, ?_, rfl⟩
    rw [← hfirst]
    congr 1
    funext other
    rw [Bool.eq_iff_iff]
    simp [UnitPlan.sharesName, UnitPlan.info]
  simp only [Registry.lookup?, hexact, Option.some_or]

/-- The phase registers every plan, in order. -/
theorem units_of_run_resolve [PatternLanguage] {found after : Preparation}
    (hfresh : found.registry = {}) (h : Phase.resolve.run found = .ok after) :
    after.registry.units = after.plans.map fun plan => (plan.name, plan.info) := by
  unfold Phase.run at h
  cases hrules : found.rules with
  | none =>
    rw [hrules] at h
    cases h
  | some compiled =>
    rw [hrules] at h
    obtain rfl := Except.ok.inj h
    simp only [Phase.placeUnits, units_foldl_register, hfresh, List.nil_append]

/-- **A lookup finds the earliest unit of the best rank.** It finds nothing only if the name was
never registered, what is registered under other names does not count, and one more unit is found
only if it beats every earlier one of its name. In particular, once units have been placed, each
name refers to the first unit of that name, seen from where it is declared. -/
theorem lookup?_findsNearest [PatternLanguage] :
    (∀ (calls : List (String × UnitInfo)) (name context aggregate : String),
      ((Registry.ofCalls calls).lookup? name context aggregate = none ↔
        ∀ info, (name, info) ∉ calls) ∧
      (∀ info, (Registry.ofCalls calls).lookup? name context aggregate = some info ↔
        Registry.IsNearest calls name context aggregate info) ∧
      (Registry.ofCalls (calls.filter (·.1 == name))).lookup? name context aggregate =
        (Registry.ofCalls calls).lookup? name context aggregate ∧
      ∀ call : String × UnitInfo,
        (Registry.ofCalls (calls ++ [call])).lookup? name context aggregate ≠
            (Registry.ofCalls calls).lookup? name context aggregate →
          call.1 = name ∧ ∀ earlier, (name, earlier) ∈ calls →
            call.2.rank context aggregate < earlier.rank context aggregate) ∧
    ∀ found after : Preparation, found.registry = {} → Phase.resolve.run found = .ok after →
      ∀ plan ∈ after.plans, ∃ first, after.plans.find? plan.sharesName = some first ∧
        after.registry.lookup? plan.name plan.context plan.aggregate = some first.info := by
  constructor
  · intro calls name context aggregate
    refine ⟨?_, fun info => Registry.lookup?_ofCalls_eq_some_iff, Registry.lookup?_ofCalls_filter,
      fun call => Registry.nearer_of_lookup?_ne⟩
    rw [Registry.lookup?_eq_none_iff, Registry.units_ofCalls]
  · intro found after hfresh hrun plan hplan
    obtain ⟨first, hfirst⟩ := UnitPlan.exists_find?_sharesName hplan
    exact ⟨first, hfirst, lookup?_of_units (units_of_run_resolve hfresh hrun) hfirst⟩

/-- A status of an aggregate. -/
def statusOf (context aggregate : String) : UnitInfo :=
  { kind := .enumeration, finalName := "Status", namespaceName := "App", context, aggregate }

/-- An aggregate that declares two units of one name. -/
def twoStatuses : Model :=
  { contexts := [{ name := "Sales", aggregates := [
      { name := "Order", entities := [{ name := "Status" }], enums := [{ name := "Status" }] }] }] }

/-- What is prepared for them, once they have been placed. -/
def placedStatuses : Preparation :=
  Phase.placeUnits { model := twoStatuses, settings := {}, rules := some [] } []

/-- The nearest status is found although it is registered last, and of two that are equally near
the enumeration, which is planned before the entity. -/
theorem lookup?_findsNearest_status :
    (Registry.ofCalls ([("Status", statusOf "Billing" "Invoice"),
        ("Status", statusOf "Sales" "Cart")] ++ [("Status", statusOf "Sales" "Order")])).lookup?
          "Status" "Sales" "Order" ≠
      (Registry.ofCalls [("Status", statusOf "Billing" "Invoice"),
        ("Status", statusOf "Sales" "Cart")]).lookup? "Status" "Sales" "Order" ∧
    (statusOf "Sales" "Order").rank "Sales" "Order" <
      (statusOf "Sales" "Cart").rank "Sales" "Order" ∧
    ∃ _ : 1 < placedStatuses.plans.length,
      placedStatuses.plans[1].kind = .entity ∧
      ∃ first, placedStatuses.plans.find? placedStatuses.plans[1].sharesName = some first ∧
        placedStatuses.registry.lookup? "Status" "Sales" "Order" = some first.info := by
  have hchanges : (Registry.ofCalls ([("Status", statusOf "Billing" "Invoice"),
        ("Status", statusOf "Sales" "Cart")] ++ [("Status", statusOf "Sales" "Order")])).lookup?
          "Status" "Sales" "Order" ≠
      (Registry.ofCalls [("Status", statusOf "Billing" "Invoice"),
        ("Status", statusOf "Sales" "Cart")]).lookup? "Status" "Sales" "Order" := by decide
  have htwo : 1 < placedStatuses.plans.length := by decide +kernel
  refine ⟨hchanges, ?_, htwo, rfl, ?_⟩
  · exact ((lookup?_findsNearest.1 _ _ _ _).2.2.2 _ hchanges).2 (statusOf "Sales" "Cart") (by simp)
  · exact lookup?_findsNearest.2
      { model := twoStatuses, settings := {}, rules := some [] } placedStatuses rfl rfl
      placedStatuses.plans[1] (List.getElem_mem htwo)

end DomainForge
