import DomainForge.Matcher
import DomainForge.Pattern.Automaton
import DomainForge.Pattern.Reader

/-!
# The language of regular expressions

Regular expressions as the language of patterns. A match ends behind its start,
so that a text without it is what stands before and behind.
-/

namespace DomainForge

/-- Following a pattern never leads back in the text. -/
theorem le_place_of_mem_successors {text : Array Char} {config next : Config} {node : Node}
    (h : next ∈ config.successors text node) : config.place ≤ next.place := by
  cases node with
  | one set target =>
    rw [Config.successors, List.mem_ite_nil_right, List.mem_singleton] at h
    exact h.2 ▸ Nat.le_succ _
  | look condition target =>
    rw [Config.successors, List.mem_ite_nil_right, List.mem_singleton] at h
    exact h.2 ▸ Nat.le_refl _
  | jump target => exact List.mem_singleton.1 h ▸ Nat.le_refl _
  | fork first second =>
    rcases List.mem_cons.1 h with rfl | h
    · exact Nat.le_refl _
    · exact List.mem_singleton.1 h ▸ Nat.le_refl _
  | accept => cases h

theorem le_of_firstAccepted {nodes : Array Node} {text : Array Char} {start stop fuel : Nat}
    {seen : Array Bool} {waiting : List Config}
    (hwaiting : ∀ config ∈ waiting, start ≤ config.place)
    (h : firstAccepted nodes text fuel seen waiting = some stop) : start ≤ stop := by
  -- the configurations that wait stand behind the start, and so do those that they lead to
  induction fuel generalizing seen waiting with
  | zero => simp [firstAccepted] at h
  | succ fuel ih =>
    cases waiting with
    | nil => simp [firstAccepted] at h
    | cons config rest =>
      have hrest : ∀ other ∈ rest, start ≤ other.place :=
        fun other hother => hwaiting other (List.mem_cons_of_mem _ hother)
      have hconfig : start ≤ config.place := hwaiting config List.mem_cons_self
      simp only [firstAccepted] at h
      split at h
      · exact ih hrest h
      · split at h
        · exact ih hrest h
        · exact Option.some.inj h ▸ hconfig
        · refine ih (fun other hother => ?_) h
          rcases List.mem_append.1 hother with hother | hother
          · exact Nat.le_trans hconfig (le_place_of_mem_successors hother)
          · exact hrest other hother

namespace Pattern

theorem le_of_find? {pattern : Pattern} {text : List Char} {start stop : Nat}
    (h : pattern.find? text = some (start, stop)) : start ≤ stop := by
  obtain ⟨place, -, hplace⟩ := List.exists_of_findSome?_eq_some h
  obtain ⟨found, hfound, heq⟩ := Option.map_eq_some_iff.1 hplace
  obtain ⟨rfl, rfl⟩ := Prod.mk.inj heq
  refine le_of_firstAccepted (fun config hconfig => ?_) hfound
  exact List.mem_singleton.1 hconfig ▸ Nat.le_refl _

theorem removeFirst_sublist (pattern : Pattern) (text : String) :
    (pattern.removeFirst text).toList.Sublist text.toList := by
  unfold removeFirst
  split
  · rename_i start stop hfind
    have hbehind : (text.toList.drop stop).Sublist (text.toList.drop start) :=
      List.drop_sublist_drop_left _ (le_of_find? hfind)
    rw [String.toList_ofList]
    calc (text.toList.take start ++ text.toList.drop stop).Sublist
          (text.toList.take start ++ text.toList.drop start) := hbehind.append_left _
      _ = text.toList := List.take_append_drop start text.toList
  · exact List.Sublist.refl _

/-- What a regular expression does to texts. -/
def matcher (pattern : Pattern) : Matcher where
  isMatch := pattern.isMatch
  removeFirst := pattern.removeFirst
  removeFirst_sublist := pattern.removeFirst_sublist

end Pattern

/-- The message for a text that is no regular expression. -/
def patternFault : String := "regex parse error:"

instance : PatternLanguage where
  read text :=
    match Pattern.parse? text with
    | some pattern => .ok pattern.matcher
    | none => .error patternFault

end DomainForge
