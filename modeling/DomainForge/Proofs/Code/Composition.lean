import DomainForge.Proofs.Code.Lines

/-!
# Code is composed of its fragments

Writing a fragment appends a text that the fragment, the level and the indentation determine, and
the level is the same afterwards (`CodeWriter.write_isCompositional`). That text is told by
recursion on the fragment: a body counts one level more, and fragments in a row are written one
after another. Nothing depends on what has been written before, although the writer passes its
level through the whole recursion and a step back from the outermost level is ignored.
-/

namespace DomainForge

open Text
open CodeWriter (margin docLines)

namespace Fragment

/-- A line behind so many units of indentation. -/
def indented (unit : String) (level : Nat) (text : String) : String :=
  String.join (List.replicate level unit) ++ text ++ "\n"

/-- The texts of fragments at each level, given by what they are composed of. -/
structure IsTextOf (unit : String) (text : Nat → Fragment → String) : Prop where
  line : ∀ level content, text level (.line content) = indented unit level content
  blank : ∀ level, text level .blank = "\n"
  doc : ∀ level contents,
    text level (.doc contents) = String.join ((docLines contents).map (indented unit level))
  indent : ∀ level body, text level (.indent body) = String.join (body.map (text (level + 1)))
  block : ∀ level header body close, text level (.block header body close) =
    indented unit level header ++ String.join (body.map (text (level + 1))) ++
      close.elim "" (indented unit level)

/-- The text of a fragment at a level of indentation. -/
def textAt (indent : Indent) (level : Nat) (fragment : Fragment) : String :=
  unlines (linesAt indent level fragment)

variable {indent : Indent} {level : Nat}

theorem margin_eq_join (indent : Indent) (level : Nat) :
    margin indent level = String.join (List.replicate level indent.text) := by
  induction level with
  | zero => rfl
  | succ level ih => rw [margin, ih, List.replicate_succ, String.join_cons]

theorem unlines_map_margin (texts : List String) :
    unlines (texts.map (margin indent level ++ ·)) =
      String.join (texts.map (indented indent.text level)) := by
  induction texts with
  | nil => rfl
  | cons text rest ih =>
    rw [List.map_cons, List.map_cons, String.join_cons, ← ih, indented, ← margin_eq_join]
    rfl

theorem unlines_margin_append (text : String) :
    unlines [margin indent level ++ text] = indented indent.text level text := by
  rw [margin_eq_join]
  exact String.append_empty

/-- Fragments that follow each other are written one after another. -/
theorem unlines_allLinesAt (fragments : List Fragment) :
    unlines (allLinesAt indent level fragments) =
      String.join (fragments.map (textAt indent level)) := by
  induction fragments with
  | nil => rfl
  | cons fragment rest ih =>
    rw [allLinesAt, unlines_append, ih, List.map_cons, String.join_cons, textAt]

/-- Each kind of fragment is written as its equation says. -/
theorem isTextOf_textAt (indent : Indent) : IsTextOf indent.text (textAt indent) where
  line level content := by
    rw [textAt, linesAt, unlines_margin_append]
  blank level := rfl
  doc level contents := by
    rw [textAt, linesAt, unlines_map_margin]
  indent level body := by
    rw [textAt, linesAt, unlines_allLinesAt]
  block level header body close := by
    have hclose : unlines (close.toList.map (margin indent level ++ ·)) =
        close.elim "" (indented indent.text level) := by
      cases close with
      | none => rfl
      | some last => exact unlines_margin_append last
    rw [textAt, linesAt, ← List.singleton_append, unlines_append, unlines_append,
      unlines_margin_append, unlines_allLinesAt, hclose, String.append_assoc]

end Fragment

namespace CodeWriter

open Fragment

/-- **Code is composed of its fragments.** Whatever the writer has written and however deep it is, a
fragment adds its text at that level and leaves the level as it was, and fragments in a row add
their texts one after another. -/
theorem write_isCompositional (writer : CodeWriter) :
    IsTextOf writer.indent.text (textAt writer.indent) ∧
    (∀ fragment, writer.write fragment =
      { writer with text := writer.text ++ textAt writer.indent writer.level fragment }) ∧
    ∀ fragments, writer.writeAll fragments =
      { writer with
        text := writer.text ++
          String.join (fragments.map (textAt writer.indent writer.level)) } := by
  refine ⟨isTextOf_textAt writer.indent, fun fragment => ?_, fun fragments => ?_⟩
  · rw [write_eq_added, added, textAt]
  · rw [writeAll_eq_added, added, unlines_allLinesAt]

end CodeWriter

end DomainForge
