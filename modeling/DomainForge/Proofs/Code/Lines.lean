import DomainForge.Code.Fragment
import DomainForge.Proofs.Text.Cuts

/-!
# Lines of code

What a writer adds to its text depends on the fragment, on the level and on the indentation, and
on nothing that was written before. It is given here as a list of lines (`Fragment.linesAt`); the
writer adds exactly these lines and is at its old level afterwards (`CodeWriter.write_eq_added`).
Laws about written code are therefore laws about lists of lines.
-/

namespace DomainForge

open Text

namespace Fragment

open CodeWriter (margin docLines)

mutual

/-- The lines of a fragment at a level. -/
def linesAt (indent : Indent) (level : Nat) : Fragment → List String
  | .line text => [margin indent level ++ text]
  | .blank => [""]
  | .block header body close =>
    (margin indent level ++ header) ::
      (allLinesAt indent (level + 1) body ++ close.toList.map (margin indent level ++ ·))
  | .indent body => allLinesAt indent (level + 1) body
  | .doc texts => (docLines texts).map (margin indent level ++ ·)

/-- The lines of fragments that stand one below the other. -/
def allLinesAt (indent : Indent) (level : Nat) : List Fragment → List String
  | [] => []
  | fragment :: fragments =>
    linesAt indent level fragment ++ allLinesAt indent level fragments

end

variable {indent : Indent} {level : Nat}

theorem allLinesAt_append (before after : List Fragment) :
    allLinesAt indent level (before ++ after) =
      allLinesAt indent level before ++ allLinesAt indent level after := by
  induction before with
  | nil => rfl
  | cons fragment rest ih => simp only [List.cons_append, allLinesAt, ih, List.append_assoc]

theorem allLinesAt_map_line (texts : List String) :
    allLinesAt indent level (texts.map .line) = texts.map (margin indent level ++ ·) := by
  induction texts with
  | nil => rfl
  | cons text rest ih => simp only [List.map_cons, allLinesAt, linesAt, ih, List.singleton_append]

end Fragment

namespace CodeWriter

open Fragment (linesAt allLinesAt)

/-- A writer that has added lines to its text. -/
def added (writer : CodeWriter) (texts : List String) : CodeWriter :=
  { writer with text := writer.text ++ unlines texts }

theorem added_nil (writer : CodeWriter) : writer.added [] = writer := by
  simp [added, unlines]

theorem added_append (writer : CodeWriter) (before after : List String) :
    writer.added (before ++ after) = (writer.added before).added after := by
  simp only [added, unlines_append, String.append_assoc]

theorem added_cons (writer : CodeWriter) (text : String) (rest : List String) :
    writer.added (text :: rest) = (writer.added [text]).added rest :=
  writer.added_append [text] rest

theorem line_eq_added (writer : CodeWriter) (text : String) :
    writer.line text = writer.added [margin writer.indent writer.level ++ text] := by
  simp [line, added, unlines]

theorem blank_eq_added (writer : CodeWriter) : writer.blank = writer.added [""] := by
  simp [blank, added, unlines]

theorem line?_eq_added (writer : CodeWriter) (close : Option String) :
    writer.line? close =
      writer.added (close.toList.map (margin writer.indent writer.level ++ ·)) := by
  cases close with
  | none => exact writer.added_nil.symm
  | some text => exact writer.line_eq_added text

theorem lines_eq_added (writer : CodeWriter) (texts : List String) :
    writer.lines texts = writer.added (texts.map (margin writer.indent writer.level ++ ·)) := by
  induction texts generalizing writer with
  | nil => exact writer.added_nil.symm
  | cons text rest ih =>
    have hline : writer.lines (text :: rest) = (writer.line text).lines rest := rfl
    rw [hline, ih, line_eq_added]
    exact (writer.added_cons _ _).symm

/-- Going deeper and back again leaves what was added in between. -/
theorem back_deeper_added (writer : CodeWriter) (texts : List String) :
    (writer.deeper.added texts).back = writer.added texts := rfl

-- The body of a block is written one level deeper, so the writer is arbitrary in the recursion.
mutual

/-- A writer adds the lines of a fragment and returns to its level. -/
theorem write_eq_added (writer : CodeWriter) : (fragment : Fragment) →
    writer.write fragment = writer.added (linesAt writer.indent writer.level fragment)
  | .line text => by
    rw [write, linesAt, line_eq_added]
  | .blank => by
    rw [write, linesAt, blank_eq_added]
  | .block header body close => by
    rw [write, linesAt, added_cons _ _ (_ ++ _), added_append, writeAll_eq_added,
      back_deeper_added, line?_eq_added, line_eq_added]
    rfl
  | .indent body => by
    rw [write, linesAt, writeAll_eq_added, back_deeper_added]
    rfl
  | .doc texts => by
    rw [write, linesAt, doc, lines_eq_added]

/-- What is written is the lines of the fragments, whatever was written before. -/
theorem writeAll_eq_added (writer : CodeWriter) : (fragments : List Fragment) →
    writer.writeAll fragments = writer.added (allLinesAt writer.indent writer.level fragments)
  | [] => by
    rw [writeAll, allLinesAt, added_nil]
  | fragment :: fragments => by
    rw [writeAll, allLinesAt, write_eq_added, writeAll_eq_added, added_append]
    rfl

end

theorem text_writeAll (indent : Indent) (fragments : List Fragment) :
    (writeAll { indent := indent } fragments).text = unlines (allLinesAt indent 0 fragments) := by
  rw [writeAll_eq_added, added, String.empty_append]

end CodeWriter

end DomainForge
