import DomainForge.Proofs.Source.RoundTrip

/-!
# What a line does

A line does a few things to the state of the reader, one after another: it opens a declaration or a
detached scope, says something about the innermost scope, and closes it. Which of these it does is
known from its text alone, whatever the state is (`readLine_eq_foldl`). So a property of states that
each single action keeps is kept by every text (`readTexts_induction`).
-/

namespace DomainForge.Source

open Text

/-- What a part of a line does to the state of the reader. -/
inductive Action where
  | declare (keyword : Keyword) (name : String)
  | detach
  | say (text : List Char)
  | close
deriving Repr, DecidableEq

/-- The state after an action. -/
def Action.perform (state : State) : Action → State
  | declare keyword name => state.declare keyword name
  | detach => state.push .detached
  | say text => state.content text
  | close => state.pop

/-! ## The actions of a line -/

/-- The keyword that starts a text, if one does. -/
def keywordOf? (text : List Char) : Option Keyword :=
  (words text).head?.bind Keyword.ofToken?

/-- What a text says inside a block. An empty one says nothing. -/
def sayings (text : List Char) : List Action :=
  if text.isEmpty then [] else [.say text]

/-- The action that opens a block with the given text before its brace. -/
def opening (head : List Char) : Action :=
  match keywordOf? head with
  | some keyword => .declare keyword (String.ofList ((words head).tail.head?.getD []))
  | none => .detach

/-- The actions of a line without its closing brace. A keyword opens a declaration even if no brace
follows it. -/
def openActions (body : List Char) : List Action :=
  match breakOn ['{'] body with
  | some (head, inline) => opening (trim head) :: sayings (trim inline)
  | none => if (keywordOf? body).isSome then [opening body] else sayings body

/-- The actions of a trimmed line, from left to right. A lone opening brace does nothing. -/
def actionsOf (text : List Char) : List Action :=
  if text = ['{'] then []
  else if text.getLast? = some '}' then openActions (trimEnd text.dropLast) ++ [.close]
  else openActions text

namespace State

theorem contentUnlessEmpty_eq_foldl (state : State) (text : List Char) :
    state.contentUnlessEmpty text = (sayings text).foldl Action.perform state := by
  unfold contentUnlessEmpty sayings
  split <;> rfl

theorem readBody_some (state : State) (head inline : List Char) :
    state.readBody head (some inline) =
      ((opening head).perform state).contentUnlessEmpty inline := by
  cases hkeyword : (words head).head?.bind Keyword.ofToken? <;>
    simp [readBody, opening, keywordOf?, hkeyword, Action.perform]

theorem readBody_none (state : State) (body : List Char) :
    state.readBody body none =
      if (keywordOf? body).isSome then (opening body).perform state
      else state.contentUnlessEmpty body := by
  cases hkeyword : (words body).head?.bind Keyword.ofToken? <;>
    simp [readBody, opening, keywordOf?, hkeyword, Action.perform, contentUnlessEmpty]

/-- A line that closes nothing performs its actions in order. -/
theorem readOpen_eq_foldl (state : State) (body : List Char) :
    state.readOpen body = (openActions body).foldl Action.perform state := by
  unfold readOpen openActions
  cases breakOn ['{'] body with
  | none =>
    simp only [readBody_none, contentUnlessEmpty_eq_foldl]
    split <;> rfl
  | some found => simp only [readBody_some, contentUnlessEmpty_eq_foldl, List.foldl_cons]

/-- Reading a line is performing its actions. -/
theorem readLine_eq_foldl (state : State) (text : List Char) :
    state.readLine text = (actionsOf text).foldl Action.perform state := by
  unfold readLine actionsOf
  simp only [readOpen_eq_foldl]
  split
  · rfl
  split
  · rw [List.foldl_append]
    rfl
  · rfl

end State

/-! ## What every action keeps -/

/-- What each action keeps is kept by any number of them. -/
theorem foldl_perform_induction {P : State → Prop}
    (hstep : ∀ state action, P state → P (Action.perform state action))
    (actions : List Action) {state : State} (h : P state) :
    P (actions.foldl Action.perform state) := by
  induction actions generalizing state with
  | nil => exact h
  | cons action rest ih => exact ih (hstep state action h)

/-- Reading lines is performing the actions of all of them. -/
theorem readTexts_eq_foldl (state : State) (texts : List String) :
    readTexts state texts =
      (texts.flatMap fun text => actionsOf text.toList).foldl Action.perform state := by
  induction texts generalizing state with
  | nil => rfl
  | cons text rest ih =>
    rw [readTexts_cons, State.readLine_eq_foldl, ih, List.flatMap_cons, List.foldl_append]

/-- What each action keeps is kept by the lines of a text. -/
theorem readTexts_induction {P : State → Prop}
    (hstep : ∀ state action, P state → P (Action.perform state action))
    (texts : List String) {state : State} (h : P state) : P (readTexts state texts) := by
  rw [readTexts_eq_foldl]
  exact foldl_perform_induction hstep _ h

end DomainForge.Source
