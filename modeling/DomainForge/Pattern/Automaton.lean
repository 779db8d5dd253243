import DomainForge.Pattern.Basic

/-!
# Matching

A pattern is laid out as a list of nodes, and a match is sought by following
the nodes through the text, the preferred choice first. A node is never
entered twice at the same place: what it can reach from there has been tried
already. This also ends repetitions that consume nothing.
-/

namespace DomainForge

/-- A step of a match. Numbers are the places of other nodes. -/
inductive Node where
  | one (set : CharSet) (next : Nat)
  | look (condition : Look) (next : Nat)
  | jump (next : Nat)
  /-- Two ways on, the first preferred. -/
  | fork (first second : Nat)
  | accept
deriving Repr

namespace Pattern

/-- The number of nodes of a pattern. -/
def size : Pattern → Nat
  | empty => 1
  | one _ => 1
  | look _ => 1
  | seq p q => p.size + q.size
  | alt p q => 1 + p.size + q.size
  | optional _ p => 1 + p.size
  | star _ p => if p.nullable then 1 + p.size + 1 else 1 + p.size
  | plus _ p => p.size + 1

/-- A choice between going on with a repetition and leaving it. -/
def repeatOrLeave (greedy : Bool) (again leave : Nat) : Node :=
  if greedy then .fork again leave else .fork leave again

/-- The nodes of a pattern, to be placed from `base` on; they are entered at
`base` and left for `next`. A repetition whose body may be empty is entered
through a choice of its own, so that an empty round comes at its own rank. -/
def layOut : Pattern → (base next : Nat) → List Node
  | empty, _, next => [.jump next]
  | one set, _, next => [.one set next]
  | look condition, _, next => [.look condition next]
  | seq p q, base, next => p.layOut base (base + p.size) ++ q.layOut (base + p.size) next
  | alt p q, base, next =>
    .fork (base + 1) (base + 1 + p.size) ::
      (p.layOut (base + 1) next ++ q.layOut (base + 1 + p.size) next)
  | optional greedy p, base, next =>
    repeatOrLeave greedy (base + 1) next :: p.layOut (base + 1) next
  | star greedy p, base, next =>
    if p.nullable then
      repeatOrLeave greedy (base + 1) next ::
        (p.layOut (base + 1) (base + 1 + p.size) ++ [repeatOrLeave greedy (base + 1) next])
    else repeatOrLeave greedy (base + 1) next :: p.layOut (base + 1) base
  | plus greedy p, base, next =>
    p.layOut base (base + p.size) ++ [repeatOrLeave greedy base next]

/-- All nodes of a pattern, the accepting one last. -/
def nodes (pattern : Pattern) : Array Node :=
  (pattern.layOut 0 pattern.size ++ [Node.accept]).toArray

end Pattern

/-- A node together with a place in the text. -/
structure Config where
  node : Nat
  place : Nat
deriving Repr, DecidableEq

namespace Config

/-- Where a configuration leads, the preferred way first. -/
def successors (text : Array Char) (config : Config) : Node → List Config
  | .one set next =>
    if text[config.place]?.any set.mem then [⟨next, config.place + 1⟩] else []
  | .look condition next =>
    let before := if config.place = 0 then none else text[config.place - 1]?
    if condition.holds before text[config.place]? then [⟨next, config.place⟩] else []
  | .jump next => [⟨next, config.place⟩]
  | .fork first second => [⟨first, config.place⟩, ⟨second, config.place⟩]
  | .accept => []

end Config

/-- The end of the preferred match among waiting configurations. `seen` holds,
for every place and node, whether it has been entered. -/
def firstAccepted (nodes : Array Node) (text : Array Char) :
    (fuel : Nat) → (seen : Array Bool) → (waiting : List Config) → Option Nat
  | 0, _, _ => none
  | _, _, [] => none
  | fuel + 1, seen, config :: waiting =>
    let index := config.place * nodes.size + config.node
    if seen.getD index true then firstAccepted nodes text fuel seen waiting
    else match nodes[config.node]? with
      | none => firstAccepted nodes text fuel seen waiting
      | some .accept => some config.place
      | some node =>
        firstAccepted nodes text fuel (seen.setIfInBounds index true)
          (config.successors text node ++ waiting)

/-- The end of the preferred match that starts at a place. Every configuration
is entered once and has at most two successors, which bounds the search. -/
def matchAt? (nodes : Array Node) (text : Array Char) (place : Nat) : Option Nat :=
  let count := nodes.size * (text.size + 1)
  firstAccepted nodes text (3 * count + 1) (Array.replicate count false) [⟨0, place⟩]

namespace Pattern

/-- The first match of a pattern: where it starts and ends. -/
def find? (pattern : Pattern) (text : List Char) : Option (Nat × Nat) :=
  let nodes := pattern.nodes
  let chars := text.toArray
  (List.range (chars.size + 1)).findSome? fun start =>
    (matchAt? nodes chars start).map fun stop => (start, stop)

/-- Whether a pattern matches somewhere in a text. -/
def isMatch (pattern : Pattern) (text : String) : Bool :=
  (pattern.find? text.toList).isSome

/-- A text without the first match of a pattern. -/
def removeFirst (pattern : Pattern) (text : String) : String :=
  match pattern.find? text.toList with
  | some (start, stop) => String.ofList (text.toList.take start ++ text.toList.drop stop)
  | none => text

end Pattern

end DomainForge
