import TreeSelector.Selector

/-!
# Building a selector on a stack

While a selector text is read, its pieces wait on a stack: the chains that are
finished, the chain that is being read, and the predicates of the compound that
is being read. Four actions put the pieces together. `compound` takes the
pending predicates, `link` joins the two chains on top, `selector` takes all
chains, and `finish` hands out the selector.

Each action asks for a certain shape of the stack and reports a fault on any
other. A reader that calls the actions in the order of the grammar never meets
one.
-/

set_option autoImplicit false

namespace TreeSelector

/-- A piece of a selector that waits on the stack. -/
inductive Piece where
  | predicate (predicate : Predicate)
  | chain (chain : Chain)
  | selector (selector : Selector)
  deriving DecidableEq, Repr

/-- The predicate that a piece is, if it is one. -/
def Piece.predicate? : Piece → Option Predicate
  | .predicate condition => some condition
  | .chain _ | .selector _ => none

/-- The chain that a piece is, if it is one. -/
def Piece.chain? : Piece → Option Chain
  | .chain whole => some whole
  | .predicate _ | .selector _ => none

/-- The stack, its top first, and the number of predicates that came on it
since the last compound was taken. -/
structure Construction where
  pieces : List Piece
  pending : Nat
  deriving DecidableEq, Repr

namespace Construction

/-- The actions that ask for a certain shape of the stack. -/
inductive Action where
  | compound
  | link
  | selector
  | finish
  deriving DecidableEq, Repr

/-- The name of an action in messages. -/
def Action.name : Action → String
  | .compound => "element"
  | .link => "exp"
  | .selector => "selector"
  | .finish => "build"

/-- An action met a stack of another shape: the action, and the depth of the
stack. -/
structure Fault where
  action : Action
  depth : Nat
  deriving DecidableEq, Repr

/-- The empty stack. -/
def empty : Construction :=
  ⟨[], 0⟩

/-- The fault of an action at this stack. -/
def fault (construction : Construction) (action : Action) : Fault :=
  ⟨action, construction.pieces.length⟩

/-- A predicate comes on the stack. -/
def push (construction : Construction) (predicate : Predicate) : Construction :=
  ⟨.predicate predicate :: construction.pieces, construction.pending + 1⟩

/-- The pending predicates, in the order in which they came, become a compound
and a chain of its own. -/
def compound (construction : Construction) : Except Fault Construction :=
  if construction.pending ≤ construction.pieces.length then
    match (construction.pieces.take construction.pending).reverse.mapM Piece.predicate? with
    | some predicates =>
        .ok ⟨.chain (.single ⟨predicates⟩) :: construction.pieces.drop construction.pending, 0⟩
    | none => .error (construction.fault .compound)
  else .error (construction.fault .compound)

/-- The compound on top is linked behind the chain below it. -/
def link (construction : Construction) (combinator : Combinator) : Except Fault Construction :=
  match construction.pieces with
  | .chain (.single last) :: .chain before :: below =>
      .ok ⟨.chain (.link before combinator last) :: below, construction.pending⟩
  | _ => .error (construction.fault .link)

/-- All chains, in the order in which they came, become the selector. -/
def selector (construction : Construction) : Except Fault Construction :=
  match construction.pieces.reverse.mapM Piece.chain? with
  | some chains => .ok ⟨[.selector ⟨chains⟩], construction.pending⟩
  | none => .error (construction.fault .selector)

/-- The selector, once it is all that is left. -/
def finish (construction : Construction) : Except Fault Selector :=
  match construction.pieces, construction.pending with
  | [.selector selector], 0 => .ok selector
  | _, _ => .error (construction.fault .finish)

end Construction

end TreeSelector
