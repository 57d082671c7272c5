import InfraReview.Grammar.Table

/-!
# The parsing machine

The machine keeps a stack of states, each with the piece of the derivation that led to
it. A terminal is fed to it together with what it stands for in the text: first all
reductions that the table asks for are made, then the terminal is shifted. The machine
refuses a terminal for which the table has no action.

Derivations do not show helpers: their parts belong to the rule that uses them.
-/

namespace InfraReview.Grammar

/-- How a text is derived: a terminal with what it stands for, or a nonterminal, by
number, with its parts in order. -/
inductive Derivation (α : Type) where
  | leaf (terminal : Nat) (lexeme : α)
  | node (head : Nat) (parts : List (Derivation α))

variable {α : Type}

/-- A state on the stack, and the pieces of the derivation before it, in reverse. -/
structure Frame (α : Type) where
  state : Nat
  pieces : List (Derivation α)

/-- The stack of the machine: the frames above the start state, the topmost first. -/
abbrev Stack (α : Type) := List (Frame α)

/-- The state on the top of a stack. -/
def Stack.top (stack : Stack α) : Nat := (stack.head?.map (·.state)).getD 0

namespace Table

/-- The action in a state at a terminal. -/
def action? (table : Table) (state terminal : Nat) : Option Action := do
  let row ← table.rows[state]?
  (row.actions[terminal]?).getD none

/-- True when a terminal has an action in a state. -/
def accepts (table : Table) (state terminal : Nat) : Bool :=
  (table.action? state terminal).isSome

/-- The state that a nonterminal leads to. -/
def step? (table : Table) (state head : Nat) : Option Nat := do
  let row ← table.rows[state]?
  (row.steps[head]?).getD none

/-- The pieces that a reduction leaves: one node for a rule, the parts themselves for a
helper. The frames that are taken off come with the topmost first. -/
def pieces (table : Table) (head : Nat) (taken : List (Frame α)) : List (Derivation α) :=
  let reversed := taken.flatMap (·.pieces)
  if head ≤ table.grammar.rules then [.node head reversed.reverse] else reversed

/-- The stack after a production is reduced. -/
def reduce? (table : Table) (stack : Stack α) (index : Nat) : Option (Stack α) := do
  let production ← table.grammar.productions[index]?
  let count := production.body.length
  let rest : Stack α := stack.drop count
  let next ← table.step? rest.top production.head
  some (⟨next, table.pieces production.head (stack.take count)⟩ :: rest)

/-- The stack after a terminal is fed to it; nothing when the terminal is refused. Each
unit of fuel allows for one reduction. -/
def feed? (table : Table) (terminal : Nat) (piece : List (Derivation α)) :
    Nat → Stack α → Option (Stack α)
  | 0, _ => none
  | fuel + 1, stack =>
    match table.action? stack.top terminal with
    | none => none
    | some (.shift state) => some (⟨state, piece⟩ :: stack)
    | some (.reduce index) => (table.reduce? stack index).bind (feed? table terminal piece fuel)

/-- Enough fuel for the reductions before one terminal: a frame that is there is the part
of a bounded number of phrases that end at the terminal. -/
def reductionLimit (table : Table) (stack : Stack α) : Nat :=
  (stack.length + 2) * (table.grammar.nonterminals + 1)

/-- The stack after a terminal with its lexeme; nothing when it is refused. -/
def shift? (table : Table) (stack : Stack α) (terminal : Nat) (lexeme : α) :
    Option (Stack α) :=
  table.feed? terminal [.leaf terminal lexeme] (table.reductionLimit stack) stack

/-- The derivation of the whole text, when the text may end here. -/
def finish? (table : Table) (stack : Stack α) : Option (Derivation α) :=
  match table.feed? table.grammar.finish [] (table.reductionLimit stack) stack with
  | some (_ :: ⟨_, [derivation]⟩ :: _) => some derivation
  | _ => none

end Table

end InfraReview.Grammar
