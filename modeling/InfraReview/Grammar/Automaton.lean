import InfraReview.Grammar.Phrase

/-!
# The automaton of a grammar

A state of the automaton is a set of items: productions with a place in them that has
been reached. Only the items that were reached by a step are kept, the kernel of a
state; the rest of the state are productions at their beginning, and which ones follows
from the nonterminals that may come first after the kernel. States are made in the
order in which they are found, breadth first from the root.
-/

namespace InfraReview.Grammar

/-- A production by its number and the number of its symbols that have been passed. -/
structure Item where
  production : Nat
  passed : Nat
  deriving DecidableEq

/-- The symbol after the place of an item. -/
def Productions.next? (grammar : Productions) (item : Item) : Option Sym := do
  let production ← grammar.productions[item.production]?
  production.body[item.passed]?

/-- The productions of every nonterminal, by number. -/
def Productions.byHead (grammar : Productions) : Array (List Nat) :=
  (List.range grammar.productions.size).foldl
    (fun heads index =>
      match grammar.productions[index]? with
      | some production => heads.modify production.head (· ++ [index])
      | none => heads)
    (Array.replicate grammar.nonterminals [])

/-- The nonterminals that productions of a nonterminal begin with. -/
def Productions.firstHeads (grammar : Productions) (byHead : Array (List Nat)) (head : Nat) :
    List Nat :=
  (byHead[head]?.getD []).filterMap fun index =>
    match grammar.next? ⟨index, 0⟩ with
    | some (.nonterminal first) => some first
    | _ => none

/-- Everything reached from a list of numbers below `bound` by a step, each once, in the
order in which it is found. A number is added at most once, so `bound` rounds are
enough. -/
def reachable (step : Nat → List Nat) : Nat → List Nat → List Nat → List Nat
  | 0, _, done => done.reverse
  | _, [], done => done.reverse
  | fuel + 1, current :: waiting, done =>
    if done.contains current then reachable step fuel waiting done
    else reachable step fuel (step current ++ waiting) (current :: done)

/-- The productions at their beginning that belong to a kernel. -/
def Productions.closure (grammar : Productions) (byHead : Array (List Nat)) (kernel : List Item) :
    List Item :=
  let heads := kernel.filterMap fun item =>
    match grammar.next? item with
    | some (.nonterminal head) => some head
    | _ => none
  let all := reachable (grammar.firstHeads byHead)
    (heads.length + grammar.productions.size + grammar.nonterminals) heads []
  all.flatMap fun head => (byHead[head]?.getD []).map fun index => ⟨index, 0⟩

/-- The steps out of a set of items: each symbol that some item can pass, in order, and
the items after it. -/
def Productions.steps (grammar : Productions) (items : List Item) : List (Sym × List Item) :=
  items.foldl
    (fun steps item =>
      match grammar.next? item with
      | none => steps
      | some symbol => add symbol ⟨item.production, item.passed + 1⟩ steps)
    []
where
  /-- The steps after one more item passes a symbol. -/
  add (symbol : Sym) (item : Item) : List (Sym × List Item) → List (Sym × List Item)
    | [] => [(symbol, [item])]
    | (other, items) :: rest =>
      if other = symbol then (other, items ++ [item]) :: rest
      else (other, items) :: add symbol item rest

/-- The order of items in a kernel, so that equal sets of items are equal lists. -/
def Item.before (left right : Item) : Bool :=
  left.production < right.production ||
    (left.production == right.production && left.passed ≤ right.passed)

/-- A state: its kernel and the states that its symbols lead to. -/
structure State where
  kernel : List Item
  steps : List (Sym × Nat)

/-- The states made so far, by number, and the kernels that have no number yet. -/
structure Construction where
  kernels : Array (List Item)
  states : Array State

/-- The number of a kernel, which is added when it is new. -/
def Construction.number (construction : Construction) (kernel : List Item) :
    Nat × Construction :=
  match construction.kernels.findIdx? (· == kernel) with
  | some index => (index, construction)
  | none =>
    (construction.kernels.size,
      { construction with kernels := construction.kernels.push kernel })

/-- Makes the states of the kernels that have none yet, at most `fuel` of them. -/
def Construction.complete (grammar : Productions) (byHead : Array (List Nat)) :
    Nat → Construction → Construction
  | 0, construction => construction
  | fuel + 1, construction =>
    match construction.kernels[construction.states.size]? with
    | none => construction
    | some kernel =>
      let steps := grammar.steps (kernel ++ grammar.closure byHead kernel)
      let (numbered, construction) := steps.foldl
        (fun (numbered, construction) (symbol, kernel) =>
          let (index, construction) :=
            Construction.number construction (kernel.mergeSort Item.before)
          ((symbol, index) :: numbered, construction))
        ([], construction)
      complete grammar byHead fuel
        { construction with states := construction.states.push ⟨kernel, numbered.reverse⟩ }

/-- The most states that an automaton is given. -/
def stateLimit : Nat := 20000

/-- The states of a grammar; the first one is the start. -/
def Productions.states (grammar : Productions) : Array State :=
  (Construction.complete grammar grammar.byHead stateLimit ⟨#[[⟨0, 0⟩]], #[]⟩).states

/-- The state that a symbol leads to. -/
def State.target? (state : State) (symbol : Sym) : Option Nat := state.steps.lookup symbol

end InfraReview.Grammar
