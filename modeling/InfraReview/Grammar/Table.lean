import InfraReview.Grammar.Automaton

/-!
# Parse tables

The table says what a parser does in a state at a terminal: shift it, or reduce a
production that is complete. A production is reduced at the terminals that can follow it
in that very state. These are found from the follow sets of the transitions by
nonterminals: what can be shifted right after the transition, what follows a transition
that can be skipped there, and what follows the longer phrase when the transition ends
it. The sets are the least ones closed under these three rules.

Where both a shift and a reduction are possible, the table shifts.
-/

namespace InfraReview.Grammar

/-- What a parser does. -/
inductive Action where
  | shift (state : Nat)
  | reduce (production : Nat)
  deriving DecidableEq, Inhabited

/-- One state of a table: the actions by terminal and the steps by nonterminal. -/
structure Row where
  actions : Array (Option Action)
  steps : Array (Option Nat)
  deriving Inhabited

/-- A parse table. -/
structure Table where
  grammar : Productions
  rows : Array Row

/-- The nonterminals that can become nothing, after as many rounds as there are
nonterminals. -/
def Productions.nullable (grammar : Productions) : Array Bool :=
  (List.range grammar.nonterminals).foldl (fun known _ => round known)
    (Array.replicate grammar.nonterminals false)
where
  /-- One round: a head can become nothing when all symbols of a body can. -/
  round (known : Array Bool) : Array Bool :=
    grammar.productions.foldl
      (fun known production =>
        if production.body.all (vanishes known) then known.setIfInBounds production.head true
        else known)
      known
  /-- True for a nonterminal that is known to be able to become nothing. -/
  vanishes (known : Array Bool) : Sym → Bool
    | .terminal _ => false
    | .nonterminal index => known[index]?.getD false

/-- A transition from a state by a nonterminal. -/
structure Transition where
  state : Nat
  head : Nat
  deriving DecidableEq

/-- Sets of terminals as the bits of a number. -/
abbrev TerminalSet := Nat

/-- True when a terminal is in a set. -/
def TerminalSet.has (set : TerminalSet) (terminal : Nat) : Bool := set.testBit terminal

/-- What is known about the transitions of an automaton: their numbers, by state and
nonterminal, and for each the set of terminals that surely follow it. -/
structure Follow where
  grammar : Productions
  states : Array State
  nullable : Array Bool

namespace Follow

/-- The place of a transition in an array of all of them. -/
def place (context : Follow) (transition : Transition) : Nat :=
  transition.state * context.grammar.nonterminals + transition.head

/-- The state that a symbol leads to. -/
def target? (context : Follow) (state : Nat) (symbol : Sym) : Option Nat :=
  (context.states[state]?).bind (·.target? symbol)

/-- All transitions by nonterminals. -/
def transitions (context : Follow) : List Transition :=
  (List.range context.states.size).flatMap fun index =>
    ((context.states[index]?.map (·.steps)).getD []).filterMap fun (symbol, _) =>
      match symbol with
      | .nonterminal head => some ⟨index, head⟩
      | .terminal _ => none

/-- The terminals that can be shifted in a state. -/
def shiftable (context : Follow) (state : Nat) : TerminalSet :=
  ((context.states[state]?.map (·.steps)).getD []).foldl
    (fun set (symbol, _) =>
      match symbol with
      | .terminal index => set ||| (1 <<< index)
      | .nonterminal _ => set)
    0

/-- The transitions by nonterminals that can become nothing, out of a state. -/
def skippable (context : Follow) (state : Nat) : List Transition :=
  ((context.states[state]?.map (·.steps)).getD []).filterMap fun (symbol, _) =>
    match symbol with
    | .nonterminal head =>
      if context.nullable[head]?.getD false then some ⟨state, head⟩ else none
    | .terminal _ => none

/-- True when all symbols can become nothing. -/
def vanish (context : Follow) (symbols : List Sym) : Bool :=
  symbols.all (Productions.nullable.vanishes context.nullable)

/-- Follows the symbols of a body from a state. The answer has the transitions after
which the rest of the body can become nothing, and the state at the end. -/
def walk (context : Follow) : Nat → List Sym → List Transition × Option Nat
  | state, [] => ([], some state)
  | state, symbol :: rest =>
    let here :=
      match symbol with
      | .nonterminal head => if context.vanish rest then [⟨state, head⟩] else []
      | .terminal _ => []
    match context.target? state symbol with
    | none => (here, none)
    | some next =>
      let (found, last) := walk context next rest
      (here ++ found, last)

/-- The productions of a transition's nonterminal with what following them from the
transition's state gives. -/
def walks (context : Follow) (byHead : Array (List Nat)) (transition : Transition) :
    List (Nat × List Transition × Option Nat) :=
  (byHead[transition.head]?.getD []).map fun index =>
    (index, context.walk transition.state
      ((context.grammar.productions[index]?.map (·.body)).getD []))

/-- An inclusion between sets in the array of all transitions: the second contains the
first. -/
structure Inclusion where
  smaller : Nat
  larger : Nat

/-- The inclusions that a transition gives rise to: it is followed by what follows the
transitions that can be skipped behind it, and it passes what follows it on to the
transitions that end a body of its nonterminal. -/
def inclusions (context : Follow) (byHead : Array (List Nat)) (transition : Transition) :
    List Inclusion :=
  let own := context.place transition
  let behind :=
    match context.target? transition.state (.nonterminal transition.head) with
    | some next => (context.skippable next).map fun other => ⟨context.place other, own⟩
    | none => []
  let ending := (context.walks byHead transition).flatMap fun (_, found, _) =>
    found.map fun other => ⟨own, context.place other⟩
  behind ++ ending

/-- One round: every larger set takes in its smaller one. The second part of the answer
says whether some set has grown. -/
def round (inclusions : Array Inclusion) (sets : Array TerminalSet) :
    Array TerminalSet × Bool :=
  inclusions.foldl
    (fun (sets, grown) inclusion =>
      let larger := sets[inclusion.larger]?.getD 0
      let union := larger ||| sets[inclusion.smaller]?.getD 0
      if union = larger then (sets, grown)
      else (sets.setIfInBounds inclusion.larger union, true))
    (sets, false)

/-- Rounds until no set grows, at most `fuel` of them. -/
def close (inclusions : Array Inclusion) : Nat → Array TerminalSet → Array TerminalSet
  | 0, sets => sets
  | fuel + 1, sets =>
    match round inclusions sets with
    | (sets, true) => close inclusions fuel sets
    | (sets, false) => sets

/-- The terminals that can follow each transition, by place. -/
def sets (context : Follow) (byHead : Array (List Nat)) : Array TerminalSet :=
  let all := context.transitions
  let start := all.foldl
    (fun sets transition =>
      match context.target? transition.state (.nonterminal transition.head) with
      | some next => sets.setIfInBounds (context.place transition) (context.shiftable next)
      | none => sets)
    (Array.replicate (context.states.size * context.grammar.nonterminals) 0)
  let inclusions := (all.flatMap (context.inclusions byHead)).toArray
  close inclusions (all.length * context.grammar.terminals + 1) start

/-- The productions that are complete in each state, with the terminals at which they
are reduced. -/
def reductions (context : Follow) : Array (List (Nat × TerminalSet)) :=
  let byHead := context.grammar.byHead
  let sets := context.sets byHead
  context.transitions.foldl
    (fun found transition =>
      let after := sets[context.place transition]?.getD 0
      (context.walks byHead transition).foldl
        (fun found (index, _, last) =>
          match last with
          | some state => found.modify state (add index after)
          | none => found)
        found)
    (Array.replicate context.states.size [])
where
  /-- Reductions after a production may also be reduced at the given terminals. -/
  add (index : Nat) (after : TerminalSet) : List (Nat × TerminalSet) → List (Nat × TerminalSet)
    | [] => [(index, after)]
    | (other, set) :: rest =>
      if other = index then (other, set ||| after) :: rest else (other, set) :: add index after rest

end Follow

/-- The row of a state with the given reductions. -/
def Productions.row (grammar : Productions) (state : State)
    (reductions : List (Nat × TerminalSet)) : Row where
  actions := ((List.range grammar.terminals).map fun terminal =>
    match state.target? (.terminal terminal) with
    | some next => some (.shift next)
    | none =>
      (reductions.find? fun (_, after) => TerminalSet.has after terminal).map fun (index, _) =>
        .reduce index).toArray
  steps := ((List.range grammar.nonterminals).map fun head =>
    state.target? (.nonterminal head)).toArray

/-- The table of a grammar. -/
def Productions.table (grammar : Productions) : Table :=
  let states := grammar.states
  let reductions := Follow.reductions ⟨grammar, states, grammar.nullable⟩
  { grammar := grammar
    rows := states.mapIdx fun index state => grammar.row state (reductions[index]?.getD []) }

end InfraReview.Grammar
