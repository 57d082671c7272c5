/-!
# Grammars

The rules of a grammar are phrases: terminals and rules put together by sequence,
choice, option and repetition. A parser needs plain productions, so a phrase is
expanded into its alternatives. A repetition becomes a helper, a nonterminal of its own
that derives the repeated phrase once or more; equal repeated phrases share one helper
in all rules of the grammar, which keeps the parser's states few and free of avoidable
conflicts. No alternative occurs twice under one head.
-/

namespace InfraReview.Grammar

/-- The right-hand side of a rule over terminals `T` and rules `R`. -/
inductive Phrase (T R : Type) where
  | empty
  | terminal (symbol : T)
  | rule (symbol : R)
  | seq (first second : Phrase T R)
  | choice (first second : Phrase T R)
  | optional (phrase : Phrase T R)
  | many (phrase : Phrase T R)
  | some (phrase : Phrase T R)
  deriving DecidableEq

namespace Phrase

variable {T R : Type}

/-- Phrases one after the other. -/
def all : List (Phrase T R) → Phrase T R
  | [] => empty
  | [phrase] => phrase
  | phrase :: phrases => seq phrase (all phrases)

/-- One of several phrases. -/
def any : List (Phrase T R) → Phrase T R
  | [] => empty
  | [phrase] => phrase
  | phrase :: phrases => choice phrase (any phrases)

end Phrase

/-- A symbol of a production, by number. -/
inductive Sym where
  | terminal (index : Nat)
  | nonterminal (index : Nat)
  deriving DecidableEq

/-- A production: its head and the symbols that the head may become. -/
structure Production where
  head : Nat
  body : List Sym
  deriving DecidableEq

/-- The helpers that have been made for repeated phrases, and their productions. -/
structure Helpers (T R : Type) where
  phrases : List (Phrase T R × Nat)
  productions : List Production
  next : Nat

variable {T R : Type} [DecidableEq T] [DecidableEq R]

/-- The helper for a repeated phrase with the given alternatives, made if it is not
there yet. -/
def Helpers.helperFor (helpers : Helpers T R) (phrase : Phrase T R)
    (alternatives : List (List Sym)) : Nat × Helpers T R :=
  match helpers.phrases.lookup phrase with
  | some index => (index, helpers)
  | none =>
    let index := helpers.next
    let once := alternatives.map fun body => ⟨index, body⟩
    let again := alternatives.map fun body => ⟨index, Sym.nonterminal index :: body⟩
    (index,
      { phrases := (phrase, index) :: helpers.phrases
        productions := helpers.productions ++ (once ++ again).eraseDups
        next := index + 1 })

/-- The numbers of the terminals and the rules of a grammar. -/
structure Numbering (T R : Type) where
  terminal : T → Nat
  rule : R → Nat

/-- The alternatives of a phrase, and the helpers after it. -/
def expand (numbering : Numbering T R) :
    Phrase T R → Helpers T R → List (List Sym) × Helpers T R
  | .empty, helpers => ([[]], helpers)
  | .terminal symbol, helpers => ([[.terminal (numbering.terminal symbol)]], helpers)
  | .rule symbol, helpers => ([[.nonterminal (numbering.rule symbol)]], helpers)
  | .seq first second, helpers =>
    let (lefts, helpers) := expand numbering first helpers
    let (rights, helpers) := expand numbering second helpers
    (lefts.flatMap fun left => rights.map (left ++ ·), helpers)
  | .choice first second, helpers =>
    let (lefts, helpers) := expand numbering first helpers
    let (rights, helpers) := expand numbering second helpers
    (lefts ++ rights, helpers)
  | .optional phrase, helpers =>
    let (alternatives, helpers) := expand numbering phrase helpers
    (alternatives ++ [[]], helpers)
  | .many phrase, helpers =>
    let (alternatives, helpers) := expand numbering phrase helpers
    let (index, helpers) := helpers.helperFor phrase alternatives
    ([[.nonterminal index], []], helpers)
  | .some phrase, helpers =>
    let (alternatives, helpers) := expand numbering phrase helpers
    let (index, helpers) := helpers.helperFor phrase alternatives
    ([[.nonterminal index]], helpers)

/-- Plain productions. The terminal with the highest number is the end of the text. The
nonterminal zero is the root; its one production, the first, is the start rule followed
by the end. The next nonterminals are the rules in order, and the others helpers. -/
structure Productions where
  terminals : Nat
  nonterminals : Nat
  rules : Nat
  productions : Array Production

/-- The number of the end of the text. -/
def Productions.finish (grammar : Productions) : Nat := grammar.terminals - 1

/-- The productions of the rules, of which the first one is the start. -/
def Productions.ofRules (terminals : List T) (rules : List (R × Phrase T R)) : Productions :=
  let names := rules.map (·.1)
  let numbering : Numbering T R := ⟨terminals.idxOf, fun rule => names.idxOf rule + 1⟩
  let start : Helpers T R := ⟨[], [], rules.length + 1⟩
  let (own, helpers) := rules.foldl
    (fun (done, helpers) (rule, phrase) =>
      let (alternatives, helpers) := expand numbering phrase helpers
      let found := alternatives.eraseDups.map fun body => Production.mk (numbering.rule rule) body
      (done ++ found, helpers))
    (([] : List Production), start)
  { terminals := terminals.length + 1
    nonterminals := helpers.next
    rules := rules.length
    productions :=
      (Production.mk 0 [.nonterminal 1, .terminal terminals.length] :: own
        ++ helpers.productions).toArray }

end InfraReview.Grammar
