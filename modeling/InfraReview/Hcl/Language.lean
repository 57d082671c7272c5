import InfraReview.Grammar.Phrase

/-!
# The configuration language

The grammar of source text. A text is a body of attributes and blocks; the values of
attributes are expressions. Line ends are part of the grammar, because a comment or a
line end may stand only where a rule lets it; blanks and bracketed comments may stand
anywhere and are not in the grammar. Operators have no precedence here.
-/

namespace InfraReview.Hcl

open Grammar

/-- The sorts of tokens. Most are a fixed text. -/
inductive Terminal where
  | quoted
  | trimmedHeredoc
  | heredoc
  | identifier
  | bracketedComment
  | slashComment
  | blanks
  | hashComment
  | exponentMark
  | digit
  | fixed (text : String)
  deriving DecidableEq, Repr

/-- All sorts of tokens in the order in which they are tried: those with the widest
patterns first, then fixed texts from long to short. -/
def terminals : List Terminal := [
  .quoted, .trimmedHeredoc, .heredoc, .identifier, .bracketedComment, .slashComment, .blanks,
  .hashComment, .fixed "for_each", .fixed "for", .fixed "...", .fixed "[*]", .exponentMark,
  .fixed "if", .fixed "in", .fixed "::", .fixed ".*", .fixed "=>", .fixed "==", .fixed "!=",
  .fixed "<=", .fixed ">=", .fixed "&&", .fixed "||", .digit, .fixed "=", .fixed "\x7b",
  .fixed "\x7d", .fixed ",", .fixed "?", .fixed ":", .fixed "-", .fixed "!", .fixed "<",
  .fixed ">", .fixed "*", .fixed "/", .fixed "%", .fixed "+", .fixed "(", .fixed ")", .fixed "[",
  .fixed "]", .fixed ".", .fixed "\n"]

/-- The rules of the grammar. -/
inductive Rule where
  | start
  | body
  | attribute
  | block
  | separator
  | lineEnds
  | identifier
  | expression
  | conditional
  | operation
  | unary
  | binary
  | binaryOperator
  | binaryTail
  | term
  | wholeNumber
  | fraction
  | tuple
  | object
  | objectElement
  | heredoc
  | trimmedHeredoc
  | call
  | arguments
  | colons
  | providerCall
  | indexed
  | attributeAccess
  | attributeSplat
  | fullSplat
  | index
  | accessor
  | attributeSplatTail
  | fullSplatTail
  | listComprehension
  | mapComprehension
  | comprehensionHead
  | comprehensionFilter
  deriving DecidableEq, Repr

/-- A phrase of the grammar. -/
abbrev SourcePhrase := Phrase Terminal Rule

/-- A token of a sort. -/
def sort (terminal : Terminal) : SourcePhrase := .terminal terminal

/-- A fixed text. -/
def word (text : String) : SourcePhrase := .terminal (.fixed text)

/-- What a rule derives. -/
def rule (name : Rule) : SourcePhrase := .rule name

/-- Line ends and comments, or none. -/
def breakable : SourcePhrase := .optional (rule .lineEnds)

/-- Any number of runs of line ends and comments. -/
def breaks : SourcePhrase := .many (rule .lineEnds)

/-- The digits of a number. -/
def digits : SourcePhrase := .some (sort .digit)

/-- The rules with what they derive; the first one derives the whole text. -/
def rules : List (Rule × SourcePhrase) := [
  (.start, rule .body),
  (.body, .all [
    .many (.all [breakable, .any [rule .attribute, rule .block]]),
    breakable]),
  (.attribute, .all [rule .identifier, word "=", rule .expression]),
  (.block, .all [
    rule .identifier, .many (.any [rule .identifier, sort .quoted]), breakable, word "\x7b",
    rule .body, word "\x7d"]),
  (.separator, .any [rule .lineEnds, word ",", .all [word ",", rule .lineEnds]]),
  (.lineEnds, .some (.any [word "\n", sort .hashComment, sort .slashComment])),
  (.identifier, .any [
    sort .identifier, word "in", word "for", word "if", word "for_each"]),
  (.expression, .any [rule .term, rule .operation, rule .conditional]),
  (.conditional, .all [
    rule .expression, word "?", breakable, rule .expression, breakable, word ":", breakable,
    rule .expression]),
  (.operation, .any [rule .unary, rule .binary]),
  (.unary, .all [.any [word "-", word "!"], rule .term]),
  (.binary, .all [rule .expression, rule .binaryTail, breakable]),
  (.binaryOperator, .any [
    word "==", word "!=", word "<", word ">", word "<=", word ">=", word "-", word "*", word "/",
    word "%", word "&&", word "||", word "+"]),
  (.binaryTail, .all [rule .binaryOperator, breakable, rule .expression]),
  (.term, .any [
    .all [word "(", breakable, rule .expression, breakable, word ")"],
    rule .fraction, rule .wholeNumber, sort .quoted, rule .tuple, rule .object, rule .call,
    rule .indexed, rule .attributeAccess, rule .identifier, rule .providerCall, rule .heredoc,
    rule .trimmedHeredoc, rule .attributeSplat, rule .fullSplat, rule .listComprehension,
    rule .mapComprehension]),
  (.wholeNumber, digits),
  (.fraction, .any [
    .all [digits, word ".", digits, .optional (.all [sort .exponentMark, digits])],
    .all [digits, .optional (.all [word ".", digits]), sort .exponentMark, digits]]),
  (.tuple, .all [
    word "[", .many (.all [breaks, rule .expression, breaks, word ","]),
    .optional (.all [breaks, rule .expression]), breaks, word "]"]),
  (.object, .all [
    word "\x7b", breakable,
    .optional (.all [
      rule .objectElement, .many (.all [rule .separator, rule .objectElement]),
      .optional (rule .separator)]),
    word "\x7d"]),
  (.objectElement, .all [
    .any [rule .identifier, rule .expression], .any [word "=", word ":"], rule .expression]),
  (.heredoc, sort .heredoc),
  (.trimmedHeredoc, sort .trimmedHeredoc),
  (.call, .all [
    rule .identifier, word "(", breakable, .optional (rule .arguments), breakable, word ")"]),
  (.arguments, .all [
    rule .expression, .many (.all [breaks, word ",", breaks, rule .expression]),
    .optional (.any [word ",", word "..."]), breaks]),
  (.colons, word "::"),
  (.providerCall, .all [
    rule .identifier, rule .colons, rule .identifier, rule .colons, rule .identifier, word "(",
    breakable, .optional (rule .arguments), breakable, word ")"]),
  (.indexed, .all [rule .term, rule .index]),
  (.attributeAccess, .all [rule .term, rule .accessor]),
  (.attributeSplat, .all [rule .term, rule .attributeSplatTail]),
  (.fullSplat, .all [rule .term, rule .fullSplatTail]),
  (.index, .any [
    .all [word "[", breakable, rule .expression, breakable, word "]"],
    .all [word ".", digits]]),
  (.accessor, .all [word ".", rule .identifier]),
  (.attributeSplatTail, .all [word ".*", .many (rule .accessor)]),
  (.fullSplatTail, .all [word "[*]", .many (.any [rule .accessor, rule .index])]),
  (.listComprehension, .all [
    word "[", breakable, rule .comprehensionHead, breakable, rule .expression, breakable,
    .optional (rule .comprehensionFilter), breakable, word "]"]),
  (.mapComprehension, .all [
    word "\x7b", breakable, rule .comprehensionHead, breakable, rule .expression, word "=>",
    breakable, rule .expression, .optional (word "..."), breakable,
    .optional (rule .comprehensionFilter), breakable, word "\x7d"]),
  (.comprehensionHead, .all [
    word "for", breakable, rule .identifier,
    .optional (.all [word ",", rule .identifier, breakable]), breakable, word "in", breakable,
    rule .expression, breakable, word ":", breakable]),
  (.comprehensionFilter, .all [word "if", breakable, rule .expression])]

end InfraReview.Hcl
