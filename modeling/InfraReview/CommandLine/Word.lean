import InfraReview.Text.Digit

/-!
# Words of a command line

The arguments of a command are words. A word that starts with a dash is meant as an option,
unless it is a dash alone, reads as a negative number, or has a blank in it and no option
begins like it. Long names may be cut short as long as they remain unambiguous, and a value
may be attached to one by an equality sign. Behind two dashes alone every word is an
operand.

All commands know the option that asks for help, and it is the only one with a short name.
Short names may be run together, so only the same name again may be attached to this one, at
first behind an equality sign or without one.
-/

namespace InfraReview.CommandLine

/-- The word behind which there are only operands. -/
def separator : String := "--"

/-- Why a command line ends before its command runs. -/
inductive Stop where
  | help
  | misuse
  deriving DecidableEq, Repr

/-- An option that takes a value, and the values that it accepts. -/
structure OptionForm where
  name : String
  accepts : String → Bool := fun _ => true

/-- What a word of a command line is. -/
inductive Word where
  | operand (text : String)
  | separator
  | stop (reason : Stop)
  | option (form : OptionForm) (attached : Option String)
  | unknown

/-- What the long name of an option stands for. -/
inductive Meaning where
  | help
  | option (form : OptionForm)

/-- The long names of a command with the given options. -/
def longNames (options : List OptionForm) : List (String × Meaning) :=
  ("--help", .help) :: options.map fun form => (form.name, .option form)

/-- The word for an option with what is attached to it. Nothing can be attached to the one
that asks for help. -/
def Meaning.word (attached : Option String) : Meaning → Word
  | .help => .stop (if attached.isSome then .misuse else .help)
  | .option form => .option form attached

/-- What comes of the short name for help with more behind it. -/
def afterShortHelp : List Char → Stop
  | [] => .help
  | ['='] => .misuse
  | '=' :: rest => if rest.all (· == 'h') then .help else .misuse
  | rest => if rest.all (· == 'h') then .help else .misuse

/-- True for the digits of a number, which may have a point before the last of them. -/
def isUnsignedNumber (text : List Char) : Bool :=
  match text.dropWhile Text.isDecimalDigit with
  | [] => !text.isEmpty
  | '.' :: fraction => !fraction.isEmpty && fraction.all Text.isDecimalDigit
  | _ => false

/-- True for a dash and a number. One line feed may follow. -/
def isNegativeNumber (text : List Char) : Bool :=
  match text with
  | '-' :: digits =>
    isUnsignedNumber (if digits.getLast? = some '\n' then digits.dropLast else digits)
  | _ => false

/-- A word that starts with a dash and belongs to no option. -/
def strangeWord (text : String) : Word :=
  if isNegativeNumber text.toList || text.toList.contains ' ' then .operand text else .unknown

/-- The name in a word and the value that is attached to it. -/
def splitAttached (text : String) : String × Option String :=
  let characters := text.toList
  (String.ofList (characters.takeWhile (· != '=')),
    match characters.dropWhile (· != '=') with
    | [] => none
    | _ :: value => some (String.ofList value))

/-- The word that starts with two dashes. A name that is written in full is never
ambiguous. -/
def longWord (options : List OptionForm) (text : String) : Except Stop Word :=
  let (name, attached) := splitAttached text
  let names := longNames options
  match names.lookup name with
  | some meaning => .ok (meaning.word attached)
  | none =>
    match names.filter fun entry => name.toList.isPrefixOf entry.1.toList with
    | [] => .ok (strangeWord text)
    | [entry] => .ok (entry.2.word attached)
    | _ => .error .misuse

/-- The word of one argument that is no separator and follows none. -/
def word (options : List OptionForm) (text : String) : Except Stop Word :=
  match text.toList with
  | '-' :: 'h' :: rest => .ok (.stop (afterShortHelp rest))
  | '-' :: '-' :: _ => longWord options text
  | '-' :: _ :: _ => .ok (strangeWord text)
  | _ => .ok (.operand text)

/-- The words of arguments, each with its text. -/
def words (options : List OptionForm) : List String → Except Stop (List (String × Word))
  | [] => .ok []
  | text :: texts =>
    if text = separator then
      .ok ((text, .separator) :: texts.map fun operand => (operand, .operand operand))
    else do
      let first ← word options text
      let others ← words options texts
      .ok ((text, first) :: others)

end InfraReview.CommandLine
