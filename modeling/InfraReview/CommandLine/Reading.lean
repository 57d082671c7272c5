import InfraReview.CommandLine.Word
import InfraReview.File.Path

/-!
# Reading a command line

The words of a command line are taken from left to right. Each option takes a value, the
one attached to it or else the next operand, and a value that it does not accept ends the
reading. A command may take one operand besides; one that starts another command takes all
words that are left. Words that nothing takes are surplus: they are out of place, but only
when everything else has been read.

A separator that comes with an operand is taken along with it. An attached value that is a
separator is dropped, and then the option has been given, but without any value.
-/

namespace InfraReview.CommandLine

/-- The operand that a command takes. -/
inductive OperandForm where
  | none
  | optional
  | required
  | command
  deriving DecidableEq, Repr

/-- What a command takes. -/
structure Form where
  options : List OptionForm
  operand : OperandForm

/-- What has been read: the values of options in order, the operand, the words of another
command, and whether there is a surplus. -/
structure Reading where
  values : List (String × Option String) := []
  operand : Option String := none
  command : List String := []
  hasSurplus : Bool := false
  deriving DecidableEq, Repr

namespace Reading

/-- A reading with a surplus. -/
def withSurplus (reading : Reading) : Reading := { reading with hasSurplus := true }

/-- A reading with an operand. -/
def withOperand (text : String) (reading : Reading) : Reading :=
  { reading with operand := some text }

/-- A reading with the value of an option before the others. -/
def withValue (name : String) (value : Option String) (reading : Reading) : Reading :=
  { reading with values := (name, value) :: reading.values }

/-- The values of an option, in order; nothing stands for each time that it was given without
one. -/
def all (reading : Reading) (name : String) : List (Option String) :=
  (reading.values.filter fun entry => entry.1 == name).map (·.2)

/-- The value of an option that was given last, if the option was given at all. -/
def last? (reading : Reading) (name : String) : Option (Option String) :=
  (reading.all name).getLast?

/-- The value of an option that was given last, if there is one. -/
def value? (reading : Reading) (name : String) : Option String := (reading.last? name).join

end Reading

/-- A file that an option is meant to name. -/
inductive NamedFile where
  | file (path : FilePath)
  | unnamed
  deriving DecidableEq, Repr

/-- The file that the value of an option names. -/
def NamedFile.ofValue : Option String → NamedFile
  | some text => .file (FilePath.ofText text)
  | none => .unnamed

/-- What an option with a value comes to, before what follows it. -/
def takeValue (form : OptionForm) (value : String) (rest : Except Stop Reading) :
    Except Stop Reading :=
  if form.accepts value then rest.map (Reading.withValue form.name (some value))
  else .error .misuse

/-- What an option with an attached value comes to, before what follows it. -/
def takeAttached (form : OptionForm) (value : String) (rest : Except Stop Reading) :
    Except Stop Reading :=
  if value = separator then rest.map (Reading.withValue form.name none)
  else takeValue form value rest

/-- What words come to while an operand of some form is still to be taken. -/
def readWords (operand : OperandForm) : List (String × Word) → Except Stop Reading
  | [] => if operand = .required then .error .misuse else .ok {}
  | (_, .stop reason) :: _ => .error reason
  | (_, .unknown) :: words => (readWords operand words).map Reading.withSurplus
  | (_, .option form (some value)) :: words => takeAttached form value (readWords operand words)
  | (_, .option form none) :: (_, .operand value) :: words =>
    takeValue form value (readWords operand words)
  | (_, .option _ none) :: _ => .error .misuse
  | (text, .operand value) :: words =>
    match operand, words with
    | .none, words => (readWords .none words).map Reading.withSurplus
    | .command, words => .ok { command := text :: words.map (·.1) }
    | _, (_, .separator) :: words => (readWords .none words).map (Reading.withOperand value)
    | _, words => (readWords .none words).map (Reading.withOperand value)
  | (_, .separator) :: words =>
    match operand, words with
    | .none, words => (readWords .none words).map Reading.withSurplus
    | .command, [] => .ok { hasSurplus := true }
    | .command, _ :: _ => .error .misuse
    | .optional, [] => .ok {}
    | .required, [] => .error .misuse
    | _, (_, .operand value) :: words => (readWords .none words).map (Reading.withOperand value)
    | _, _ :: words => (readWords .none words).map Reading.withSurplus

/-- What arguments come to for a command of some form. -/
def Form.read (form : Form) (arguments : List String) : Except Stop Reading := do
  readWords form.operand (← words form.options arguments)

end InfraReview.CommandLine
