import InfraReview.Calendar.Moment
import InfraReview.Number.Numeral
import InfraReview.Text.Quoted

/-!
# Faults of YAML text

A text is malformed when it breaks a rule of the language; what exactly is wrong is left
open. Apart from that, reading breaks off at a value that has the form of a number, a
truth value or a date without being one, at a number of a directive that is too long, and at an
escape beyond the code points.
-/

namespace InfraReview.Yaml

/-- Why a YAML text gives no data. -/
inductive Fault where
  | malformed
  | escapeOutOfRange
  | escapeTooLarge
  | noDigits
  | length (fault : LengthFault)
  | numeral (fault : Numeral.Fault)
  | notADecimal (text : String)
  | tooLarge
  | notATruth (text : String)
  | notATimestamp
  | timestampOfMapping
  | date (fault : Date.Fault)
  | clock (fault : Moment.Fault)
  | offset (minutes : Int)
  deriving DecidableEq, Repr

/-- The message of a fault. -/
def Fault.message : Fault → String
  | .malformed => "<yaml>"
  | .escapeOutOfRange => "chr() arg not in range(0x110000)"
  | .escapeTooLarge => "Python int too large to convert to C int"
  | .noDigits => "string index out of range"
  | .length fault => fault.message
  | .numeral fault => fault.message
  | .notADecimal text => "could not convert string to float: " ++ Text.quoted text
  | .tooLarge => "int too large to convert to float"
  | .notATruth text => Text.quoted text
  | .notATimestamp => "'NoneType' object has no attribute 'groupdict'"
  | .timestampOfMapping => "expected string or bytes-like object, got 'list'"
  | .date fault => fault.message
  | .clock fault => fault.message
  | .offset minutes =>
    "offset must be a timedelta strictly between -timedelta(hours=24) and "
      ++ "timedelta(hours=24), not " ++ spanText minutes ++ "."

end InfraReview.Yaml
