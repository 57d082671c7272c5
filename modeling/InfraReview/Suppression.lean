import InfraReview.Calendar.Moment
import InfraReview.Finding
import InfraReview.Log

/-!
# Suppressions

A suppression is an accepted exception: it names a rule and a resource, says why, and
until when. The star stands for every rule or every resource. Findings that match a
suppression are set apart; the others are kept, and both keep their order.

A suppression goes on working after its date. It is then listed as expired, which is
judged for each entry on its own and has no influence on the findings. An entry whose
date cannot be read never expires.
-/

namespace InfraReview

/-- An accepted exception for a rule and a resource. -/
structure Suppression where
  ruleId : String
  resource : String
  reason : String
  expires : String
  deriving DecidableEq, Repr

namespace Suppression

/-- The text that stands for everything. -/
def wildcard : String := "*"

/-- A pattern covers a text when it is the star or the text itself. -/
def covers (pattern text : String) : Bool := pattern == wildcard || pattern == text

/-- A suppression matches a finding when it covers both its rule and its resource. -/
def covered (suppression : Suppression) (finding : Finding) : Bool :=
  covers suppression.ruleId finding.ruleId && covers suppression.resource finding.resource

/-- The moment after which an entry is expired: midnight at the start of its date. -/
def expiry? (suppression : Suppression) : Option Moment :=
  (Date.read suppression.expires).map Moment.midnight

/-- An entry is expired when its moment has passed. -/
def isExpired (suppression : Suppression) (now : Moment) : Bool :=
  match suppression.expiry? with
  | some expiry => expiry.isBefore now
  | none => false

/-- An entry is expired at a point in time when its moment has passed on the wall clock. -/
def isExpiredAt (suppression : Suppression) (now : Instant) : Bool :=
  suppression.isExpired now.wallClock

/-- An expired entry in one line. -/
def describe (suppression : Suppression) : String :=
  suppression.ruleId ++ " on " ++ suppression.resource ++ " (expired " ++ suppression.expires
    ++ "): " ++ suppression.reason

end Suppression

/-- Findings after suppression: those kept, those set apart, and the expired entries. -/
structure Suppressed where
  kept : List Finding
  suppressed : List Finding
  expired : List Suppression
  deriving DecidableEq, Repr

/-- True when some suppression matches a finding. -/
def isSuppressed (suppressions : List Suppression) (finding : Finding) : Bool :=
  suppressions.any fun suppression => suppression.covered finding

/-- Goes through findings and suppressions at a moment: sets the findings apart that some
suppression matches, and lists the entries that are expired. -/
def sortOut (findings : List Finding) (suppressions : List Suppression) (now : Moment) :
    Suppressed :=
  let (apart, kept) := findings.partition (isSuppressed suppressions)
  ⟨kept, apart, suppressions.filter fun suppression => suppression.isExpired now⟩

/-- Applies suppressions to findings at a moment. Without any suppression, all findings are
kept as they are. -/
def applySuppressions (findings : List Finding) (suppressions : List Suppression)
    (now : Moment) : Suppressed :=
  if suppressions.isEmpty then ⟨findings, [], []⟩ else sortOut findings suppressions now

/-- What is noted while suppressions are applied: each expired entry. -/
def suppressionLog (suppressions : List Suppression) (now : Moment) : List LogEntry :=
  (suppressions.filter fun suppression => suppression.isExpired now).map fun suppression =>
    ⟨.warning, "wa_review.config.suppression",
      "Suppression has expired: " ++ suppression.describe⟩

end InfraReview
