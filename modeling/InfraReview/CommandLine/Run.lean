import InfraReview.CommandLine.Word
import InfraReview.File.Tree
import InfraReview.Log

/-!
# Runs of commands

A run that is not stopped by its command line finishes with an exit code and with what it
prints, or it breaks off with a fault. It leaves files behind, and entries of the log.
-/

namespace InfraReview.CommandLine

/-- How a run ends. -/
inductive Ending where
  | stopped (reason : Stop)
  | overview
  | finished (code : Nat) (output complaint : String)
  deriving DecidableEq, Repr

/-- The end of a run with a complaint about what it was given. -/
def Ending.refused (message : String) : Ending := .finished 2 "" ("Error: " ++ message ++ "\n")

/-- What a run comes to: its end or a fault, the files after it, and what it noted. -/
structure Run (φ : Type) where
  ending : Except φ Ending
  files : FileSystem
  log : List LogEntry

end InfraReview.CommandLine
