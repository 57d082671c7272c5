import InfraReview.File.Tree

/-!
# The world of a program

A program finds files, variables and commands around it. Commands are known only by what
they come to: one that cannot be found, one that finishes with its output, and one that
fails with a code and perhaps a complaint.
-/

namespace InfraReview

/-- Variables with their values. A later value takes the place of an earlier one. -/
abbrev Environment := List (String × String)

/-- The variables after one has been set. -/
def Environment.set (name value : String) : Environment → Environment
  | [] => [(name, value)]
  | (other, current) :: rest =>
    if other = name then (other, value) :: rest
    else (other, current) :: set name value rest

/-- The variables after others have been set. -/
def Environment.setAll (environment others : Environment) : Environment :=
  others.foldl (fun current (name, value) => current.set name value) environment

/-- A command that is started in a directory. -/
structure Command where
  arguments : List String
  directory : FilePath
  environment : Environment
  deriving DecidableEq, Repr

/-- What a command comes to. -/
inductive CommandResult where
  | notFound
  | finished (output : String)
  | failed (code : Int) (complaint : Option String)
  deriving DecidableEq, Repr

/-- What a program finds around it. -/
structure World where
  files : FileSystem
  environment : Environment
  run : Command → CommandResult

end InfraReview
