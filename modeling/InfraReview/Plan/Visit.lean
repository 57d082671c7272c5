import InfraReview.Plan.Error

/-!
# The walk through the modules of a plan

The modules of a plan form a tree. The walk visits the resources of a module in order
and then each of its child modules with everything below it. A place that has the wrong
shape is a visit of its own, so the walk is data and goes on behind it; who reads the
visits stops at the first broken one.
-/

namespace InfraReview.Plan

/-- What the walk meets: a resource, or a place that is malformed. -/
inductive Visit where
  | resource (members : List (String × Json))
  | broken (error : Error)

/-- The visit of one entry of a list of resources. -/
def resourceVisit : Json → Visit
  | .object members => .resource members
  | _ => .broken .resourceNotAnObject

/-- The visits of a module's own resources. -/
def ownVisits (module : List (String × Json)) : List Visit :=
  match Json.member module "resources" with
  | .null => []
  | .array entries => entries.map resourceVisit
  | _ => [.broken .resourcesNotAList]

mutual

/-- The visits of an entry of a list of child modules. -/
def childVisits : Json → List Visit
  | .object members => ownVisits members ++ nestedVisits members
  | _ => [.broken .childNotAnObject]

/-- The visits below a module, given its members: those of its first member for child
modules. -/
def nestedVisits : List (String × Json) → List Visit
  | [] => []
  | (name, value) :: members =>
    if name = "child_modules" then listVisits value else nestedVisits members

/-- The visits of a member for child modules. A value that counts as nothing has none;
the names of an object and the characters of a text are no modules. -/
def listVisits : Json → List Visit
  | .array entries => entryVisits entries
  | other =>
    if other.isVacant then []
    else
      match other with
      | .object _ => [.broken .childNotAnObject]
      | .string _ => [.broken .childNotAnObject]
      | _ => [.broken (.notIterable other.sortWord)]

/-- The visits of the entries of a list of child modules, in order. -/
def entryVisits : List Json → List Visit
  | [] => []
  | entry :: entries => childVisits entry ++ entryVisits entries

end

/-- The visits of a module and of everything below it. -/
def moduleVisits (module : List (String × Json)) : List Visit :=
  ownVisits module ++ nestedVisits module

end InfraReview.Plan
