import InfraReview.Plan.Error

/-!
# Planned changes

A plan lists the changes that it will make. An address is destroyed when some change
for it has deletion as its only action; a replacement, which deletes and creates, is
not such a change. Entries that are no objects, or have no address, say nothing.
-/

namespace InfraReview.Plan

/-- True when the actions of a change are the one word `delete`. A value that counts as
nothing has no actions; a text gives its characters and an object its names. -/
def onlyDeletes (actions : Json) : Except Error Bool :=
  if actions.isVacant then .ok false
  else
    match actions with
    | .array [.string action] => .ok (action == "delete")
    | .array _ => .ok false
    | .object [(name, _)] => .ok (name == "delete")
    | .object _ => .ok false
    | .string _ => .ok false
    | other => .error (.notIterable other.sortWord)

/-- The address that an entry destroys, if it destroys one. -/
def destroyedBy (entry : Json) : Except Error (Option String) :=
  match entry with
  | .object members =>
    let address := Json.member members "address"
    if address.isVacant then .ok none
    else do
      let detail := Json.member members "change"
      let deletes ←
        if detail.isVacant then .ok false
        else
          match detail with
          | .object parts => onlyDeletes (Json.member parts "actions")
          | other => .error (.noMembers other.sortWord)
      if deletes then (shown address).map some else .ok none
  | _ => .ok none

/-- The addresses that a list of entries destroys. -/
def destroyedByAll : List Json → Except Error (List String)
  | [] => .ok []
  | entry :: entries => do
    let address ← destroyedBy entry
    let addresses ← destroyedByAll entries
    .ok (address.toList ++ addresses)

/-- The addresses that the changes of a plan destroy. Changes that count as nothing are
none; the names of an object and the characters of a text are entries without an
address. -/
def destroyedAddresses (changes : Json) : Except Error (List String) :=
  if changes.isVacant then .ok []
  else
    match changes with
    | .array entries => destroyedByAll entries
    | .object _ => .ok []
    | .string _ => .ok []
    | other => .error (.notIterable other.sortWord)

end InfraReview.Plan
