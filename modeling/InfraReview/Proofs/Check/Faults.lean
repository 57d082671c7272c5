import Mathlib.Data.List.Basic
import InfraReview.Plan.Entities
import InfraReview.Proofs.Engine.Dispatch
import InfraReview.Proofs.Success

/-!
# Faults of the built-in checks

Of the ten built-in checks one can break off. The check of open ports takes the whole part of
the bounds of a rule that lets everyone in, and a bound that is no number, or is infinite and
not negative, has none. Every other check gives findings whatever it is shown.

So the faults of a run can be told from its entities: there is one for each entity with such a
rule, provided that the filters let the check run, and no finding of the check for that entity.
-/

namespace InfraReview

namespace Check

/-- Why the bound of a range of ports has no whole part. A negative bound is not asked for
one. -/
def endlessBound? : Option Double → Option Double.NoWholePart
  | some .nan => some .nan
  | some (.infinity false) => some .infinity
  | _ => none

/-- Why a rule breaks the check of open ports off: it lets everyone in and has such a bound, of
which the lower one is met first. -/
def breakingRule? (rule : Attributes) : Option Double.NoWholePart :=
  if hasOpenRange (rule.list? "cidr_blocks") || hasOpenRange (rule.list? "ipv6_cidr_blocks") then
    (endlessBound? (rule.number? "from_port")).or (endlessBound? (rule.number? "to_port"))
  else none

/-- Why an entity breaks the check of open ports off: one of its rules does, of which the first
one is met first. -/
def breakingEntity? (entity : Entity) : Option Double.NoWholePart :=
  (ingressRules entity).2.findSome? breakingRule?

/-- The fault that an entity causes when it is shown to the check of open ports, if it is of a
kind that is shown to it. -/
def portFault? (entity : Entity) : Option CheckFault :=
  if entity.kind ∈ openIngressMetadata.resourceTypes then
    (breakingEntity? entity).map fun reason =>
      ⟨openIngressMetadata.id, some entity.address, Numeral.Fault.message (.noWholePart reason)⟩
  else none

/-- Reading a bound fails at the bounds without a whole part. -/
theorem failure?_portBound (value : Option Double) :
    failure? (portBound value) = endlessBound? value := by
  cases value with
  | none => rfl
  | some number =>
    cases number with
    | nan => rfl
    | infinity negative => cases negative <;> rfl
    | finite negative magnitude =>
      have whole : ∃ part, Double.truncate (.finite negative magnitude) = .ok part := by
        cases negative with
        | true => exact ⟨_, rfl⟩
        | false => exact ⟨_, rfl⟩
      obtain ⟨part, found⟩ := whole
      rw [portBound]
      split
      · rfl
      · rw [found]
        rfl

/-- Looking for the ports of a rule fails when the rule breaks the check off. -/
theorem failure?_exposedPorts (rule : Attributes) :
    failure? (exposedPorts rule) = breakingRule? rule := by
  unfold exposedPorts breakingRule?
  split
  · rw [← failure?_portBound, ← failure?_portBound]
    refine failure?_bind _ fun fromPort => ?_
    refine failure?_bind_sound _ fun toPort => ?_
    cases fromPort with
    | none => rfl
    | some low => cases toPort <;> rfl
  · rfl

/-- Looking through rules fails at the first one that breaks the check off. -/
theorem failure?_allExposures (entity : Entity) (label : String) (rules : List Attributes) :
    failure? (allExposures entity label rules) = rules.findSome? breakingRule? := by
  induction rules with
  | nil => rfl
  | cons rule rules inductionHypothesis =>
    have own : failure? (exposureFindings entity label rule) = breakingRule? rule := by
      rw [exposureFindings, failure?_map, failure?_exposedPorts]
    have rest (found : List Finding) :
        failure? (allExposures entity label rules >>= fun others => .ok (found ++ others)) =
          rules.findSome? breakingRule? := by
      rw [← inductionHypothesis]
      exact failure?_bind_sound _ fun others => rfl
    rw [allExposures, failure?_bind _ rest, own, List.findSome?_cons]
    cases breakingRule? rule <;> rfl

/-- The check of open ports breaks off at the entities that are said to break it off. -/
theorem openIngress_fault (entity : Entity) :
    (openIngress.evaluate entity).fault? =
      (breakingEntity? entity).map fun reason => Numeral.Fault.message (.noWholePart reason) := by
  have failed := failure?_allExposures entity (ingressRules entity).1 (ingressRules entity).2
  rw [breakingEntity?, ← failed]
  simp only [openIngress]
  cases allExposures entity (ingressRules entity).1 (ingressRules entity).2 <;> rfl

/-- What breaks the check of open ports off has no findings. -/
theorem openIngress_found {entity : Entity} {reason : Double.NoWholePart}
    (breaks : breakingEntity? entity = some reason) : (openIngress.evaluate entity).found = [] := by
  have faulty := openIngress_fault entity
  rw [breaks] at faulty
  cases outcome : openIngress.evaluate entity with
  | fault message => rfl
  | findings found => simp [outcome, Outcome.fault?] at faulty
  | nothing => rfl

/-- Findings that are given in either case are no fault. -/
theorem fault?_unless (test : Prop) [Decidable test] (some others : List Finding) :
    (if test then Outcome.findings some else .findings others).fault? = none := by
  split <;> rfl

/-- Among the built-in checks of single entities only the one of open ports reads off anything
that comes of a fault. -/
theorem resourceCatalog_faults (keep : ResourceCheck → Bool) (entity : Entity)
    (read : ResourceCheck → String → CheckFault) :
    (resourceCatalog.filter keep).filterMap
        (fun check => (check.evaluate entity).fault?.map (read check)) =
      if keep openIngress then
        ((openIngress.evaluate entity).fault?.map (read openIngress)).toList
      else [] := by
  have encryption : (bucketEncryption.evaluate entity).fault? = none := fault?_unless _ _ _
  have versioning : (bucketVersioning.evaluate entity).fault? = none := fault?_unless _ _ _
  have traffic : (flowLogTraffic.evaluate entity).fault? = none := fault?_unless _ _ _
  have storage : (storageEncryption.evaluate entity).fault? = none := fault?_unless _ _ _
  have rotation : (keyRotation.evaluate entity).fault? = none := fault?_unless _ _ _
  have regions : (multiRegionTrail.evaluate entity).fault? = none := fault?_unless _ _ _
  rw [List.filterMap_filter]
  simp only [resourceCatalog, List.filterMap_cons, List.filterMap_nil, encryption, versioning,
    traffic, storage, rotation, regions, Option.map_none, ite_self]
  by_cases kept : keep openIngress = true
  · rw [if_pos kept, if_pos kept]
    cases (openIngress.evaluate entity).fault? <;> rfl
  · rw [if_neg kept, if_neg kept]

/-- No built-in check that relates entities breaks off. -/
theorem crossCatalog_faults {check : CrossCheck} (member : check ∈ crossCatalog)
    (entities : List Entity) : (check.evaluate entities).fault? = none := by
  simp only [crossCatalog, List.mem_cons, List.not_mem_nil, or_false] at member
  rcases member with rfl | rfl | rfl <;> rfl

end Check

open Check

/-- The faults of a run of the built-in checks are those of the check of open ports, when the
filters let it run: one for each entity, in order, that is shown to it and has a rule which lets
everyone in and has a bound without a whole part. The check then has no finding for the entity.
No other check breaks off. -/
theorem built_in_faults (config : EngineConfig) (entities : List Entity) :
    ((Engine.create config Registry.builtin).analyze entities).2.faults =
        (if config.allows openIngressMetadata then entities.filterMap portFault? else []) ∧
      ∀ (entity : Entity) (fault : CheckFault), portFault? entity = some fault →
        (openIngress.evaluate entity).found = [] := by
  constructor
  · have run := (Engine.serves_create config Registry.builtin).run entities
    have faults : ((Engine.create config Registry.builtin).analyze entities).2.faults =
        (Engine.expectedRun config Registry.builtin entities).faults := by
      rw [← run]
    have related : (Engine.relatingChecks config Registry.builtin).filterMap (fun check =>
        (check.evaluate entities).fault?.map fun message =>
          (⟨check.metadata.id, none, message⟩ : CheckFault)) = [] := by
      rw [List.filterMap_eq_nil_iff]
      intro check member
      rw [crossCatalog_faults ((List.mem_filter.mp member).1) entities]
      rfl
    have single (entity : Entity) :
        (Engine.checksOf config Registry.builtin entity.kind).filterMap (fun check =>
          (check.evaluate entity).fault?.map fun message =>
            (⟨check.metadata.id, some entity.address, message⟩ : CheckFault)) =
        if config.allows openIngressMetadata then (portFault? entity).toList else [] := by
      rw [Engine.checksOf, Registry.builtin, resourceCatalog_faults, openIngress_fault, portFault?]
      by_cases allowed : config.allows openIngressMetadata = true
      · by_cases shown : entity.kind ∈ openIngressMetadata.resourceTypes
        · simp [openIngress, allowed, shown, Function.comp_def]
        · simp [openIngress, allowed, shown]
      · simp [openIngress, allowed]
    rw [faults, Engine.expectedRun]
    simp only [related, single, List.append_nil]
    split
    · exact (List.filterMap_eq_flatMap_toList portFault? entities).symm
    · simp
  · intro entity fault faulty
    unfold portFault? at faulty
    split at faulty
    · obtain ⟨reason, breaks, -⟩ := Option.map_eq_some_iff.mp faulty
      exact openIngress_found breaks
    · cases faulty

/-- A plan with one security group. Its first rule lets everyone in through ports without end,
its second one through the port of a service that is to be kept closed. -/
def endlessPlan : Plan.Document :=
  let everyone : String × Json := ("cidr_blocks", .array [.string "0.0.0.0/0"])
  let endless : Json := .double (.infinity false)
  let rules : List Json :=
    [.object [everyone, ("from_port", endless), ("to_port", endless)],
      .object [everyone, ("from_port", .int 22), ("to_port", .int 22)]]
  let group : List (String × Json) :=
    [("address", .string "aws_security_group.g"), ("type", .string "aws_security_group"),
      ("name", .string "g"), ("values", .object [("ingress", .array rules)])]
  .decoded [("planned_values", .object [("root_module", .object [("resources",
    .array [.object group])])])]

/-- The one entity of that plan. -/
def endlessGroup : Entity :=
  let everyone : String × Value := ("cidr_blocks", .list [.text "0.0.0.0/0"])
  let endless : Value := .number (.infinity false)
  let port : Value := .number ((Double.ofInt? 22).getD .nan)
  let rule (bound : Value) : Block :=
    ⟨.text "ingress", [], [everyone, ("from_port", bound), ("to_port", bound)], [], 0⟩
  { kind := "aws_security_group"
    localName := "g"
    attributes := []
    blocks := [(.text "ingress", [rule endless, rule port])]
    fullAddress := some "aws_security_group.g"
    mode := "managed"
    file := "tfplan"
    line := 0 }

/-- The group breaks the check off at its first rule, and what is found at its second one is
lost. -/
theorem endless_group_faults :
    portFault? endlessGroup =
        some ⟨"VPC-001", some "aws_security_group.g",
          "cannot convert float infinity to integer"⟩ ∧
      (openIngress.evaluate endlessGroup).found = [] := by
  have faulty : portFault? endlessGroup =
      some ⟨"VPC-001", some "aws_security_group.g",
        "cannot convert float infinity to integer"⟩ := by
    decide +kernel
  exact ⟨faulty, (built_in_faults {} [endlessGroup]).2 endlessGroup _ faulty⟩

/-- Not every run of the built-in checks over the entities of a plan is without faults: a bound
that is infinite is asked for its whole part, as only the negative ones are left out. -/
theorem endless_bound_breaks_off :
    ¬ ∀ (config : EngineConfig) (table : BlockTable) (source : String) (document : Plan.Document)
      (entities : List Entity), Plan.read table source document = .ok entities →
        ((Engine.create config Registry.builtin).analyze entities).2.faults = [] := by
  intro faultless
  have found : Plan.read .standard "tfplan" endlessPlan = .ok [endlessGroup] := by rfl
  have faults : ((Engine.create {} Registry.builtin).analyze [endlessGroup]).2.faults =
      [⟨"VPC-001", some "aws_security_group.g",
        "cannot convert float infinity to integer"⟩] := by
    decide +kernel
  have noFaults := faultless {} .standard "tfplan" endlessPlan [endlessGroup] found
  rw [faults] at noFaults
  cases noFaults

end InfraReview
