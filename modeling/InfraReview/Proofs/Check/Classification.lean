import InfraReview.Registry

/-!
# The classification of findings

A finding names the rule that it comes from, its severity and its pillar. All three are those
of the check that reports it, for every built-in check and whatever it is shown. No two
built-in checks have the same identifier, so a finding tells its check.
-/

namespace InfraReview

/-- Every finding of an outcome has the identifier, the severity and the pillar of a check. -/
def CheckMetadata.Classifies (metadata : CheckMetadata) (outcome : Outcome) : Prop :=
  ∀ finding ∈ outcome.found,
    finding.ruleId = metadata.id ∧ finding.severity = metadata.severity ∧
      finding.pillar = metadata.pillar

/-- A registry whose checks classify all their findings and have identifiers of their own. -/
structure Registry.Classified (registry : Registry) : Prop where
  distinct : (registry.allMetadata.map (·.id)).Nodup
  single : ∀ check ∈ registry.resourceChecks, ∀ entity,
    check.metadata.Classifies (check.evaluate entity)
  relating : ∀ check ∈ registry.crossChecks, ∀ entities,
    check.metadata.Classifies (check.evaluate entities)

namespace CheckMetadata

variable (metadata : CheckMetadata)

/-- No finding is classified by every check. -/
theorem classifies_none : metadata.Classifies (.findings []) := by simp [Classifies, Outcome.found]

/-- A fault has no finding. -/
theorem classifies_fault (message : String) : metadata.Classifies (.fault message) := by
  simp [Classifies, Outcome.found]

/-- Findings that are built with the description of a check are classified by it. -/
theorem classifies_findings {findings : List Finding}
    (built : ∀ finding ∈ findings, ∃ entity description remediation,
      finding = metadata.finding entity description remediation) :
    metadata.Classifies (.findings findings) := by
  intro finding found
  obtain ⟨entity, description, remediation, rfl⟩ := built finding found
  exact ⟨rfl, rfl, rfl⟩

/-- One finding that is built with the description of a check is classified by it. -/
theorem classifies_one (entity : Entity) (description remediation : String) :
    metadata.Classifies (.findings [metadata.finding entity description remediation]) :=
  metadata.classifies_findings fun _ found =>
    ⟨entity, description, remediation, List.mem_singleton.mp found⟩

/-- A finding or none, as a test decides, is classified by the check whose description it is
built with. -/
theorem classifies_unless (test : Prop) [Decidable test] (entity : Entity)
    (description remediation : String) :
    metadata.Classifies (if test then .findings []
      else .findings [metadata.finding entity description remediation]) := by
  split
  · exact metadata.classifies_none
  · exact metadata.classifies_one entity description remediation

/-- A finding for each of some entities is classified by the check. -/
theorem classifies_each (entities : List Entity) (description remediation : String) :
    metadata.Classifies (.findings (entities.map fun entity =>
      metadata.finding entity description remediation)) := by
  refine metadata.classifies_findings fun finding found => ?_
  obtain ⟨entity, _, rfl⟩ := List.mem_map.mp found
  exact ⟨entity, description, remediation, rfl⟩

end CheckMetadata

namespace Check

/-- The findings about one rule of an entity are built with the description of the check. -/
theorem exposureFindings_built {entity : Entity} {label : String} {rule : Attributes}
    {found : List Finding} (made : exposureFindings entity label rule = .ok found) :
    ∀ finding ∈ found, ∃ description remediation,
      finding = openIngressMetadata.finding entity description remediation := by
  cases ports : exposedPorts rule with
  | error reason => simp [exposureFindings, ports, Except.map] at made
  | ok ports =>
    simp only [exposureFindings, ports, Except.map, Except.ok.injEq] at made
    subst made
    intro finding member
    obtain ⟨port, _, rfl⟩ := List.mem_map.mp member
    exact ⟨_, _, rfl⟩

/-- The findings about several rules of an entity are built with the description of the
check. -/
theorem allExposures_built {entity : Entity} {label : String} (rules : List Attributes)
    {found : List Finding} (made : allExposures entity label rules = .ok found) :
    ∀ finding ∈ found, ∃ description remediation,
      finding = openIngressMetadata.finding entity description remediation := by
  induction rules generalizing found with
  | nil =>
    obtain rfl : [] = found := by simpa [allExposures] using made
    simp
  | cons rule rules inductionHypothesis =>
    cases first : exposureFindings entity label rule with
    | error reason => simp [allExposures, first, bind, Except.bind] at made
    | ok own =>
      cases others : allExposures entity label rules with
      | error reason => simp [allExposures, first, others, bind, Except.bind] at made
      | ok later =>
        obtain rfl : own ++ later = found := by
          simpa [allExposures, first, others, bind, Except.bind] using made
        intro finding member
        rcases List.mem_append.mp member with own | later
        · exact exposureFindings_built first finding own
        · exact inductionHypothesis others finding later

/-- Open ports are classified by their check. -/
theorem openIngress_classifies (entity : Entity) :
    openIngress.metadata.Classifies (openIngress.evaluate entity) := by
  simp only [openIngress]
  split
  · rename_i found made
    refine openIngressMetadata.classifies_findings fun finding member => ?_
    obtain ⟨description, remediation, built⟩ := allExposures_built _ made finding member
    exact ⟨entity, description, remediation, built⟩
  · exact openIngressMetadata.classifies_fault _

/-- What is wrong with a trail is built with the description of the check. -/
theorem trailFinding_built {groups : List String} {trail : Entity} {finding : Finding}
    (found : trailFinding? groups trail = some finding) :
    ∃ description remediation,
      finding = trailLogGroupMetadata.finding trail description remediation := by
  unfold trailFinding? at found
  split at found <;> split at found <;> cases found <;> exact ⟨_, _, rfl⟩

/-- Trails without a log group are classified by their check. -/
theorem trailLogGroup_classifies (entities : List Entity) :
    trailLogGroup.metadata.Classifies (trailLogGroup.evaluate entities) := by
  refine trailLogGroupMetadata.classifies_findings fun finding found => ?_
  obtain ⟨trail, _, made⟩ := List.mem_filterMap.mp found
  obtain ⟨description, remediation, built⟩ := trailFinding_built made
  exact ⟨trail, description, remediation, built⟩

end Check

open Check in
/-- The built-in checks classify all their findings and have identifiers of their own. -/
theorem Registry.builtin_classified : Registry.builtin.Classified where
  distinct := by decide
  single := by
    intro check member entity
    simp only [builtin, resourceCatalog, List.mem_cons, List.not_mem_nil, or_false] at member
    rcases member with rfl | rfl | rfl | rfl | rfl | rfl | rfl
    · exact bucketEncryptionMetadata.classifies_unless _ entity _ _
    · exact bucketVersioningMetadata.classifies_unless _ entity _ _
    · exact openIngress_classifies entity
    · exact flowLogTrafficMetadata.classifies_unless _ entity _ _
    · exact storageEncryptionMetadata.classifies_unless _ entity _ _
    · exact keyRotationMetadata.classifies_unless _ entity _ _
    · exact multiRegionTrailMetadata.classifies_unless _ entity _ _
  relating := by
    intro check member entities
    simp only [builtin, crossCatalog, List.mem_cons, List.not_mem_nil, or_false] at member
    rcases member with rfl | rfl | rfl
    · exact bucketEncryptionConfigMetadata.classifies_each _ _ _
    · exact networkFlowLogMetadata.classifies_each _ _ _
    · exact trailLogGroup_classifies entities

end InfraReview
