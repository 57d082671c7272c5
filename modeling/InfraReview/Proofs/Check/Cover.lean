import Mathlib.Data.List.Forall2
import Mathlib.Data.List.Infix
import InfraReview.Proofs.Check.Classification

/-!
# Resources that cover others

A relating check gathers names from the resources of one kind, which cover others, and asks of
each resource of another kind, its subjects, whether it goes by one of these names. It is said
here between which two resources that makes a relation: an encryption configuration and its
bucket, a flow log and its network, a log group and the trail that sends its events there.

A subject is flagged when no resource in the whole list is related to it, wherever that one
stands, and it then has one finding. The empty text is no name: resources that say nothing are
not related by it.
-/

namespace InfraReview

/-- The finding about an entity in given words: it has the classification and the link of a check,
and says which entity it is about and where that was read. -/
def CheckMetadata.Reports (metadata : CheckMetadata) (description remediation : String)
    (entity : Entity) (finding : Finding) : Prop :=
  finding = {
    ruleId := metadata.id
    ruleName := metadata.name
    severity := metadata.severity
    pillar := metadata.pillar
    resource := entity.address
    file := entity.file
    line := entity.line
    description := description
    remediation := remediation
    docUrl := metadata.docUrl }

/-- An entity has a text under a name, which is not empty. -/
def Entity.Says (entity : Entity) (name content : String) : Prop :=
  entity.attributes.lookup name = some (.text content) ∧ content ≠ ""

/-- A text under a name is a value there. -/
theorem Attributes.text?_eq_some_iff (attributes : Attributes) (name content : String) :
    attributes.text? name = some content ↔ attributes.lookup name = some (.text content) := by
  unfold Attributes.text?
  split
  · rename_i other found
    simp [found]
  · rename_i noText
    exact iff_of_false (by rintro ⟨⟩) (noText content)

/-- A filled text is one that is said. -/
theorem Entity.filledText?_eq_some_iff (entity : Entity) (name content : String) :
    Attributes.filledText? entity.attributes name = some content ↔ entity.Says name content := by
  simp [Attributes.filledText?, Option.filter_eq_some_iff, Attributes.text?_eq_some_iff,
    Entity.Says]

/-- The outcome of a relating check under a rule, for subjects of one kind that are covered by
resources of another kind: the findings are one for each entity that is a subject and flagged, in
the order of the entities, and each is the one that is to be reported of its entity. Entities of
other kinds change nothing, and one more resource of the kind that covers, in whatever place, adds
no finding. -/
structure CrossCheck.Decides (check : CrossCheck) (rule subject cover : String)
    (flagged : List Entity → Entity → Prop) (reported : Entity → Finding → Prop)
    (entities : List Entity) : Prop where
  named : check.metadata.id = rule
  exact : ∃ (flags : Entity → Bool) (found : List Finding),
    (∀ entity ∈ entities, flags entity = true ↔ entity.kind = subject ∧ flagged entities entity) ∧
      check.evaluate entities = .findings found ∧
      List.Forall₂ reported (entities.filter flags) found
  unmoved : ∀ others : List Entity,
    (others.filter fun entity => entity.kind = subject ∨ entity.kind = cover) =
        (entities.filter fun entity => entity.kind = subject ∨ entity.kind = cover) →
      check.evaluate others = check.evaluate entities
  eased : ∀ (before after : List Entity) (covering : Entity), entities = before ++ after →
    covering.kind = cover →
      (check.evaluate (before ++ covering :: after)).found.Sublist (check.evaluate entities).found

/-! ### Checks that gather names -/

/-- The names that the entities of a kind give. -/
def gathered (cover : String) (names : Entity → List String) (entities : List Entity) :
    List String :=
  (entities.filter (·.kind == cover)).flatMap names

/-- A relating check that gathers the names that the resources of one kind give, and then comes to
a verdict on each resource of another kind. A verdict is what is to be reported or none, and with
more names there is no finding that was not there before. -/
structure CrossCheck.Gathers (check : CrossCheck) (subject cover : String)
    (reported : Entity → Finding → Prop) (names : Entity → List String)
    (verdict : List String → Entity → Option Finding) : Prop where
  apart : cover ≠ subject
  evaluates : ∀ entities, check.evaluate entities =
    .findings ((entities.filter (·.kind == subject)).filterMap
      (verdict (gathered cover names entities)))
  reports : ∀ known entity finding, verdict known entity = some finding → reported entity finding
  eases : ∀ known more : List String, known ⊆ more → ∀ entity finding,
    verdict more entity = some finding → verdict known entity = some finding

/-- What is found in fewer cases is found in their order. -/
theorem filterMap_sublist {α β : Type} {fewer more : α → Option β}
    (each : ∀ item found, fewer item = some found → more item = some found) (items : List α) :
    (items.filterMap fewer).Sublist (items.filterMap more) := by
  induction items with
  | nil => exact .slnil
  | cons item items inductionHypothesis =>
    cases few : fewer item with
    | some found =>
      rw [List.filterMap_cons_some few, List.filterMap_cons_some (each item found few)]
      exact inductionHypothesis.cons_cons found
    | none =>
      rw [List.filterMap_cons_none few, List.filterMap_cons]
      split
      · exact inductionHypothesis
      · exact inductionHypothesis.cons _

/-- Each result of a partial function stands in relation to the item that it comes from. -/
theorem forall₂_filterMap {α β : Type} {related : α → β → Prop} {choose : α → Option β}
    (each : ∀ item found, choose item = some found → related item found) (items : List α) :
    List.Forall₂ related (items.filter fun item => (choose item).isSome)
      (items.filterMap choose) := by
  induction items with
  | nil => exact .nil
  | cons item items inductionHypothesis =>
    cases chosen : choose item with
    | none => simpa [chosen] using inductionHypothesis
    | some found => simpa [chosen] using ⟨each item found chosen, inductionHypothesis⟩

/-- Changing the items that pass a test is choosing among those that pass its first part. -/
theorem map_filter_and_not {α β : Type} (first second : α → Bool) (change : α → β)
    (items : List α) :
    (items.filter fun item => first item && !second item).map change =
      (items.filter first).filterMap fun item =>
        if second item then none else some (change item) := by
  induction items with
  | nil => rfl
  | cons item items inductionHypothesis =>
    cases here : first item <;> cases there : second item <;>
      simp [here, there, inductionHypothesis]

namespace CrossCheck

variable {check : CrossCheck} {subject cover : String} {reported : Entity → Finding → Prop}
  {names : Entity → List String} {verdict : List String → Entity → Option Finding}

/-- Lists with the same subjects and the same covering resources have the same outcome. -/
theorem Gathers.unmoved (gathers : check.Gathers subject cover reported names verdict)
    {entities others : List Entity}
    (same : (others.filter fun entity => entity.kind = subject ∨ entity.kind = cover) =
      entities.filter fun entity => entity.kind = subject ∨ entity.kind = cover) :
    check.evaluate others = check.evaluate entities := by
  have ofKind {kind : String} (concerned : kind = subject ∨ kind = cover) (list : List Entity) :
      list.filter (·.kind == kind) =
        (list.filter fun entity => entity.kind = subject ∨ entity.kind = cover).filter
          (·.kind == kind) := by
    rw [List.filter_filter]
    refine List.filter_congr fun entity _ => ?_
    by_cases is : entity.kind = kind
    · subst is
      simpa using concerned
    · simp [is]
  rw [gathers.evaluates, gathers.evaluates, gathered, gathered, ofKind (.inl rfl) others,
    ofKind (.inr rfl) others, same, ← ofKind (.inl rfl) entities, ← ofKind (.inr rfl) entities]

/-- One more covering resource gives more names and is no subject. -/
theorem Gathers.eased (gathers : check.Gathers subject cover reported names verdict)
    (before after : List Entity) {covering : Entity} (covers : covering.kind = cover) :
    (check.evaluate (before ++ covering :: after)).found.Sublist
      (check.evaluate (before ++ after)).found := by
  have known : gathered cover names (before ++ after) ⊆
      gathered cover names (before ++ covering :: after) := by
    intro name given
    obtain ⟨entity, gives, given⟩ := List.mem_flatMap.mp given
    obtain ⟨listed, ofKind⟩ := List.mem_filter.mp gives
    refine List.mem_flatMap.mpr ⟨entity, List.mem_filter.mpr ⟨?_, ofKind⟩, given⟩
    exact (List.sublist_cons_self covering after).append_left before |>.subset listed
  have subjects : (before ++ covering :: after).filter (·.kind == subject) =
      (before ++ after).filter (·.kind == subject) := by
    simp [covers, gathers.apart]
  rw [gathers.evaluates, gathers.evaluates, subjects]
  exact filterMap_sublist (gathers.eases _ _ known) _

/-- A check that gathers names decides which subjects it flags when its verdict on each of them
does. -/
theorem Gathers.decides (gathers : check.Gathers subject cover reported names verdict)
    {flagged : List Entity → Entity → Prop} {entities : List Entity}
    (judged : ∀ entity ∈ entities, (verdict (gathered cover names entities) entity).isSome = true ↔
      flagged entities entity) :
    check.Decides check.metadata.id subject cover flagged reported entities where
  named := rfl
  exact := by
    refine ⟨fun entity => entity.kind == subject &&
      (verdict (gathered cover names entities) entity).isSome, _, ?_,
        gathers.evaluates entities, ?_⟩
    · intro entity listed
      simp [judged entity listed]
    · have related := forall₂_filterMap (gathers.reports (gathered cover names entities))
        (entities.filter (·.kind == subject))
      rw [List.filter_filter] at related
      simpa only [Bool.and_comm] using related
  unmoved _ same := gathers.unmoved same
  eased before after _ split covers := split ▸ gathers.eased before after covers

end CrossCheck

namespace Check

/-- A name is gathered when some resource of the kind that covers gives it. -/
theorem mem_gathered_iff {cover : String} {names : Entity → List String} {entities : List Entity}
    {name : String} : name ∈ gathered cover names entities ↔
      ∃ entity ∈ entities, entity.kind = cover ∧ name ∈ names entity := by
  simp [gathered, and_assoc]

/-- A check gathers names when it reports the subjects that do not pass a test on the names, and
with more names no fewer subjects pass it. -/
theorem gathers_unless {check : CrossCheck} {subject cover : String}
    {reported : Entity → Finding → Prop} {names : Entity → List String}
    {test : List String → Entity → Bool} {finding : Entity → Finding} (apart : cover ≠ subject)
    (evaluates : ∀ entities, check.evaluate entities =
      .findings ((entities.filter fun entity =>
        entity.kind == subject && !test (gathered cover names entities) entity).map finding))
    (reports : ∀ entity, reported entity (finding entity))
    (grows : ∀ known more : List String, known ⊆ more → ∀ entity, test known entity = true →
      test more entity = true) :
    check.Gathers subject cover reported names fun known entity =>
      if test known entity then none else some (finding entity) where
  apart := apart
  evaluates entities := (evaluates entities).trans
    (congrArg Outcome.findings (map_filter_and_not _ _ _ _))
  reports known entity found made := by
    split at made
    · cases made
    · exact Option.some.inj made ▸ reports entity
  eases known more subset entity found made := by
    have untested : ¬ test more entity = true := fun passes => by simp [passes] at made
    rw [if_neg untested] at made
    rw [if_neg fun passes => untested (grows known more subset entity passes), made]

/-! ### Buckets and encryption configurations -/

/-- An encryption configuration means a bucket by its own local name or by the bucket that it
says, and a bucket goes by its local name, its address or the bucket that it says. -/
def Encrypts (configuration bucket : Entity) : Prop :=
  ∃ name, (name = configuration.localName ∨ configuration.Says "bucket" name) ∧
    (name = bucket.localName ∨ name = bucket.address ∨ bucket.Says "bucket" name)

/-- No encryption configuration means the bucket. -/
def Unencrypted (entities : List Entity) (bucket : Entity) : Prop :=
  ∀ configuration ∈ entities,
    configuration.kind = "aws_s3_bucket_server_side_encryption_configuration" →
      ¬ Encrypts configuration bucket

/-- What is to be reported of a bucket that is flagged. -/
def UnencryptedReport (bucket : Entity) (finding : Finding) : Prop :=
  bucketEncryptionConfigMetadata.Reports
    ("This S3 bucket has no aws_s3_bucket_server_side_encryption_configuration "
      ++ "resource. Data at rest may be unencrypted.")
    ("Add an aws_s3_bucket_server_side_encryption_configuration resource with an "
      ++ "AES256 or aws:kms rule.") bucket finding

/-- The names under which an encryption configuration means a bucket. -/
def configurationNames (configuration : Entity) : List String :=
  (Attributes.filledText? configuration.attributes "bucket").toList ++ [configuration.localName]

/-- The check of buckets gathers the names that encryption configurations give. -/
theorem bucketEncryptionConfig_gathers : ∃ finding : Entity → Finding,
    bucketEncryptionConfig.Gathers bucketKind bucketEncryptionKind UnencryptedReport
      configurationNames fun known bucket =>
        if (bucketNames bucket).any (known.contains ·) then none else some (finding bucket) := by
  refine ⟨_, gathers_unless (by decide) (fun entities => rfl) (fun bucket => rfl) ?_⟩
  intro known more subset bucket encrypted
  obtain ⟨name, goes, listed⟩ := List.any_eq_true.mp encrypted
  exact List.any_eq_true.mpr ⟨name, goes, by simpa using subset (by simpa using listed)⟩

/-- A name that is not empty is the text under a name, or the empty text, when it is said. -/
theorem eq_textOrEmpty_iff (entity : Entity) (key : String) {name : String} (filled : name ≠ "") :
    name = (Attributes.text? entity.attributes key).getD "" ↔ entity.Says key name := by
  rw [Entity.Says, ← Attributes.text?_eq_some_iff]
  cases Attributes.text? entity.attributes key <;> simp [filled, eq_comm]

/-- A name that is not empty is one that a bucket goes by when it is its local name, its address or
the bucket that it says. -/
theorem mem_bucketNames_iff (bucket : Entity) {name : String} (filled : name ≠ "") :
    name ∈ bucketNames bucket ↔
      name = bucket.localName ∨ name = bucket.address ∨ bucket.Says "bucket" name := by
  simp only [bucketNames, List.mem_cons, List.not_mem_nil, or_false,
    eq_textOrEmpty_iff bucket "bucket" filled]
  tauto

/-- The check of buckets reports those that no encryption configuration means. -/
theorem unencrypted_iff {entities : List Entity}
    (named : ∀ entity ∈ entities, entity.localName ≠ "") (bucket : Entity) :
    (¬ (bucketNames bucket).any
      ((gathered bucketEncryptionKind configurationNames entities).contains ·) = true) ↔
      Unencrypted entities bucket := by
  have given (configuration : Entity) (name : String) :
      name ∈ configurationNames configuration ↔
        name = configuration.localName ∨ configuration.Says "bucket" name := by
    simp [configurationNames, Entity.filledText?_eq_some_iff, or_comm]
  have filled {configuration : Entity} (listed : configuration ∈ entities) {name : String}
      (means : name = configuration.localName ∨ configuration.Says "bucket" name) : name ≠ "" := by
    rcases means with rfl | told
    · exact named configuration listed
    · exact told.2
  rw [not_iff_comm, Unencrypted]
  simp only [not_forall, not_not, List.any_eq_true, List.contains_iff_mem, mem_gathered_iff, given]
  constructor
  · rintro ⟨configuration, listed, ofKind, name, means, goes⟩
    exact ⟨name, (mem_bucketNames_iff bucket (filled listed means)).mpr goes, configuration, listed,
      ofKind, means⟩
  · rintro ⟨name, goes, configuration, listed, ofKind, means⟩
    exact ⟨configuration, listed, ofKind, name, means,
      (mem_bucketNames_iff bucket (filled listed means)).mp goes⟩

/-! ### Networks and flow logs -/

/-- A flow log points at a network by its address or its identifier. -/
def Monitors (log network : Entity) : Prop :=
  ∃ name, log.Says "vpc_id" name ∧ (name = network.address ∨ network.Says "id" name)

/-- No flow log points at the network. -/
def Unmonitored (entities : List Entity) (network : Entity) : Prop :=
  ∀ log ∈ entities, log.kind = "aws_flow_log" → ¬ Monitors log network

/-- What is to be reported of a network that is flagged. -/
def UnmonitoredReport (network : Entity) (finding : Finding) : Prop :=
  networkFlowLogMetadata.Reports
    ("This VPC has no aws_flow_log resource associated with it. VPC flow logs are "
      ++ "essential for network traffic analysis, security monitoring, and incident "
      ++ "investigation.")
    ("Add an aws_flow_log resource with vpc_id pointing to this VPC, traffic_type set "
      ++ "to ALL, and a log destination (CloudWatch Logs or S3).") network finding

/-- The check of networks gathers the names that flow logs give. -/
theorem networkFlowLog_gathers : ∃ finding : Entity → Finding,
    networkFlowLog.Gathers "aws_vpc" "aws_flow_log" UnmonitoredReport
      (fun log => (Attributes.filledText? log.attributes "vpc_id").toList)
      fun known network =>
        if known.contains network.address ||
            known.contains ((Attributes.text? network.attributes "id").getD "") then none
        else some (finding network) := by
  refine ⟨_, gathers_unless (by decide) (fun entities => rfl) (fun network => rfl) ?_⟩
  intro known more subset network monitored
  simp only [Bool.or_eq_true, List.contains_iff_mem] at monitored ⊢
  exact monitored.imp (fun listed => subset listed) fun listed => subset listed

/-- The check of networks reports those that no flow log points at. -/
theorem unmonitored_iff (entities : List Entity) (network : Entity) :
    let known := gathered "aws_flow_log"
      (fun log => (Attributes.filledText? log.attributes "vpc_id").toList) entities
    (¬ (known.contains network.address ||
      known.contains ((Attributes.text? network.attributes "id").getD "")) = true) ↔
      Unmonitored entities network := by
  intro known
  have listed_iff (name : String) : name ∈ known ↔
      ∃ log ∈ entities, log.kind = "aws_flow_log" ∧ log.Says "vpc_id" name := by
    simp [known, mem_gathered_iff, Entity.filledText?_eq_some_iff]
  rw [not_iff_comm, Unmonitored]
  simp only [not_forall, not_not, Bool.or_eq_true, List.contains_iff_mem, listed_iff]
  constructor
  · rintro ⟨log, listed, ofKind, name, told, rfl | goes⟩
    · exact .inl ⟨log, listed, ofKind, told⟩
    · obtain rfl := (eq_textOrEmpty_iff network "id" told.2).mpr goes
      exact .inr ⟨log, listed, ofKind, told⟩
  · rintro (⟨log, listed, ofKind, told⟩ | ⟨log, listed, ofKind, told⟩)
    · exact ⟨log, listed, ofKind, _, told, .inl rfl⟩
    · exact ⟨log, listed, ofKind, _, told, .inr ((eq_textOrEmpty_iff network "id" told.2).mp rfl)⟩

/-! ### Trails and log groups -/

/-- A log group goes by the name that it says, its local name or its address, and is found in a
text in which one of them occurs. -/
def FoundIn (group : Entity) (arn : String) : Prop :=
  ∃ name, (group.Says "name" name ∨ name = group.localName ∨ name = group.address) ∧
    name.toList <:+: arn.toList

/-- A trail that says where its events go sends them to none of the log groups; for one that does
not say it, there is no log group. -/
def Unlogged (entities : List Entity) (trail : Entity) : Prop :=
  (∀ arn, trail.Says "cloud_watch_logs_group_arn" arn →
    ∀ group ∈ entities, group.kind = "aws_cloudwatch_log_group" → ¬ FoundIn group arn) ∧
  ((∀ arn, ¬ trail.Says "cloud_watch_logs_group_arn" arn) →
    ∀ group ∈ entities, group.kind ≠ "aws_cloudwatch_log_group")

/-- What is to be reported of a trail that is flagged: that its log group is missing when it says
where its events go, and else that it has none. -/
inductive UnloggedReport (trail : Entity) : Finding → Prop where
  | missing {arn : String} {finding : Finding} (told : trail.Says "cloud_watch_logs_group_arn" arn)
      (reports : trailLogGroupMetadata.Reports
        ("This CloudTrail references a CloudWatch log group ARN but no matching "
          ++ "aws_cloudwatch_log_group resource was found in the plan.")
        ("Add an aws_cloudwatch_log_group resource whose name matches the log group "
          ++ "referenced in cloud_watch_logs_group_arn.") trail finding) :
      UnloggedReport trail finding
  | none {finding : Finding} (untold : ∀ arn, ¬ trail.Says "cloud_watch_logs_group_arn" arn)
      (reports : trailLogGroupMetadata.Reports
        ("This CloudTrail has no CloudWatch log group configured and no "
          ++ "aws_cloudwatch_log_group resource exists in the plan.")
        ("Add an aws_cloudwatch_log_group resource and reference it in the "
          ++ "CloudTrail's cloud_watch_logs_group_arn attribute.") trail finding) :
      UnloggedReport trail finding

/-- The names that a log group goes by. -/
def groupNames (group : Entity) : List String :=
  (Attributes.filledText? group.attributes "name").toList ++ [group.localName, group.address]

/-- A text occurs in another one when it is a stretch of it. -/
theorem occursIn_iff (part whole : List Char) : occursIn part whole = true ↔ part <:+: whole := by
  induction whole with
  | nil => simp [occursIn]
  | cons character rest inductionHypothesis =>
    rw [occursIn, List.infix_cons_iff, ← inductionHypothesis]
    simp

/-- What is wrong with a trail was wrong with it when fewer log groups were known. -/
theorem trailFinding_eases (known more : List String) (subset : known ⊆ more) (trail : Entity)
    (found : Finding) (reported : trailFinding? more trail = some found) :
    trailFinding? known trail = some found := by
  unfold trailFinding? at reported ⊢
  split at reported
  · split at reported
    · rename_i none
      obtain rfl : more = [] := by simpa using none
      obtain rfl : known = [] := List.eq_nil_of_subset_nil subset
      exact reported
    · cases reported
  · split at reported
    · cases reported
    · rename_i unknown
      rw [if_neg, reported]
      intro isKnown
      obtain ⟨name, listed, occurs⟩ := List.any_eq_true.mp isKnown
      exact unknown (List.any_eq_true.mpr ⟨name, subset listed, occurs⟩)

/-- What is wrong with a trail is what is to be reported of it. -/
theorem trailFinding_reports {known : List String} {trail : Entity} {finding : Finding}
    (made : trailFinding? known trail = some finding) : UnloggedReport trail finding := by
  unfold trailFinding? at made
  split at made
  · rename_i untold
    split at made
    · refine .none (fun arn told => ?_) (Option.some.inj made).symm
      rw [(Entity.filledText?_eq_some_iff trail _ arn).mpr told] at untold
      cases untold
    · cases made
  · rename_i arn told
    split at made
    · cases made
    · exact .missing ((Entity.filledText?_eq_some_iff trail _ arn).mp told)
        (Option.some.inj made).symm

/-- The check of trails gathers the names of log groups. -/
theorem trailLogGroup_gathers :
    trailLogGroup.Gathers "aws_cloudtrail" "aws_cloudwatch_log_group" UnloggedReport groupNames
      trailFinding? :=
  ⟨by decide, fun entities => rfl, fun _ _ _ made => trailFinding_reports made, trailFinding_eases⟩

/-- No names of log groups are gathered when there is no log group. -/
theorem gathered_groups_isEmpty_iff (entities : List Entity) :
    (gathered "aws_cloudwatch_log_group" groupNames entities).isEmpty = true ↔
      ∀ group ∈ entities, group.kind ≠ "aws_cloudwatch_log_group" := by
  rw [List.isEmpty_iff, List.eq_nil_iff_forall_not_mem]
  simp only [mem_gathered_iff, not_exists, not_and]
  constructor
  · intro none group listed ofKind
    exact none group.localName group listed ofKind (by simp [groupNames])
  · intro none name group listed ofKind
    exact absurd ofKind (none group listed)

/-- Some gathered name of a log group occurs in a text when a log group is found in it. -/
theorem gathered_groups_any_iff (entities : List Entity) (arn : String) :
    ((gathered "aws_cloudwatch_log_group" groupNames entities).any fun group =>
        occursIn group.toList arn.toList) = true ↔
      ∃ group ∈ entities, group.kind = "aws_cloudwatch_log_group" ∧ FoundIn group arn := by
  have given (group : Entity) (name : String) : name ∈ groupNames group ↔
      group.Says "name" name ∨ name = group.localName ∨ name = group.address := by
    simp [groupNames, Entity.filledText?_eq_some_iff]
  simp only [List.any_eq_true, mem_gathered_iff, given, occursIn_iff, FoundIn]
  constructor
  · rintro ⟨name, ⟨group, listed, ofKind, goes⟩, occurs⟩
    exact ⟨group, listed, ofKind, name, goes, occurs⟩
  · rintro ⟨group, listed, ofKind, name, goes, occurs⟩
    exact ⟨name, ⟨group, listed, ofKind, goes⟩, occurs⟩

/-- Something is wrong with a trail when it sends its events to no log group. -/
theorem unlogged_iff (entities : List Entity) (trail : Entity) :
    (trailFinding? (gathered "aws_cloudwatch_log_group" groupNames entities) trail).isSome = true ↔
      Unlogged entities trail := by
  unfold trailFinding? Unlogged
  simp only [← Entity.filledText?_eq_some_iff]
  cases Attributes.filledText? trail.attributes "cloud_watch_logs_group_arn" with
  | none =>
    rw [← gathered_groups_isEmpty_iff]
    by_cases empty : (gathered "aws_cloudwatch_log_group" groupNames entities).isEmpty = true <;>
      simp [empty]
  | some arn =>
    have found := gathered_groups_any_iff entities arn
    by_cases occurs : ((gathered "aws_cloudwatch_log_group" groupNames entities).any fun group =>
        occursIn group.toList arn.toList) = true
    · obtain ⟨group, listed, ofKind, isFound⟩ := found.mp occurs
      simp only [occurs, if_true, Option.isSome_none, Bool.false_eq_true, false_iff]
      exact fun unlogged => unlogged.1 arn rfl group listed ofKind isFound
    · simp only [if_neg occurs, Option.isSome_some, true_iff]
      refine ⟨fun other same group listed ofKind isFound => occurs ?_, fun absent => ?_⟩
      · obtain rfl := Option.some.inj same
        exact found.mpr ⟨group, listed, ofKind, isFound⟩
      · exact absurd rfl (absent arn)

/-- The three relating checks decide exactly their relations. A bucket is flagged when no
encryption configuration means it, a network when no flow log points at it, and a trail when it
sends its events to no log group. Each flagged resource has one finding, in the order of the
entities, which says what is wrong with it; entities of other kinds change nothing, and one more
covering resource adds no finding. -/
theorem relating_checks_decide {entities : List Entity}
    (named : ∀ entity ∈ entities, entity.localName ≠ "") :
    bucketEncryptionConfig.Decides "S3-012" "aws_s3_bucket"
        "aws_s3_bucket_server_side_encryption_configuration" Unencrypted UnencryptedReport
        entities ∧
      networkFlowLog.Decides "VPC-007" "aws_vpc" "aws_flow_log" Unmonitored UnmonitoredReport
        entities ∧
      trailLogGroup.Decides "CT-007" "aws_cloudtrail" "aws_cloudwatch_log_group" Unlogged
        UnloggedReport entities := by
  have isSome_unless (test : Bool) (found : Finding) :
      (if test then none else some found).isSome = true ↔ ¬ test = true := by
    cases test <;> simp
  obtain ⟨_, buckets⟩ := bucketEncryptionConfig_gathers
  obtain ⟨_, networks⟩ := networkFlowLog_gathers
  refine ⟨buckets.decides fun bucket _ => ?_, networks.decides fun network _ => ?_,
    trailLogGroup_gathers.decides fun trail _ => unlogged_iff entities trail⟩
  · rw [isSome_unless]
    exact unencrypted_iff named bucket
  · rw [isSome_unless]
    exact unmonitored_iff entities network

/-- A bucket and an encryption configuration that say nothing are not related by the empty text, a
flow log that is only read is none, and a trail finds its log group by a part of the text that it
says. The other resource of each kind is covered, or in the case of trails is not. -/
theorem nameless_resources_decided :
    let entity (kind localName : String) (attributes : Attributes) : Entity :=
      ⟨kind, localName, attributes, [], none, "managed", "main.tf", 1⟩
    let entities := [
      entity "aws_s3_bucket" "logs" [("bucket", .text "")],
      entity "aws_s3_bucket" "data" [("bucket", .text "keys")],
      entity "aws_s3_bucket_server_side_encryption_configuration" "keys" [("bucket", .text "")],
      entity "aws_vpc" "main" [("id", .number .zero)],
      entity "aws_vpc" "edge" [("id", .text "vpc-1")],
      entity "data.aws_flow_log" "read" [("vpc_id", .text "aws_vpc.main")],
      entity "aws_flow_log" "traffic" [("vpc_id", .text "vpc-1")],
      entity "aws_cloudtrail" "audit"
        [("cloud_watch_logs_group_arn", .text "arn:aws:logs:trail:*")],
      entity "aws_cloudtrail" "astray"
        [("cloud_watch_logs_group_arn", .text "arn:aws:logs:other:*")],
      entity "aws_cloudwatch_log_group" "groups" [("name", .text "trail")]]
    (∀ entity ∈ entities, entity.localName ≠ "") ∧
      (bucketEncryptionConfig.Decides "S3-012" "aws_s3_bucket"
          "aws_s3_bucket_server_side_encryption_configuration" Unencrypted UnencryptedReport
          entities ∧
        networkFlowLog.Decides "VPC-007" "aws_vpc" "aws_flow_log" Unmonitored UnmonitoredReport
          entities ∧
        trailLogGroup.Decides "CT-007" "aws_cloudtrail" "aws_cloudwatch_log_group" Unlogged
          UnloggedReport entities) ∧
      (bucketEncryptionConfig.evaluate entities).found.map (·.resource) =
        ["aws_s3_bucket.logs"] ∧
      (networkFlowLog.evaluate entities).found.map (·.resource) = ["aws_vpc.main"] ∧
      (trailLogGroup.evaluate entities).found.map (·.resource) = ["aws_cloudtrail.astray"] := by
  intro entity entities
  have named : ∀ entity ∈ entities, entity.localName ≠ "" := by decide
  exact ⟨named, relating_checks_decide named, by decide +kernel, by decide +kernel,
    by decide +kernel⟩

end Check

end InfraReview
