import InfraReview.Check.Basic

/-!
# Checks of audit trails

One check looks at the regions of a trail. The other relates trails to the log groups
declared beside them: a trail that names no group is only at fault when no group is
declared at all, and a trail that names one is when no declared group occurs in the
name.
-/

namespace InfraReview.Check

/-- The description of the check of the regions of a trail. -/
def multiRegionTrailMetadata : CheckMetadata where
  id := "CT-001"
  name := "CloudTrail Multi-Region"
  description :=
    "CloudTrail should be enabled in all regions to capture API activity across the account."
  severity := .high
  pillar := .security
  resourceTypes := ["aws_cloudtrail"]
  docUrl := some
    ("https://docs.aws.amazon.com/awscloudtrail/latest/userguide/"
      ++ "receive-cloudtrail-log-files-from-multiple-regions.html")

/-- A trail covers all regions. -/
def multiRegionTrail : ResourceCheck where
  metadata := multiRegionTrailMetadata
  evaluate entity :=
    if Attributes.bool? entity.attributes "is_multi_region_trail" == some true then .findings []
    else
      .findings [multiRegionTrailMetadata.finding entity
        "CloudTrail is not configured as a multi-region trail."
        "Set is_multi_region_trail = true to capture events from all AWS regions."]

/-- The description of the check that relates trails to log groups. -/
def trailLogGroupMetadata : CheckMetadata where
  id := "CT-007"
  name := "CloudTrail Missing CloudWatch Log Group"
  description :=
    "CloudTrail should reference an aws_cloudwatch_log_group that is defined in the same "
      ++ "Terraform plan for traceability and retention control."
  severity := .high
  pillar := .operationalExcellence
  resourceTypes := ["aws_cloudtrail", "aws_cloudwatch_log_group"]

/-- The names that the declared log groups go by. -/
def logGroupNames (entities : List Entity) : List String :=
  (entities.filter (·.kind == "aws_cloudwatch_log_group")).flatMap fun entity =>
    (Attributes.filledText? entity.attributes "name").toList ++ [entity.localName, entity.address]

/-- True when the first text occurs in the second one; the empty text always does. -/
def occursIn (part whole : List Char) : Bool :=
  part.isPrefixOf whole ||
    match whole with
    | [] => false
    | _ :: rest => occursIn part rest

/-- What is wrong with a trail among log groups of the given names. -/
def trailFinding? (groups : List String) (trail : Entity) : Option Finding :=
  match Attributes.filledText? trail.attributes "cloud_watch_logs_group_arn" with
  | none =>
    if groups.isEmpty then
      some (trailLogGroupMetadata.finding trail
        ("This CloudTrail has no CloudWatch log group configured and no "
          ++ "aws_cloudwatch_log_group resource exists in the plan.")
        ("Add an aws_cloudwatch_log_group resource and reference it in the "
          ++ "CloudTrail's cloud_watch_logs_group_arn attribute."))
    else none
  | some arn =>
    if groups.any fun group => occursIn group.toList arn.toList then none
    else
      some (trailLogGroupMetadata.finding trail
        ("This CloudTrail references a CloudWatch log group ARN but no matching "
          ++ "aws_cloudwatch_log_group resource was found in the plan.")
        ("Add an aws_cloudwatch_log_group resource whose name matches the log group "
          ++ "referenced in cloud_watch_logs_group_arn."))

/-- Every trail sends its events to a log group that is declared beside it. -/
def trailLogGroup : CrossCheck where
  metadata := trailLogGroupMetadata
  evaluate entities :=
    let groups := logGroupNames entities
    .findings ((entities.filter (·.kind == "aws_cloudtrail")).filterMap (trailFinding? groups))

end InfraReview.Check
