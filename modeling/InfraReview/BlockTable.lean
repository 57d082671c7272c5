import InfraReview.Text.Lines

/-!
# The table of nested blocks

A plan does not say whether an object, or a list of objects, is an attribute or nested
blocks. The table does: a name that stands under a kind of resource, or under a block
of one, is a block there; every other name is an attribute. A path of names is mapped
when the table can be followed along it, and the empty path is mapped for every kind
that the table has.
-/

namespace InfraReview

/-- The block names under a place, each with the names under it. -/
inductive BlockTree where
  | node (children : List (String × BlockTree))

/-- The block names under each kind of resource. -/
abbrev BlockTable := List (String × BlockTree)

namespace BlockTree

instance : Inhabited BlockTree := ⟨.node []⟩

/-- The names under a place. -/
def children : BlockTree → List (String × BlockTree)
  | node children => children

/-- The place under a name. -/
def child? (tree : BlockTree) (name : String) : Option BlockTree := tree.children.lookup name

/-- The place at the end of a path. -/
def descend? (tree : BlockTree) : List String → Option BlockTree
  | [] => some tree
  | name :: path => (tree.child? name).bind (·.descend? path)

end BlockTree

namespace BlockTable

/-- The place at the end of a path under a kind of resource. -/
def tree? (table : BlockTable) (kind : String) (path : List String) : Option BlockTree :=
  (table.lookup kind).bind (·.descend? path)

/-- The names at the top of a kind; none for a kind that the table does not have. -/
def top (table : BlockTable) (kind : String) : BlockTree :=
  (table.tree? kind []).getD (.node [])

/-- The text before the kind of a data source. -/
def dataMark : String := "data."

/-- The kind of a resource, without the mark of a data source. -/
def bareKind (kind : String) : String :=
  match dataMark.toList.isPrefixOf kind.toList with
  | true => String.ofList (kind.toList.drop dataMark.length)
  | false => kind

/-- The names in a path with slashes between them; empty names do not count. -/
def segments (path : String) : List String :=
  (Text.splitAt '/' path).filter (!·.isEmpty)

/-- True when the table can be followed along a path with slashes. -/
def isMapped (table : BlockTable) (kind path : String) : Bool :=
  (table.tree? (bareKind kind) (segments path)).isSome

/-- A block without blocks in it. -/
def leaf (name : String) : String × BlockTree := (name, .node [])

/-- The rule that says how a bucket is encrypted. -/
def encryptionRule : BlockTree :=
  .node [("rule", .node [leaf "apply_server_side_encryption_by_default"])]

/-- The rules for traffic in and out. -/
def trafficRules : BlockTree := .node [leaf "ingress", leaf "egress"]

/-- The blocks of the kinds of resources that are known. -/
def standard : BlockTable := [
  ("aws_s3_bucket", .node [
    ("server_side_encryption_configuration", encryptionRule),
    leaf "versioning", leaf "logging", leaf "website", leaf "cors_rule", leaf "grant",
    ("lifecycle_rule", .node [
      leaf "expiration", leaf "transition", leaf "noncurrent_version_expiration",
      leaf "noncurrent_version_transition"]),
    ("object_lock_configuration", .node [("rule", .node [leaf "default_retention"])]),
    ("replication_configuration", .node [("rules", .node [leaf "destination", leaf "filter"])])]),
  ("aws_s3_bucket_versioning", .node [leaf "versioning_configuration"]),
  ("aws_s3_bucket_server_side_encryption_configuration", encryptionRule),
  ("aws_s3_bucket_lifecycle_configuration", .node [
    ("rule", .node [leaf "expiration", leaf "transition", leaf "filter"])]),
  ("aws_security_group", trafficRules),
  ("aws_default_security_group", trafficRules),
  ("aws_network_acl", trafficRules),
  ("aws_instance", .node [
    leaf "root_block_device", leaf "ebs_block_device", leaf "metadata_options",
    leaf "network_interface", leaf "credit_specification"]),
  ("aws_launch_template", .node [
    leaf "metadata_options", leaf "monitoring", leaf "iam_instance_profile",
    leaf "network_interfaces", ("block_device_mappings", .node [leaf "ebs"])]),
  ("aws_cloudtrail", .node [
    ("event_selector", .node [leaf "data_resource"]),
    ("advanced_event_selector", .node [leaf "field_selector"]), leaf "insight_selector"]),
  ("aws_flow_log", .node [leaf "destination_options"]),
  ("aws_lambda_function", .node [
    leaf "vpc_config", leaf "tracing_config", leaf "dead_letter_config", leaf "environment",
    leaf "ephemeral_storage"]),
  ("aws_dynamodb_table", .node [
    leaf "server_side_encryption", leaf "point_in_time_recovery", leaf "attribute", leaf "ttl"]),
  ("aws_eks_cluster", .node [
    leaf "vpc_config", ("encryption_config", .node [leaf "provider"]),
    leaf "kubernetes_network_config"]),
  ("aws_ecs_cluster", .node [
    leaf "setting",
    ("configuration", .node [
      ("execute_command_configuration", .node [leaf "log_configuration"])])]),
  ("aws_ecs_task_definition", .node [leaf "volume"]),
  ("aws_lb", .node [leaf "access_logs"]),
  ("aws_lb_listener", .node [leaf "default_action"]),
  ("aws_api_gateway_stage", .node [leaf "access_log_settings"]),
  ("aws_cloudfront_distribution", .node [
    ("origin", .node [leaf "s3_origin_config", leaf "custom_origin_config"]),
    leaf "default_cache_behavior", leaf "ordered_cache_behavior", leaf "viewer_certificate",
    leaf "logging_config", ("restrictions", .node [leaf "geo_restriction"])]),
  ("aws_elasticache_replication_group", .node [leaf "log_delivery_configuration"]),
  ("aws_kinesis_firehose_delivery_stream", .node [leaf "server_side_encryption"]),
  ("aws_wafv2_web_acl", .node [leaf "rule", leaf "default_action", leaf "visibility_config"])]

end BlockTable

end InfraReview
