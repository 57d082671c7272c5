import InfraReview.Check.Basic
import InfraReview.Number.Numeral

/-!
# Checks of networks

The first check finds rules that let the whole world in to a sensitive port, with one
finding for each such port in ascending order. A port bound is the whole part of a
number that is not negative; a bound without a whole part breaks the invocation off.
The other two concern flow logs: that one says which traffic it records, and that every
network has one.
-/

namespace InfraReview.Check

/-- The ports that nobody should reach from everywhere, ascending, and their services. -/
def sensitivePorts : List (Int × String) :=
  [(22, "SSH"), (1433, "MSSQL"), (3306, "MySQL"), (3389, "RDP"), (5432, "PostgreSQL"),
    (6379, "Redis"), (27017, "MongoDB")]

/-- The address ranges that mean everywhere. -/
def openRanges : List String := ["0.0.0.0/0", "::/0"]

/-- The description of the check of open ports. -/
def openIngressMetadata : CheckMetadata where
  id := "VPC-001"
  name := "Security Group Open Ingress on Sensitive Ports"
  description :=
    "Security groups should not allow unrestricted ingress (0.0.0.0/0) on sensitive "
      ++ "ports like SSH, RDP, and database ports."
  severity := .critical
  pillar := .security
  resourceTypes := ["aws_security_group", "aws_security_group_rule"]
  docUrl := some "https://docs.aws.amazon.com/vpc/latest/userguide/security-group-rules.html"
  nestedBlocks := [("aws_security_group", "ingress")]

/-- True when a list of address ranges has one that means everywhere. -/
def hasOpenRange (ranges : Option (List Value)) : Bool :=
  (ranges.getD []).any fun range =>
    match range with
    | .text content => openRanges.contains content
    | _ => false

/-- A bound of a range of ports; an absent or negative one is none. -/
def portBound (value : Option Double) : Except Double.NoWholePart (Option Int) :=
  match value with
  | none => .ok none
  | some number => if number.isBelow 0 then .ok none else number.truncate.map some

/-- The sensitive ports that a rule opens to everyone. -/
def exposedPorts (rule : Attributes) : Except Double.NoWholePart (List (Int × String)) :=
  if hasOpenRange (rule.list? "cidr_blocks") || hasOpenRange (rule.list? "ipv6_cidr_blocks") then do
    let fromPort ← portBound (rule.number? "from_port")
    let toPort ← portBound (rule.number? "to_port")
    match fromPort, toPort with
    | some low, some high =>
      .ok (sensitivePorts.filter fun (port, _) => low ≤ port && port ≤ high)
    | _, _ => .ok []
  else .ok []

/-- The findings for the ports that one rule of an entity opens. -/
def exposureFindings (entity : Entity) (label : String) (rule : Attributes) :
    Except Double.NoWholePart (List Finding) :=
  (exposedPorts rule).map fun ports => ports.map fun (port, service) =>
    openIngressMetadata.finding entity
      (label ++ " allows unrestricted ingress (0.0.0.0/0 or ::/0) on port " ++ toString port
        ++ " (" ++ service ++ ").")
      ("Restrict ingress on port " ++ toString port
        ++ " to specific CIDR blocks or security groups instead of 0.0.0.0/0.")

/-- The findings of several rules in order, unless one breaks off. -/
def allExposures (entity : Entity) (label : String) :
    List Attributes → Except Double.NoWholePart (List Finding)
  | [] => .ok []
  | rule :: rules => do
    let found ← exposureFindings entity label rule
    let others ← allExposures entity label rules
    .ok (found ++ others)

/-- The rules of an entity with the word for them: the ingress blocks of a security
group, or the entity itself when it is an ingress rule. -/
def ingressRules (entity : Entity) : String × List Attributes :=
  if entity.kind == "aws_security_group" then
    ("Security group", (NestedBlocks.named entity.blocks "ingress").map (·.attributes))
  else if Attributes.text? entity.attributes "type" == some "ingress" then
    ("Security group rule", [entity.attributes])
  else ("Security group rule", [])

/-- No rule lets everyone in to a sensitive port. -/
def openIngress : ResourceCheck where
  metadata := openIngressMetadata
  evaluate entity :=
    let (label, rules) := ingressRules entity
    match allExposures entity label rules with
    | .ok found => .findings found
    | .error reason => .fault (Numeral.Fault.message (.noWholePart reason))

/-- The description of the check of the traffic that flow logs record. -/
def flowLogTrafficMetadata : CheckMetadata where
  id := "VPC-002"
  name := "VPC Flow Logs"
  description := "VPCs should have flow logs enabled for network monitoring and security analysis."
  severity := .medium
  pillar := .operationalExcellence
  resourceTypes := ["aws_flow_log"]

/-- A flow log says which traffic it records; any traffic will do. -/
def flowLogTraffic : ResourceCheck where
  metadata := flowLogTrafficMetadata
  evaluate entity :=
    if (Attributes.text? entity.attributes "traffic_type").isSome then .findings []
    else
      .findings [flowLogTrafficMetadata.finding entity
        "VPC flow log does not specify traffic_type."
        "Set traffic_type = \"ALL\" to capture both accepted and rejected traffic."]

/-- The description of the check that relates networks to flow logs. -/
def networkFlowLogMetadata : CheckMetadata where
  id := "VPC-007"
  name := "VPC Missing Flow Logs"
  description :=
    "Every VPC should have flow logs enabled for network traffic monitoring and security "
      ++ "analysis."
  severity := .medium
  pillar := .security
  resourceTypes := ["aws_vpc", "aws_flow_log"]
  frameworks := [("CIS", ["3.9"])]

/-- The networks that flow logs point at. -/
def monitoredNetworks (entities : List Entity) : List String :=
  (entities.filter (·.kind == "aws_flow_log")).flatMap fun entity =>
    (Attributes.filledText? entity.attributes "vpc_id").toList

/-- Every network has a flow log that points at its address or its id. -/
def networkFlowLog : CrossCheck where
  metadata := networkFlowLogMetadata
  evaluate entities :=
    let monitored := monitoredNetworks entities
    let bare := entities.filter fun entity =>
      entity.kind == "aws_vpc" && !(monitored.contains entity.address ||
        monitored.contains ((Attributes.text? entity.attributes "id").getD ""))
    .findings (bare.map fun entity =>
      networkFlowLogMetadata.finding entity
        ("This VPC has no aws_flow_log resource associated with it. VPC flow logs are "
          ++ "essential for network traffic analysis, security monitoring, and incident "
          ++ "investigation.")
        ("Add an aws_flow_log resource with vpc_id pointing to this VPC, traffic_type set "
          ++ "to ALL, and a log destination (CloudWatch Logs or S3)."))

end InfraReview.Check
