import Mathlib.Algebra.Order.Floor.Ring
import InfraReview.Check.Network
import InfraReview.Proofs.Number.Whole

/-!
# Ports that are open to everyone

Which ports a rule opens to everyone is said here by the values that it holds, as rational
numbers: the port has to lie between the whole parts of the two bounds, so the lower bound is
below the next port and the upper one does not stay below the port. Bounds that are negative, or
are no numbers, open nothing.

The check of open ports finds these ports and no others, rule by rule and in ascending order. What
one rule says changes nothing about the others.
-/

namespace InfraReview.Check

/-! ### What a rule opens -/

/-- A rule lists, under a name, an address range that means everywhere. -/
def LetsEveryoneIn (rule : Attributes) (name : String) : Prop :=
  ∃ ranges, rule.lookup name = some (.list ranges) ∧
    (.text "0.0.0.0/0" ∈ ranges ∨ .text "::/0" ∈ ranges)

/-- A rule has, under a name, a finite number with a value. -/
def HasBound (rule : Attributes) (name : String) (value : ℚ) : Prop :=
  ∃ number, rule.lookup name = some (.number number) ∧ number.HasValue value

/-- A rule opens a port to everyone: it lets everyone in, and the port lies between its bounds,
neither of which is negative. -/
def Opens (rule : Attributes) (port : Int) : Prop :=
  (LetsEveryoneIn rule "cidr_blocks" ∨ LetsEveryoneIn rule "ipv6_cidr_blocks") ∧
    ∃ low high : ℚ, HasBound rule "from_port" low ∧ HasBound rule "to_port" high ∧
      0 ≤ low ∧ 0 ≤ high ∧ low < port + 1 ∧ port ≤ high

/-- The bounds of a rule are finite where they are numbers. -/
def BoundedFinitely (rule : Attributes) : Prop :=
  ∀ name ∈ ["from_port", "to_port"], ∀ number, rule.lookup name = some (.number number) →
    ∃ value, number.HasValue value

/-- A port that nobody should reach from everywhere, with the service that is known to be there. -/
inductive Sensitive : Int → String → Prop where
  | ssh : Sensitive 22 "SSH"
  | mssql : Sensitive 1433 "MSSQL"
  | mysql : Sensitive 3306 "MySQL"
  | rdp : Sensitive 3389 "RDP"
  | postgresql : Sensitive 5432 "PostgreSQL"
  | redis : Sensitive 6379 "Redis"
  | mongodb : Sensitive 27017 "MongoDB"

/-- The sensitive ports that a rule opens, with their services: each of them once, in ascending
order. -/
structure OpenPorts (rule : Attributes) (ports : List (Int × String)) : Prop where
  ascending : ports.Pairwise (·.1 < ·.1)
  exact : ∀ port service,
    (port, service) ∈ ports ↔ Sensitive port service ∧ Opens rule port

/-- The rules of an entity, and the word for what they belong to: the ingress blocks of a security
group, or the entity itself when it is an ingress rule. A rule of any other sort has none. -/
inductive RulesOf (entity : Entity) : String → List Attributes → Prop where
  | group (kind : entity.kind = "aws_security_group") : RulesOf entity "Security group"
      ((NestedBlocks.named entity.blocks "ingress").map (·.attributes))
  | ingress (kind : entity.kind = "aws_security_group_rule")
      (type : entity.attributes.lookup "type" = some (.text "ingress")) :
      RulesOf entity "Security group rule" [entity.attributes]
  | other (kind : entity.kind = "aws_security_group_rule")
      (type : entity.attributes.lookup "type" ≠ some (.text "ingress")) :
      RulesOf entity "Security group rule" []

/-- A finding about an open port of an entity: it names the port and its service, and it says where
the entity was read. -/
structure NamesPort (entity : Entity) (label : String) (port : Int × String)
    (finding : Finding) : Prop where
  resource : finding.resource = entity.address
  file : finding.file = entity.file
  line : finding.line = entity.line
  description : finding.description =
    label ++ " allows unrestricted ingress (0.0.0.0/0 or ::/0) on port " ++ toString port.1 ++ " ("
      ++ port.2 ++ ")."
  remediation : finding.remediation =
    "Restrict ingress on port " ++ toString port.1
      ++ " to specific CIDR blocks or security groups instead of 0.0.0.0/0."
  rule : finding.ruleId = "VPC-001"

/-! ### The ports of one rule -/

/-- A list of ranges has one that means everywhere when the rule lets everyone in. -/
theorem hasOpenRange_iff (rule : Attributes) (name : String) :
    hasOpenRange (rule.list? name) = true ↔ LetsEveryoneIn rule name := by
  unfold hasOpenRange LetsEveryoneIn Attributes.list?
  cases rule.lookup name with
  | none => simp
  | some value =>
    cases value with
    | list ranges =>
      simp only [Option.getD_some, List.any_eq_true, Option.some.injEq, Value.list.injEq]
      constructor
      · rintro ⟨range, listed, isOpen⟩
        cases range with
        | text content =>
          have known : content = "0.0.0.0/0" ∨ content = "::/0" := by
            simpa [openRanges] using isOpen
          rcases known with rfl | rfl
          · exact ⟨ranges, rfl, .inl listed⟩
          · exact ⟨ranges, rfl, .inr listed⟩
        | _ => cases isOpen
      · rintro ⟨_, rfl, listed | listed⟩
        · exact ⟨_, listed, by simp [openRanges]⟩
        · exact ⟨_, listed, by simp [openRanges]⟩
    | _ => simp

/-- A rule has one bound at most under a name. -/
theorem HasBound.unique {rule : Attributes} {name : String} {first second : ℚ}
    (has : HasBound rule name first) (also : HasBound rule name second) : first = second := by
  obtain ⟨number, found, hasValue⟩ := has
  obtain ⟨other, foundAgain, hasOther⟩ := also
  obtain rfl : number = other := by simpa [found] using foundAgain
  exact hasValue.unique hasOther

/-- A finite bound that is not negative counts as the floor of its value, and any other one as
none. -/
theorem portBound_finite {number : Double} {value : ℚ} (has : number.HasValue value) :
    portBound (some number) = .ok (if value < 0 then none else some ⌊value⌋) := by
  unfold portBound
  have below := has.isBelow_iff 0
  rw [Int.cast_zero] at below
  by_cases negative : value < 0
  · simp [negative, below.mpr negative]
  · have notBelow : number.isBelow 0 = false := by simpa [negative] using below
    simp [negative, notBelow, has.truncate_eq (not_lt.mp negative), Except.map]

/-- The bound of a rule with finite bounds is there under a name when it has a value that is not
negative. -/
theorem portBound_of_finite {rule : Attributes} (finite : BoundedFinitely rule) (name : String)
    (member : name ∈ ["from_port", "to_port"]) :
    (∃ value : ℚ, HasBound rule name value ∧ 0 ≤ value ∧
        portBound (rule.number? name) = .ok (some ⌊value⌋)) ∨
      ((∀ value : ℚ, HasBound rule name value → value < 0) ∧
        portBound (rule.number? name) = .ok none) := by
  by_cases numbered : ∃ number, rule.lookup name = some (.number number)
  · obtain ⟨number, found⟩ := numbered
    obtain ⟨value, has⟩ := finite name member number found
    have same : rule.number? name = some number := by simp [Attributes.number?, found]
    rw [same, portBound_finite has]
    by_cases negative : value < 0
    · refine .inr ⟨fun other hasOther => ?_, by rw [if_pos negative]⟩
      exact HasBound.unique ⟨number, found, has⟩ hasOther ▸ negative
    · exact .inl ⟨value, ⟨number, found, has⟩, not_lt.mp negative, by rw [if_neg negative]⟩
  · have none : rule.number? name = none := by
      unfold Attributes.number?
      split
      · rename_i number found
        exact absurd ⟨number, found⟩ numbered
      · rfl
    refine .inr ⟨?_, by rw [none]; rfl⟩
    rintro value ⟨number, found, _⟩
    exact absurd ⟨number, found⟩ numbered

/-- The table of sensitive ports lists them all and no others. -/
theorem mem_sensitivePorts_iff (port : Int) (service : String) :
    (port, service) ∈ sensitivePorts ↔ Sensitive port service := by
  constructor
  · intro listed
    simp only [sensitivePorts, List.mem_cons, Prod.mk.injEq, List.not_mem_nil, or_false] at listed
    rcases listed with ⟨rfl, rfl⟩ | ⟨rfl, rfl⟩ | ⟨rfl, rfl⟩ | ⟨rfl, rfl⟩ | ⟨rfl, rfl⟩ |
      ⟨rfl, rfl⟩ | ⟨rfl, rfl⟩ <;> constructor
  · rintro (_ | _) <;> simp [sensitivePorts]

/-- The sensitive ports that pass a test, in their order. -/
theorem openPorts_filter {rule : Attributes} {test : Int × String → Bool}
    (passes : ∀ port service, test (port, service) = true ↔ Opens rule port) :
    OpenPorts rule (sensitivePorts.filter test) where
  ascending := by
    have ascending : sensitivePorts.Pairwise (·.1 < ·.1) := by decide
    exact ascending.filter test
  exact port service := by simp [passes, mem_sensitivePorts_iff]

/-- The ports that are found in a rule with finite bounds are those that it opens. -/
theorem exposedPorts_of_finite {rule : Attributes} (finite : BoundedFinitely rule) :
    ∃ ports, exposedPorts rule = .ok ports ∧ OpenPorts rule ports := by
  have nothing (closed : ∀ port, ¬ Opens rule port) : OpenPorts rule [] :=
    ⟨.nil, by simp [closed]⟩
  unfold exposedPorts
  by_cases everyone : LetsEveryoneIn rule "cidr_blocks" ∨ LetsEveryoneIn rule "ipv6_cidr_blocks"
  swap
  · rw [if_neg (by simpa [hasOpenRange_iff] using everyone)]
    exact ⟨[], rfl, nothing fun _ opens => everyone opens.1⟩
  rw [if_pos (by simpa [hasOpenRange_iff] using everyone)]
  have ends := portBound_of_finite finite "to_port" (by simp)
  rcases portBound_of_finite finite "from_port" (by simp) with
    ⟨low, hasLow, lowNonneg, foundLow⟩ | ⟨noLow, foundLow⟩
  swap
  · obtain ⟨bound, foundHigh⟩ : ∃ bound, portBound (rule.number? "to_port") = .ok bound := by
      rcases ends with ⟨_, _, _, found⟩ | ⟨_, found⟩
      · exact ⟨_, found⟩
      · exact ⟨_, found⟩
    refine ⟨[], by simp [foundLow, foundHigh, bind, Except.bind], nothing ?_⟩
    rintro _ ⟨_, low, _, hasLow, _, nonneg, _⟩
    exact absurd nonneg (not_le.mpr (noLow low hasLow))
  rcases ends with ⟨high, hasHigh, highNonneg, foundHigh⟩ | ⟨noHigh, foundHigh⟩
  swap
  · refine ⟨[], by simp [foundLow, foundHigh, bind, Except.bind], nothing ?_⟩
    rintro _ ⟨_, _, high, _, hasHigh, _, nonneg, _⟩
    exact absurd nonneg (not_le.mpr (noHigh high hasHigh))
  refine ⟨_, by simp only [foundLow, foundHigh, bind, Except.bind]; rfl, openPorts_filter ?_⟩
  intro port service
  have between : ⌊low⌋ ≤ port ∧ port ≤ ⌊high⌋ ↔ low < port + 1 ∧ port ≤ high := by
    rw [← Int.lt_add_one_iff, Int.floor_lt, Int.le_floor]
    push_cast
    exact Iff.rfl
  simp only [Bool.and_eq_true, decide_eq_true_eq, between]
  constructor
  · rintro ⟨above, below⟩
    exact ⟨everyone, low, high, hasLow, hasHigh, lowNonneg, highNonneg, above, below⟩
  · rintro ⟨_, otherLow, otherHigh, hasOtherLow, hasOtherHigh, _, _, above, below⟩
    rw [hasLow.unique hasOtherLow, hasHigh.unique hasOtherHigh]
    exact ⟨above, below⟩

/-! ### The findings of an entity -/

/-- The findings about a rule with finite bounds name the ports that it opens. -/
theorem exposureFindings_of_finite (entity : Entity) (label : String) {rule : Attributes}
    (finite : BoundedFinitely rule) :
    ∃ ports found, OpenPorts rule ports ∧ exposureFindings entity label rule = .ok found ∧
      List.Forall₂ (NamesPort entity label) ports found := by
  obtain ⟨ports, exposed, isOpen⟩ := exposedPorts_of_finite finite
  refine ⟨ports, _, isOpen, by rw [exposureFindings, exposed]; rfl, ?_⟩
  rw [List.forall₂_map_right_iff, List.forall₂_same]
  exact fun port _ => ⟨rfl, rfl, rfl, rfl, rfl, rfl⟩

/-- The findings about several rules are those about each of them, one after the other. -/
theorem allExposures_of_finite (entity : Entity) (label : String) {rules : List Attributes}
    (finite : ∀ rule ∈ rules, BoundedFinitely rule) :
    ∃ ports found, List.Forall₂ OpenPorts rules ports ∧
      allExposures entity label rules = .ok found ∧
      List.Forall₂ (NamesPort entity label) ports.flatten found := by
  induction rules with
  | nil => exact ⟨[], [], .nil, rfl, .nil⟩
  | cons rule rules inductionHypothesis =>
    obtain ⟨head, tail⟩ := List.forall_mem_cons.mp finite
    obtain ⟨own, findings, isOpen, first, named⟩ := exposureFindings_of_finite entity label head
    obtain ⟨ports, others, areOpen, rest, othersNamed⟩ := inductionHypothesis tail
    refine ⟨own :: ports, findings ++ others, .cons isOpen areOpen, ?_, ?_⟩
    · rw [allExposures, first, rest]
      rfl
    · exact List.rel_append named othersNamed

/-- The rules that the check of open ports goes through are those of the entity. -/
theorem RulesOf.eq_ingressRules {entity : Entity} {label : String} {rules : List Attributes}
    (rulesOf : RulesOf entity label rules) : ingressRules entity = (label, rules) := by
  unfold ingressRules
  cases rulesOf with
  | group kind => simp [kind]
  | ingress kind type => simp [kind, Attributes.text?, type]
  | other kind type =>
    have notIngress : Attributes.text? entity.attributes "type" ≠ some "ingress" := by
      unfold Attributes.text?
      split
      · rename_i content found
        rintro ⟨⟩
        exact type found
      · simp
    simp [kind, notIngress]

/-- The check of open ports reports exactly the sensitive ports that are open to everyone. Over the
rules of an entity, in order, there is one finding for each port that the rule opens, in ascending
order, and it names the port and the entity. -/
theorem open_ports_reported {entity : Entity} {label : String} {rules : List Attributes}
    (rulesOf : RulesOf entity label rules) (finite : ∀ rule ∈ rules, BoundedFinitely rule) :
    ∃ ports found, List.Forall₂ OpenPorts rules ports ∧
      openIngress.evaluate entity = .findings found ∧
      List.Forall₂ (NamesPort entity label) ports.flatten found := by
  obtain ⟨ports, found, areOpen, exposed, named⟩ := allExposures_of_finite entity label finite
  refine ⟨ports, found, areOpen, ?_, named⟩
  simp [openIngress, rulesOf.eq_ingressRules, exposed]

/-- A security group with three ingress blocks: a range whose lower bound lies between two ports, a
range that is closed to most, and one with a negative bound. Only the port in the first range is
reported. -/
theorem fractional_range_reported :
    let number (quarters : Nat) (canonical : CanonicalParts (quarters * 2 ^ 46) (-48)) : Value :=
      .number (.finite false ⟨quarters * 2 ^ 46, -48, canonical⟩)
    let everyone : Value := .list [.number .zero, .text "::/0"]
    let ssh : Attributes := [("ipv6_cidr_blocks", everyone),
      ("from_port", number 86 (by decide)), ("to_port", number 91 (by decide))]
    let inner : Attributes := [("cidr_blocks", .list [.text "10.0.0.0/8"]),
      ("from_port", .number .zero), ("to_port", number 91 (by decide))]
    let any : Attributes := [("cidr_blocks", everyone),
      ("from_port", .number (.finite true ⟨2 ^ 52, -52, by decide⟩))]
    let block (attributes : Attributes) : Block := ⟨.text "ingress", [], attributes, [], 0⟩
    let group : Entity := ⟨"aws_security_group", "g", [],
      [(.text "ingress", [block ssh, block inner, block any])], none, "managed", "main.tf", 1⟩
    RulesOf group "Security group" [ssh, inner, any] ∧
      (∀ rule ∈ [ssh, inner, any], BoundedFinitely rule) ∧
      (∃ ports found, List.Forall₂ OpenPorts [ssh, inner, any] ports ∧
        openIngress.evaluate group = .findings found ∧
        List.Forall₂ (NamesPort group "Security group") ports.flatten found) ∧
      (openIngress.evaluate group).found.map (fun finding =>
          (finding.resource, finding.line, finding.description)) =
        [("aws_security_group.g", 1, "Security group allows unrestricted ingress "
          ++ "(0.0.0.0/0 or ::/0) on port 22 (SSH).")] := by
  intro number everyone ssh inner any block group
  have rulesOf : RulesOf group "Security group" [ssh, inner, any] := .group rfl
  have finite : ∀ rule ∈ [ssh, inner, any], BoundedFinitely rule := by
    intro rule member name isBound value found
    simp only [List.mem_cons, List.not_mem_nil, or_false] at member isBound
    rcases member with rfl | rfl | rfl <;> rcases isBound with rfl | rfl <;>
      simp [ssh, inner, any, number, List.lookup_cons] at found <;> subst found
    all_goals first
      | exact ⟨_, .positive _⟩
      | exact ⟨_, .negative _⟩
  exact ⟨rulesOf, finite, open_ports_reported rulesOf finite, by decide +kernel⟩

end InfraReview.Check
