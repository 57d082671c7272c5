import InfraReview.Check.Basic

/-!
# Checks of encryption keys
-/

namespace InfraReview.Check

/-- The description of the check of key rotation. -/
def keyRotationMetadata : CheckMetadata where
  id := "KMS-001"
  name := "KMS Key Rotation Should Be Enabled"
  description := "KMS key should have automatic key rotation enabled for enhanced security."
  severity := .high
  pillar := .security
  resourceTypes := ["aws_kms_key"]
  docUrl := some "https://docs.aws.amazon.com/kms/latest/developerguide/rotate-keys.html"

/-- A key is rotated without anybody asking. -/
def keyRotation : ResourceCheck where
  metadata := keyRotationMetadata
  evaluate entity :=
    if Attributes.bool? entity.attributes "enable_key_rotation" == some true then .findings []
    else
      .findings [keyRotationMetadata.finding entity
        "KMS key does not have automatic key rotation enabled."
        "Set enable_key_rotation = true to enable automatic annual key rotation."]

end InfraReview.Check
