import InfraReview.Check.Basic

/-!
# Checks of databases
-/

namespace InfraReview.Check

/-- The description of the check of storage encryption. -/
def storageEncryptionMetadata : CheckMetadata where
  id := "RDS-001"
  name := "RDS Storage Encryption"
  description := "RDS instances should have storage encryption enabled to protect data at rest."
  severity := .high
  pillar := .security
  resourceTypes := ["aws_db_instance"]
  docUrl := some
    "https://docs.aws.amazon.com/AmazonRDS/latest/UserGuide/Overview.Encryption.html"

/-- The storage of a database is encrypted. -/
def storageEncryption : ResourceCheck where
  metadata := storageEncryptionMetadata
  evaluate entity :=
    if Attributes.bool? entity.attributes "storage_encrypted" == some true then .findings []
    else
      .findings [storageEncryptionMetadata.finding entity
        "RDS instance does not have storage encryption enabled."
        ("Set storage_encrypted = true. Note: encryption can only be enabled at creation "
          ++ "time.")]

end InfraReview.Check
