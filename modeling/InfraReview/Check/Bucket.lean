import InfraReview.Check.Basic

/-!
# Checks of storage buckets

Two checks look at one resource: the encryption block inside a bucket, and the status
of a versioning configuration. The third one relates buckets to the encryption
configurations declared beside them, by name, by local name or by address.
-/

namespace InfraReview.Check

/-- The kind of a bucket. -/
def bucketKind : String := "aws_s3_bucket"

/-- The kind of an encryption configuration of a bucket. -/
def bucketEncryptionKind : String := "aws_s3_bucket_server_side_encryption_configuration"

/-- The description of the check of the encryption block inside a bucket. -/
def bucketEncryptionMetadata : CheckMetadata where
  id := "S3-001"
  name := "S3 Bucket Server-Side Encryption"
  description := "S3 buckets should have server-side encryption enabled to protect data at rest."
  severity := .high
  pillar := .security
  resourceTypes := ["aws_s3_bucket"]
  docUrl := some
    "https://docs.aws.amazon.com/AmazonS3/latest/userguide/serv-side-encryption.html"
  nestedBlocks := [("aws_s3_bucket", "server_side_encryption_configuration")]

/-- A bucket carries an encryption block. -/
def bucketEncryption : ResourceCheck where
  metadata := bucketEncryptionMetadata
  evaluate entity :=
    if NestedBlocks.has entity.blocks "server_side_encryption_configuration" then .findings []
    else
      .findings [bucketEncryptionMetadata.finding entity
        ("S3 bucket does not have inline server-side encryption configuration. Ensure an "
          ++ "aws_s3_bucket_server_side_encryption_configuration resource exists for this bucket.")
        ("Add an aws_s3_bucket_server_side_encryption_configuration resource with "
          ++ "sse_algorithm set to 'aws:kms' or 'AES256'.")]

/-- The description of the check of bucket versioning. -/
def bucketVersioningMetadata : CheckMetadata where
  id := "S3-003"
  name := "S3 Bucket Versioning"
  description := "S3 buckets should have versioning enabled for data protection and recovery."
  severity := .medium
  pillar := .reliability
  resourceTypes := ["aws_s3_bucket_versioning"]
  docUrl := some "https://docs.aws.amazon.com/AmazonS3/latest/userguide/Versioning.html"
  nestedBlocks := [("aws_s3_bucket_versioning", "versioning_configuration")]

/-- True when the first versioning block is switched on. -/
def versioningEnabled (entity : Entity) : Bool :=
  match NestedBlocks.first? entity.blocks "versioning_configuration" with
  | some configuration => Attributes.text? configuration.attributes "status" == some "Enabled"
  | none => false

/-- The versioning of a bucket is switched on. -/
def bucketVersioning : ResourceCheck where
  metadata := bucketVersioningMetadata
  evaluate entity :=
    if versioningEnabled entity then .findings []
    else
      .findings [bucketVersioningMetadata.finding entity
        "S3 bucket versioning is not enabled."
        ("Set versioning_configuration status to 'Enabled' in the aws_s3_bucket_versioning "
          ++ "resource.")]

/-- The description of the check that relates buckets to encryption configurations. -/
def bucketEncryptionConfigMetadata : CheckMetadata where
  id := "S3-012"
  name := "S3 Bucket Missing Server-Side Encryption Configuration"
  description :=
    "Every S3 bucket should have an aws_s3_bucket_server_side_encryption_configuration "
      ++ "resource to ensure data at rest is encrypted."
  severity := .high
  pillar := .security
  resourceTypes := ["aws_s3_bucket", "aws_s3_bucket_server_side_encryption_configuration"]
  frameworks := [("CIS", ["2.1.1"])]

/-- The names under which an encryption configuration can be meant for a bucket. -/
def encryptedNames (entities : List Entity) : List String :=
  (entities.filter (·.kind == bucketEncryptionKind)).flatMap fun entity =>
    (Attributes.filledText? entity.attributes "bucket").toList ++ [entity.localName]

/-- The names that a bucket goes by. -/
def bucketNames (bucket : Entity) : List String :=
  [(Attributes.text? bucket.attributes "bucket").getD "", bucket.address, bucket.localName]

/-- Every bucket is the bucket of some encryption configuration. -/
def bucketEncryptionConfig : CrossCheck where
  metadata := bucketEncryptionConfigMetadata
  evaluate entities :=
    let encrypted := encryptedNames entities
    let bare := entities.filter fun entity =>
      entity.kind == bucketKind && !(bucketNames entity).any (encrypted.contains ·)
    .findings (bare.map fun entity =>
      bucketEncryptionConfigMetadata.finding entity
        ("This S3 bucket has no aws_s3_bucket_server_side_encryption_configuration "
          ++ "resource. Data at rest may be unencrypted.")
        ("Add an aws_s3_bucket_server_side_encryption_configuration resource with an "
          ++ "AES256 or aws:kms rule."))

end InfraReview.Check
