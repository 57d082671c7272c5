import InfraReview.Check.Bucket
import InfraReview.Check.Database
import InfraReview.Check.Key
import InfraReview.Check.Network
import InfraReview.Check.Trail

/-!
# The catalog of checks

The built-in checks in the order in which they run.
-/

namespace InfraReview.Check

/-- The built-in checks of single entities. -/
def resourceCatalog : List ResourceCheck :=
  [bucketEncryption, bucketVersioning, openIngress, flowLogTraffic, storageEncryption,
    keyRotation, multiRegionTrail]

/-- The built-in checks that relate entities. -/
def crossCatalog : List CrossCheck := [bucketEncryptionConfig, networkFlowLog, trailLogGroup]

end InfraReview.Check
