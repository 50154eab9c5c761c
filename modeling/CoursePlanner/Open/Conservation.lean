import CoursePlanner.Open.Agreement

set_option maxRecDepth 8000

namespace CoursePlanner.Open

open Std Library Contracts

def OpenReconcilePlan.counts (plan : OpenReconcilePlan) : List Nat :=
  [plan.rawValueCount,plan.uniqueValueCount,plan.duplicateCount,plan.catalogSectionCount,
    plan.observedIntersectionCount,plan.orphanCount]

variable {cat : CatalogOpenBatch} {os : OpenSetEvidence}

section Plan

variable [Sha256] (cap : CatalogContentVersion)

end Plan

local instance conservationSha256 : Sha256 := plainSha256

end CoursePlanner.Open
