import CoursePlanner.Open.RetryAfter
import CoursePlanner.Watch.History
import CoursePlanner.Application.Attachment
import CoursePlanner.Open.Grid
import CoursePlanner.Open.Lanes
import CoursePlanner.Open.Parking
import CoursePlanner.Open.SampleGap
import CoursePlanner.Open.Conservation
import CoursePlanner.Open.Uncertainty
import CoursePlanner.Application.Registered
import CoursePlanner.Application.Divergence
import CoursePlanner.Application.RuntimeOwnership
import CoursePlanner.Personal.CompareAndSwap
import CoursePlanner.Query.Completion
import CoursePlanner.Query.Restriction
import CoursePlanner.Public.Flood
import CoursePlanner.Public.Retention
import CoursePlanner.Public.Thinning
