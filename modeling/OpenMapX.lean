import OpenMapX.Routing.OrderScan
import OpenMapX.Routing.TimeBalance
import OpenMapX.Transit.RideableChain
import OpenMapX.Mobile.AlertReconciliation
import OpenMapX.Mobile.Outbox
import OpenMapX.Mobile.TransitSnapshot
import OpenMapX.Mobile.EffectDelivery
import OpenMapX.Mobile.LateAnswers
import OpenMapX.Mobile.ArrivalStatus
import OpenMapX.Mobile.TokenRuns
import OpenMapX.Mobile.RefusedMessages
import OpenMapX.Places.FusionConservation
import OpenMapX.Isochrone.Enclosure
import OpenMapX.Transit.BoardRows
import OpenMapX.Transit.RefreshSuccessor
import OpenMapX.Mobile.GroundCoasting
import OpenMapX.Navigation.RouteMatch
import OpenMapX.Upstream.SharedAdmission
import OpenMapX.Mobility.MotisInventory
import OpenMapX.Mobility.DetailRuns
import OpenMapX.RoadConditions.ClosureMasking
import OpenMapX.Traffic.AppliedConditions
import OpenMapX.Charging.PlanWarnings
import OpenMapX.OpeningHours.WeekdaySelection
import OpenMapX.Time.WallClockInstant
import OpenMapX.Ops.ExclusionRuns
import OpenMapX.Artifacts.RetentionRuns
import OpenMapX.Ops.ReleaseStoreRuns
import OpenMapX.Ops.JournalRuns
import OpenMapX.Artifacts.ExtractedMembers
import OpenMapX.OfflinePackages.AccountingEquivalence
import OpenMapX.Navigation.CursorSafety
import OpenMapX.Navigation.RerouteRate
import OpenMapX.Routing.ConcatAlignment
import OpenMapX.Mobile.OutboundRuns
import OpenMapX.Mobile.UndoRestores
import OpenMapX.Charging.PointwisePricing
import OpenMapX.Isochrone.LatticeBudgets
import OpenMapX.Isochrone.RingTolerance
import OpenMapX.Core.PlusCodeRecovery
import OpenMapX.Core.TideZigzag
import OpenMapX.Transit.ReachabilityThinning
import OpenMapX.Transit.PageToken
import OpenMapX.Transit.RealtimeDeltas
import OpenMapX.Mobility.Polyline
import OpenMapX.RoadConditions.PlannedDetours
import OpenMapX.Core.EventStream
import OpenMapX.Transit.DeduplicateStops
import OpenMapX.Ops.ExecutionAdmission
import OpenMapX.Services.ServiceSelection
