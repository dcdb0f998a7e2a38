import Luther.Proofs.CaptureLimit
import Luther.Proofs.ChildLaunchExclusive
import Luther.Proofs.ClaimSideEffects
import Luther.Proofs.Discovery
import Luther.Proofs.EffectIntents
import Luther.Proofs.EpochSwap
import Luther.Proofs.FeedbackCollection
import Luther.Proofs.GitConfigPublish
import Luther.Proofs.Interpolation
import Luther.Proofs.Launch
import Luther.Proofs.LeaseFinalization
import Luther.Proofs.MarkerResolution
import Luther.Proofs.OutcomeScan
import Luther.Proofs.ParentCompletion
import Luther.Proofs.PathInterpolation
import Luther.Proofs.PendingMarkerActions
import Luther.Proofs.PrCheckWait
import Luther.Proofs.PrEvidence
import Luther.Proofs.Preimages
import Luther.Proofs.ProvableActions
import Luther.Proofs.PushPorcelain
import Luther.Proofs.RecoveryFencing
import Luther.Proofs.RecoveryReplay
import Luther.Proofs.RetryValidation
import Luther.Proofs.ReviewRounds
import Luther.Proofs.RunIsolation
import Luther.Proofs.Salvage
import Luther.Proofs.ScopeStatus
import Luther.Proofs.SessionSafety
import Luther.Proofs.SingletonLock
import Luther.Proofs.Staging
import Luther.Proofs.StaleFailure
import Luther.Proofs.StoredCheckpoint
import Luther.Proofs.Suspensions
import Luther.Proofs.TransportIdentity
import Luther.Proofs.TypedMerge
