import SkillCentric.Properties.LeaseFencing
import SkillCentric.Properties.RunningLimits
import SkillCentric.Properties.StatusDiscipline
import SkillCentric.Properties.RunIdentity
import SkillCentric.Properties.AttemptBound
import SkillCentric.Properties.FailureCleanup
import SkillCentric.Properties.QuotaSafety
import SkillCentric.Properties.TenantContainment
import SkillCentric.Properties.PolicyComposition
import SkillCentric.Properties.RunClosure
import SkillCentric.Properties.SealingInvariants
import SkillCentric.Properties.AuditTrail
import SkillCentric.Properties.DocumentConsistency
import SkillCentric.Properties.MobileInvites
import SkillCentric.Properties.ConfirmationApproval
import SkillCentric.Properties.EventIntegrity
import SkillCentric.Properties.MemoryApproval
import SkillCentric.Properties.ClaimSelection
import SkillCentric.Properties.DeniedCalls
import SkillCentric.Properties.ManualRetry
import SkillCentric.Properties.SeedAgreement
import SkillCentric.Properties.DirectSelection
import SkillCentric.Properties.TenantSeeds
import SkillCentric.Properties.GateSoundness
import SkillCentric.Properties.RetentionGaps
import SkillCentric.Properties.GraphValidation
import SkillCentric.Properties.BoundedContext
import SkillCentric.Properties.DataSourceGrants
import SkillCentric.Properties.TenantGates
import SkillCentric.Properties.SessionIsolation
import SkillCentric.Properties.MembershipAuthority
import SkillCentric.Properties.ScopeAuthority
import SkillCentric.Properties.HostnameNormalisation
import SkillCentric.Properties.DenialLookups
import SkillCentric.Properties.CommandTools
import SkillCentric.Properties.SkillPlans
import SkillCentric.Properties.MemoryPlans
import SkillCentric.Properties.DriftGuard
import SkillCentric.Properties.AdapterLimits
import SkillCentric.Properties.CleanupSafety
import SkillCentric.Properties.AnalysisTotality
import SkillCentric.Properties.SaveReplacement
import SkillCentric.Properties.ConfirmationPairing
import SkillCentric.Properties.ShadowCounts
import SkillCentric.Properties.ControlApiAuth
import SkillCentric.Properties.VersionPins
import SkillCentric.Properties.ProtectedPaths
import SkillCentric.Properties.CaratAtomicity
import SkillCentric.Properties.TimestampOrder
import SkillCentric.Properties.DeliveryWeeks
import SkillCentric.Properties.PaymentSchedule
import SkillCentric.Properties.SlugGrammar
import SkillCentric.Properties.PhoneSpellings
import SkillCentric.Properties.CustomerDuplicates
import SkillCentric.Properties.WriteRoutes
import SkillCentric.Properties.ProxyConfinement
import SkillCentric.Properties.ChunkPieces
import SkillCentric.Properties.ChunkFiles
import SkillCentric.Properties.PdfForm
import SkillCentric.Properties.StorageIsolation
import SkillCentric.Properties.ApiConfinement
