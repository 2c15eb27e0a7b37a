import VCIssuer.Kernel.Decision
import VCIssuer.Kernel.Powers
import VCIssuer.Kernel.Freshness
import VCIssuer.Kernel.Refinement
import VCIssuer.Kernel.WireScopes
import VCIssuer.Service.SingleUse
import VCIssuer.Service.Provenance
import VCIssuer.Service.Reissue
import VCIssuer.Service.Lifetimes
import VCIssuer.Service.CaptureOnce
import VCIssuer.Service.CaptureSoundness
import VCIssuer.Service.Presentation
import VCIssuer.Service.BindingSoundness
import VCIssuer.Service.JwsRoles
import VCIssuer.Service.HybridVerification
import VCIssuer.Service.EvidenceProvenance
import VCIssuer.Service.AppAttestOnce
import VCIssuer.Service.PidHalves
import VCIssuer.Service.CivilDates
import VCIssuer.Service.HybridStore
import VCIssuer.Service.WrapperPurpose
import VCIssuer.Service.Endpoints
import VCIssuer.Service.IssuerIdentifier
import VCIssuer.Service.OfferRedemption
import VCIssuer.Service.MdocConsistency
import VCIssuer.Service.FailedRequests
import VCIssuer.Service.TlsnAcceptance
import VCIssuer.Service.CertificatePaths
import VCIssuer.Service.TravelDocuments
import VCIssuer.Service.SchemaIdentifiers
import VCIssuer.Service.EnvFile
import VCIssuer.Service.Thumbprints
import VCIssuer.Service.History
import VCIssuer.Service.Availability
import VCIssuer.Service.Restarts
import VCIssuer.Service.RelyingParty
import VCIssuer.Service.CaptureHistory
import VCIssuer.Service.Discovery
import VCIssuer.Service.InstanceFile
import VCIssuer.Service.InstanceHistory
import VCIssuer.Service.OfferHistory
import VCIssuer.Service.HybridProfile
