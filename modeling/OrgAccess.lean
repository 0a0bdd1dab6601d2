import OrgAccess.Configuration
import OrgAccess.Http.Server
import OrgAccess.Json.Buffered
import OrgAccess.Program.Interleaving
import OrgAccess.Proofs.History
import OrgAccess.Proofs.Operation
import OrgAccess.Proofs.Atomicity
import OrgAccess.Proofs.WriteGate
import OrgAccess.Proofs.Clients
import OrgAccess.Proofs.Organisation
import OrgAccess.Proofs.RefreshTokens
import OrgAccess.Proofs.Bootstrap
import OrgAccess.Proofs.References
import OrgAccess.Proofs.Causes
import OrgAccess.Proofs.Serving
import OrgAccess.Proofs.AuthenticationGate
import OrgAccess.Proofs.LastAdmin
import OrgAccess.Proofs.Reachable
import OrgAccess.Proofs.Purge
import OrgAccess.Proofs.Reading
import OrgAccess.Proofs.Visibility
import OrgAccess.Proofs.Hierarchy
import OrgAccess.Proofs.Noninterference
import OrgAccess.Proofs.Identifiers
import OrgAccess.Proofs.Success
import OrgAccess.Proofs.Chronicle
import OrgAccess.Proofs.ManagerScope
import OrgAccess.Proofs.Addresses
import OrgAccess.Proofs.Credentials
import OrgAccess.Proofs.TextEncoding
import OrgAccess.Proofs.JsonReading
import OrgAccess.Proofs.TokenReading
import OrgAccess.Proofs.LoginHistory
import OrgAccess.Proofs.PasswordHashes
import OrgAccess.Proofs.Answering
import OrgAccess.Proofs.StoredTexts
import OrgAccess.Proofs.InternalErrors
import OrgAccess.Proofs.Outages
import OrgAccess.Proofs.IssuedTokens
import OrgAccess.Proofs.CalendarDays
import OrgAccess.Proofs.WrittenInstants
import OrgAccess.Proofs.ProjectionReading
import OrgAccess.Proofs.Settings
import OrgAccess.Proofs.ConfiguredSessions
import OrgAccess.Proofs.StoredHashes
import OrgAccess.Proofs.Indistinguishable
import OrgAccess.Proofs.Membership
import OrgAccess.Proofs.JsonOutcomes
import OrgAccess.Proofs.RegistrationRules
import OrgAccess.Proofs.JsonScanning
import OrgAccess.Proofs.JsonTokens
import OrgAccess.Proofs.JsonTracking
import OrgAccess.Proofs.JsonAlignment
import OrgAccess.Proofs.JsonRecords
import OrgAccess.Proofs.TokenLimits
import OrgAccess.Proofs.TokenExpiry
import OrgAccess.Proofs.UserViews
import OrgAccess.Proofs.SessionChecks
import OrgAccess.Proofs.Frames
import OrgAccess.Proofs.JsonMembers
import OrgAccess.Proofs.PatchReading
import OrgAccess.Proofs.PatchRules
import OrgAccess.Proofs.PatchRequests
import OrgAccess.Proofs.DurationGrammar
import OrgAccess.Proofs.WholeNumbers
import OrgAccess.Proofs.WholeDurations
import OrgAccess.Proofs.AllowedOrigins
import OrgAccess.Proofs.LockSteps
import OrgAccess.Proofs.ListingOrder
