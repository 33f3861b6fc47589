import TenantSettings.Properties.Sources
import TenantSettings.Store.Snapshot
import TenantSettings.Tenant.Request
import TenantSettings.Json.Parser
import TenantSettings.Proofs.Tenant.Memory
import TenantSettings.Proofs.Tenant.Soundness
import TenantSettings.Proofs.Store.Build
import TenantSettings.Proofs.Tenant.Key
import TenantSettings.Proofs.Tenant.Transparency
import TenantSettings.Proofs.Tenant.ComputeOnce
import TenantSettings.Proofs.Json.Lexical
import TenantSettings.Proofs.Json.RoundTrip
import TenantSettings.Proofs.Json.Record
import TenantSettings.Proofs.Value.RoundTrip
import TenantSettings.Proofs.Bytes.Base64
import TenantSettings.Proofs.SecurityKey
import TenantSettings.Proofs.Reader.Scope
import TenantSettings.Proofs.Reader.Isolation
import TenantSettings.Proofs.Text.Marker
import TenantSettings.Proofs.Setting.Schema
import TenantSettings.Proofs.Digest.Listing
import TenantSettings.Proofs.Digest.Reading
import TenantSettings.Proofs.Digest.Identity
import TenantSettings.Proofs.Store.Log
import TenantSettings.Proofs.Reader.Shape
import TenantSettings.Proofs.Reader.Contract
import TenantSettings.Proofs.Profile.Validity
import TenantSettings.Proofs.Tenant.ProfileMaps
import TenantSettings.Proofs.Tenant.ProfileErrors
import TenantSettings.Proofs.Tenant.Scope
import TenantSettings.Proofs.Tenant.Holdings
import TenantSettings.Proofs.Tenant.Statistics
import TenantSettings.Proofs.Tenant.PeopleSearch
import TenantSettings.Proofs.Store.Modified
import TenantSettings.Proofs.Secrecy.Redaction
import TenantSettings.Proofs.Secrecy.Reading
import TenantSettings.Proofs.Secrecy.Tenant
import TenantSettings.Proofs.Locale.Lookup
import TenantSettings.Proofs.Tenant.Localized
import TenantSettings.Proofs.Number.Whole
import TenantSettings.Proofs.Properties.Guess
import TenantSettings.Proofs.Properties.Environment
import TenantSettings.Proofs.Text.Split
import TenantSettings.Proofs.Unicode.Blank
import TenantSettings.Proofs.Unicode.Case
import TenantSettings.Proofs.Locale.Tag
import TenantSettings.Proofs.Locale.Resolution
import TenantSettings.Proofs.Tenant.OwnId
import TenantSettings.Proofs.Store.Bundles
import TenantSettings.Proofs.Profile.PasswordRules
import TenantSettings.Proofs.Unicode.Letters
import TenantSettings.Proofs.Profile.Satisfiability
import TenantSettings.Proofs.Tenant.PolicyLocale
import TenantSettings.Proofs.Store.Idle
import TenantSettings.Proofs.Store.Choice
import TenantSettings.Proofs.Tenant.Directories
import TenantSettings.Proofs.Tenant.Storage
import TenantSettings.Proofs.Table
import TenantSettings.Proofs.Tenant.StoredWords
import TenantSettings.Proofs.Value.Files
import TenantSettings.Proofs.Reader.Stored
import TenantSettings.Proofs.Tenant.Challenge
import TenantSettings.Proofs.Tenant.Numbers
import TenantSettings.Proofs.Certificate.Front
import TenantSettings.Proofs.Value.Certificates
import TenantSettings.Proofs.Tenant.KnownLocales
import TenantSettings.Proofs.Properties.Override
import TenantSettings.Proofs.Properties.DefaultLocale
import TenantSettings.Proofs.Tenant.Slots
import TenantSettings.Proofs.Tenant.BundleKeys
import TenantSettings.Proofs.Digest.Values
