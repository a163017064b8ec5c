import BidayaxExecutive.Communications.Columns
import BidayaxExecutive.Communications.CommandResults
import BidayaxExecutive.Communications.Commands
import BidayaxExecutive.Communications.Consent
import BidayaxExecutive.Communications.Database
import BidayaxExecutive.Communications.Dispatch
import BidayaxExecutive.Communications.DispatchRace
import BidayaxExecutive.Communications.EvidenceBinding
import BidayaxExecutive.Communications.Lifecycle
import BidayaxExecutive.Communications.LifecycleChanges
import BidayaxExecutive.Communications.LifecycleChronology
import BidayaxExecutive.Communications.LifecycleLog
import BidayaxExecutive.Communications.MetadataSafety
import BidayaxExecutive.Communications.StandingConsent
import BidayaxExecutive.Communications.SubjectLocks
import BidayaxExecutive.Communications.SuppressionRuns
import BidayaxExecutive.Contacts.EdgeExactness
import BidayaxExecutive.Contacts.Edges
import BidayaxExecutive.Contacts.Graph
import BidayaxExecutive.Contacts.GraphRebuilds
import BidayaxExecutive.Contacts.GraphViews
import BidayaxExecutive.Contacts.Grouping
import BidayaxExecutive.Contacts.Records
import BidayaxExecutive.Contacts.Snapshots
import BidayaxExecutive.Contacts.StoredGraph
import BidayaxExecutive.Identity.AllowedOrigins
import BidayaxExecutive.Identity.AuditEvents
import BidayaxExecutive.Identity.AuditTrail
import BidayaxExecutive.Identity.Authorization
import BidayaxExecutive.Identity.CardScope
import BidayaxExecutive.Identity.Cookies
import BidayaxExecutive.Identity.Environment
import BidayaxExecutive.Identity.LoginAdmission
import BidayaxExecutive.Identity.LoginCompletion
import BidayaxExecutive.Identity.LoginExchange
import BidayaxExecutive.Identity.LoginRequests
import BidayaxExecutive.Identity.LoginReturn
import BidayaxExecutive.Identity.LoginTransaction
import BidayaxExecutive.Identity.ProviderRevocation
import BidayaxExecutive.Identity.Repository
import BidayaxExecutive.Identity.SealedSecrets
import BidayaxExecutive.Identity.Service
import BidayaxExecutive.Identity.SessionLifetime
import BidayaxExecutive.Identity.SessionRuns
import BidayaxExecutive.Identity.SessionSuccessors
import BidayaxExecutive.Identity.SessionTable
import BidayaxExecutive.Identity.SessionWindow
import BidayaxExecutive.Identity.Sessions
import BidayaxExecutive.Identity.TenantLink
import BidayaxExecutive.IntentScoring.ScoreEventGroup
import BidayaxExecutive.IntentScoring.ScoreUpserts
import BidayaxExecutive.IntentScoring.ScoringLaws
import BidayaxExecutive.IntentScoring.ScoringRules
import BidayaxExecutive.Library.Arrangements
import BidayaxExecutive.Library.AutocommitQueries
import BidayaxExecutive.Library.Averages
import BidayaxExecutive.Library.Backtracking
import BidayaxExecutive.Library.Captures
import BidayaxExecutive.Library.ClaimedKeys
import BidayaxExecutive.Library.DoubledSeparator
import BidayaxExecutive.Library.DuplicateLastTree
import BidayaxExecutive.Library.EventLog
import BidayaxExecutive.Library.Guards
import BidayaxExecutive.Library.HashChain
import BidayaxExecutive.Library.HashTree
import BidayaxExecutive.Library.IdempotentRequests
import BidayaxExecutive.Library.IgnoredConflicts
import BidayaxExecutive.Library.KeyedRows
import BidayaxExecutive.Library.Lineage
import BidayaxExecutive.Library.LockingTransactions
import BidayaxExecutive.Library.Nesting
import BidayaxExecutive.Library.Patterns
import BidayaxExecutive.Library.RememberedKeys
import BidayaxExecutive.Library.Replacement
import BidayaxExecutive.Library.Representation
import BidayaxExecutive.Library.Runs
import BidayaxExecutive.Library.Schedules
import BidayaxExecutive.Library.Scripts
import BidayaxExecutive.Library.Selections
import BidayaxExecutive.Library.Separator
import BidayaxExecutive.Library.SerializedLogs
import BidayaxExecutive.Library.SlidingWindow
import BidayaxExecutive.Library.Tables
import BidayaxExecutive.Library.ThreeValued
import BidayaxExecutive.Library.Transactions
import BidayaxExecutive.Library.Upserts
import BidayaxExecutive.PolicyEnforcement.DataTrustAssessment
import BidayaxExecutive.PolicyEnforcement.DataTrustLaws
import BidayaxExecutive.PolicyEnforcement.FailClosedTrust
import BidayaxExecutive.PolicyEnforcement.PolicyEvaluator
import BidayaxExecutive.Receptionist.RateLimitPolicy
import BidayaxExecutive.Receptionist.RedactionPolicy
import BidayaxExecutive.Receptionist.RedactionResidue
import BidayaxExecutive.Receptionist.RequestStore
import BidayaxExecutive.Receptionist.RequestStoreLaws
import BidayaxExecutive.Receptionist.RuntimeConsent
import BidayaxExecutive.Receptionist.RuntimeDialogue
import BidayaxExecutive.Receptionist.RuntimeIntent
import BidayaxExecutive.Receptionist.RuntimeSafety
import BidayaxExecutive.Receptionist.VoiceRuntimeGuarantees
import BidayaxExecutive.Receptionist.VoiceRuntimeTurn
import BidayaxExecutive.Reconciliation.BaselineSoundness
import BidayaxExecutive.Reconciliation.ColumnClauses
import BidayaxExecutive.Reconciliation.ColumnDefinitions
import BidayaxExecutive.Reconciliation.ColumnReading
import BidayaxExecutive.Reconciliation.ComposeListeners
import BidayaxExecutive.Reconciliation.ComposeRuntime
import BidayaxExecutive.Reconciliation.ComposeRuntimeReading
import BidayaxExecutive.Reconciliation.ComposeSafety
import BidayaxExecutive.Reconciliation.ComposeScan
import BidayaxExecutive.Reconciliation.ComposeText
import BidayaxExecutive.Reconciliation.Engine
import BidayaxExecutive.Reconciliation.MigrationParser
import BidayaxExecutive.Reconciliation.SchemaExpression
import BidayaxExecutive.Reconciliation.SchemaObjects
import BidayaxExecutive.Reconciliation.StableText
import BidayaxExecutive.Reconciliation.TableReading
import BidayaxExecutive.Reconciliation.Text
import BidayaxExecutive.Reconciliation.TopLevelCsv
import BidayaxExecutive.Runtime.AesGcm
import BidayaxExecutive.Runtime.Base64Url
import BidayaxExecutive.Runtime.Decimal
import BidayaxExecutive.Runtime.Grouping
import BidayaxExecutive.Runtime.Instant
import BidayaxExecutive.Runtime.JsMap
import BidayaxExecutive.Runtime.JsString
import BidayaxExecutive.Runtime.JsValue
import BidayaxExecutive.Runtime.JsonIdentity
import BidayaxExecutive.Runtime.JsonParse
import BidayaxExecutive.Runtime.JsonText
import BidayaxExecutive.Runtime.ObjectGraph
import BidayaxExecutive.Runtime.RegularExpressions
import BidayaxExecutive.Runtime.Sha1
import BidayaxExecutive.Runtime.Sha256
import BidayaxExecutive.Runtime.UriComponent
import BidayaxExecutive.Runtime.Utf8
import BidayaxExecutive.Settings.AuditEvents
import BidayaxExecutive.Settings.AuditTrail
import BidayaxExecutive.Settings.CacheIsolation
import BidayaxExecutive.Settings.IdempotentPublish
import BidayaxExecutive.Settings.Persistence
import BidayaxExecutive.Settings.PersistenceService
import BidayaxExecutive.Settings.Publish
import BidayaxExecutive.Settings.PublishHistory
import BidayaxExecutive.Settings.PublishRefinement
import BidayaxExecutive.Settings.ReceptionistValidation
import BidayaxExecutive.Settings.SnapshotIntegrity
import BidayaxExecutive.Settings.StableHash
import BidayaxExecutive.Settings.StableText
import BidayaxExecutive.Settings.TrustPublish
import BidayaxExecutive.Settings.Types
import BidayaxExecutive.Settings.VersionRuns
import BidayaxExecutive.Settings.Versioning
import BidayaxExecutive.Telephony.CommandSafety
import BidayaxExecutive.Telephony.SandboxOperations
import BidayaxExecutive.Telephony.SandboxWebhooks
import BidayaxExecutive.Telephony.TwilioWebhooks
import BidayaxExecutive.Trust.AuditAcceptance
import BidayaxExecutive.Trust.AuditAppend
import BidayaxExecutive.Trust.AuditChain
import BidayaxExecutive.Trust.AuditCommitment
import BidayaxExecutive.Trust.CanonicalForm
import BidayaxExecutive.Trust.CanonicalRecord
import BidayaxExecutive.Trust.Canonicalization
import BidayaxExecutive.Trust.Domains
import BidayaxExecutive.Trust.Envelope
import BidayaxExecutive.Trust.EnvelopeAcceptance
import BidayaxExecutive.Trust.EnvelopeRoundTrip
import BidayaxExecutive.Trust.EnvelopeSoundness
import BidayaxExecutive.Trust.EnvelopeVerification
import BidayaxExecutive.Trust.Equivalence
import BidayaxExecutive.Trust.EvidenceExactness
import BidayaxExecutive.Trust.EvidenceSafety
import BidayaxExecutive.Trust.Failure
import BidayaxExecutive.Trust.Hashing
import BidayaxExecutive.Trust.Jsonb
import BidayaxExecutive.Trust.KeyLifecycle
import BidayaxExecutive.Trust.KeyOrder
import BidayaxExecutive.Trust.KeyRotation
import BidayaxExecutive.Trust.KeyWindow
import BidayaxExecutive.Trust.Merkle
import BidayaxExecutive.Trust.MerkleProof
import BidayaxExecutive.Trust.MerkleTree
import BidayaxExecutive.Trust.Policy
import BidayaxExecutive.Trust.Provenance
import BidayaxExecutive.Trust.ProvenanceIdentity
import BidayaxExecutive.Trust.SignedMerkleRoot
import BidayaxExecutive.Trust.Timestamps
import BidayaxExecutive.Trust.Types
import BidayaxExecutive.Trust.Validation
import BidayaxExecutive.TrustStore.AuditStreams
import BidayaxExecutive.TrustStore.KeyRuns
import BidayaxExecutive.TrustStore.KeyTable
import BidayaxExecutive.TrustStore.PublishRuns
import BidayaxExecutive.TrustStore.PublishedStreams
import BidayaxExecutive.TrustStore.SealedChains
import BidayaxExecutive.TrustStore.StoredRecords
import BidayaxExecutive.TrustStore.TrustTables
import BidayaxExecutive.TrustStore.TrustedPublishes
