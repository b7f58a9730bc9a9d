import CogniDQ.Access.StandingAccess
import CogniDQ.Alerts.NotificationDispatcher
import CogniDQ.Alerts.SingleDispatch
import CogniDQ.Anomalies.CoherentRegister
import CogniDQ.Anomalies.DropDetection
import CogniDQ.Audit.AuditPayloads
import CogniDQ.Auth.AccessTokens
import CogniDQ.Auth.LockedAccounts
import CogniDQ.Database.Deviation
import CogniDQ.Database.Session
import CogniDQ.Escalation.EscalationService
import CogniDQ.Execution.SharedSession
import CogniDQ.Flow.Acceptance
import CogniDQ.Flow.CheckResults
import CogniDQ.Flow.ExchangeRoundTrip
import CogniDQ.Flow.ExecutionOrder
import CogniDQ.Flow.ExecutorProperties
import CogniDQ.Flow.NLFlowGenerator
import CogniDQ.Flow.ReconciliationConserved
import CogniDQ.Flow.RunAccounting
import CogniDQ.Flow.UniquenessBounds
import CogniDQ.Incidents.AutoIncidents
import CogniDQ.Incidents.IncidentLifecycle
import CogniDQ.Incidents.LinkedIncidents
import CogniDQ.Ingestion.IngestionJobs
import CogniDQ.Ingestion.ParsedFiles
import CogniDQ.Issues.DayWindows
import CogniDQ.Issues.GroupedFailures
import CogniDQ.Issues.IssueLifecycle
import CogniDQ.Issues.SampleFlows
import CogniDQ.Kqi.CheckClasses
import CogniDQ.Kqi.CheckEffectivenessService
import CogniDQ.Kqi.SlaViews
import CogniDQ.Kqi.WorkspaceIsolation
import CogniDQ.Metadata.MirroredIndex
import CogniDQ.Proposals.DisambiguationSessions
import CogniDQ.Python.Binary64
import CogniDQ.Python.Grouping
import CogniDQ.Reporting.ReportsAgree
import CogniDQ.Resolution.SoundResolution
import CogniDQ.Rules.CompletenessSemantics
import CogniDQ.Rules.Evidence
import CogniDQ.Rules.ExecutionRecord
import CogniDQ.Rules.FilterSafety
import CogniDQ.Rules.FragmentSafety
import CogniDQ.Rules.ListedValues
import CogniDQ.Rules.NegativePatterns
import CogniDQ.Rules.NullHandling
import CogniDQ.Rules.ReconciliationAgreement
import CogniDQ.Rules.ReconciliationRows
import CogniDQ.Rules.ReconciliationSides
import CogniDQ.Rules.ReferenceCounts
import CogniDQ.Rules.RuleTemplates
import CogniDQ.Rules.TimelinessCounts
import CogniDQ.Rules.UniquenessCounts
import CogniDQ.Rules.UniquenessJoins
import CogniDQ.Rules.UniquenessSelfJoins
import CogniDQ.Sandbox.ConcurrentExtensions
import CogniDQ.Sandbox.ExpiredSandboxes
import CogniDQ.Sandbox.SafeProvisioning
import CogniDQ.Sources.ActiveDatasets
import CogniDQ.Sources.CleanRotation
import CogniDQ.Sources.PrivateHosts
import CogniDQ.Sources.Redaction
import CogniDQ.Sources.TenantBoundary
import CogniDQ.Sql.Join
import CogniDQ.Sync.ActiveFlows
import CogniDQ.Sync.FreshSql
import CogniDQ.Tenancy.AuditTrail
import CogniDQ.Tenancy.Effects
import CogniDQ.Tenancy.LastWorkspace
import CogniDQ.Tenancy.StatusCascade
import CogniDQ.Tenants.Outbox
import CogniDQ.Tenants.OutboxDelivery
import CogniDQ.Tenants.OutboxExhaustion
import CogniDQ.Text.Csv
import CogniDQ.Text.Masking
import CogniDQ.Text.Placeholders
import CogniDQ.Triggers.ExecutionAlerts
import CogniDQ.Webhooks.DeliveryLifecycle
import CogniDQ.Workspaces.LastAdministrator
import CogniDQ.Workspaces.RoleReferences
import CogniDQ.Scheduling.FiredTicks
import CogniDQ.Auth.EndedSessions
import CogniDQ.Flow.OrderedRuns
