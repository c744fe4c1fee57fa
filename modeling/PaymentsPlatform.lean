import PaymentsPlatform.AgentApi.ApprovedDatasets
import PaymentsPlatform.AgentApi.ChunkSplitting
import PaymentsPlatform.AgentApi.ExistingResults
import PaymentsPlatform.AgentApi.FinalGate
import PaymentsPlatform.AgentApi.PlanDepth
import PaymentsPlatform.AgentApi.QueryText
import PaymentsPlatform.AgentApi.RankingMovement
import PaymentsPlatform.AgentApi.Redaction
import PaymentsPlatform.AgentApi.Starvation
import PaymentsPlatform.AgentApi.ToolBudget
import PaymentsPlatform.AgentApi.Vocabulary
import PaymentsPlatform.Ingestion.CdcPoison
import PaymentsPlatform.Ingestion.KeyStability
import PaymentsPlatform.Ingestion.RawCoordinates
import PaymentsPlatform.Ingestion.Verdicts
import PaymentsPlatform.Ingestion.XmlFaithful
import PaymentsPlatform.Lifecycle.StageHistory
import PaymentsPlatform.Lifecycle.Terminal
import PaymentsPlatform.Lifecycle.TransitionIdentity
import PaymentsPlatform.Mdm.Publication
import PaymentsPlatform.ObjectStore.ProvisioningRuns
import PaymentsPlatform.Programme.WorkbookRefresh
import PaymentsPlatform.Replay.DlqRoundTrip
import PaymentsPlatform.Replay.ReplayAudit
import PaymentsPlatform.Replay.ReplaySequence
import PaymentsPlatform.Shared.LogRedaction
import PaymentsPlatform.TransformRuntime.Attempts
import PaymentsPlatform.TransformRuntime.BronzePublication
import PaymentsPlatform.TransformRuntime.ChildIsolation
import PaymentsPlatform.TransformRuntime.Completion
import PaymentsPlatform.TransformRuntime.Contract
import PaymentsPlatform.TransformRuntime.IndeterminatePublication
import PaymentsPlatform.TransformRuntime.OutputCapture
import PaymentsPlatform.TransformRuntime.ProductionMode
import PaymentsPlatform.TransformRuntime.Resubmission
import PaymentsPlatform.TransformRuntime.TokenLinkSession
import PaymentsPlatform.TransformRuntime.TokenVersion
import PaymentsPlatform.TransformRuntime.WriterConfinement
import PaymentsPlatform.Warehouse.CreditTransfers
import PaymentsPlatform.Warehouse.EntityResolution
import PaymentsPlatform.Warehouse.EventCorrelation
import PaymentsPlatform.Warehouse.LifecycleExceptions
import PaymentsPlatform.Warehouse.PaymentOperations
import PaymentsPlatform.Warehouse.Reconciliation
import PaymentsPlatform.Warehouse.Redelivery
import PaymentsPlatform.Warehouse.TransactionDedup
