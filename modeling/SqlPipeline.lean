import SqlPipeline.Config.Settings
import SqlPipeline.Log.Logger
import SqlPipeline.Proofs.Config.Placeholders
import SqlPipeline.Proofs.Config.Precedence
import SqlPipeline.Proofs.Config.Reserved
import SqlPipeline.Proofs.Config.SettingsFailures
import SqlPipeline.Proofs.Graph.ThreeColours
import SqlPipeline.Proofs.Log.RedactionOrder
import SqlPipeline.Proofs.Log.Secrets
import SqlPipeline.Proofs.Runner.Generation
import SqlPipeline.Proofs.Runner.SettledSettings
import SqlPipeline.Proofs.Session.Reloading
import SqlPipeline.Proofs.Sql.AggregateDetection
import SqlPipeline.Proofs.Sql.AliasChange
import SqlPipeline.Proofs.Sql.Embedding
import SqlPipeline.Proofs.Sql.FurtherClause
import SqlPipeline.Proofs.Sql.GroupedRoundTrip
import SqlPipeline.Proofs.Sql.GroupingColumns
import SqlPipeline.Proofs.Sql.KeywordConditions
import SqlPipeline.Proofs.Sql.ListItems
import SqlPipeline.Proofs.Sql.QuotedNames
import SqlPipeline.Proofs.Sql.ReachablePart
import SqlPipeline.Proofs.Sql.RecoveredSource
import SqlPipeline.Proofs.Sql.VisitedNodes
import SqlPipeline.Proofs.Validation.PayloadKinds
import SqlPipeline.Proofs.Validation.Respelling
import SqlPipeline.Proofs.Value.OverlayLaws
