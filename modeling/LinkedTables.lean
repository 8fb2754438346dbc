import LinkedTables.Text.Blank
import LinkedTables.Text.DecimalDigit
import LinkedTables.Text.LetterCase
import LinkedTables.Text.Quoted
import LinkedTables.Text.Percent
import LinkedTables.Number.Reading
import LinkedTables.Number.Exact
import LinkedTables.Calendar.Timestamp
import LinkedTables.Fault
import LinkedTables.Dialect.Identifier
import LinkedTables.Dialect.Quoting
import LinkedTables.Column.Basic
import LinkedTables.Sql.Recreation
import LinkedTables.Sql.Marker
import LinkedTables.Catalog.RemoteType
import LinkedTables.Catalog.Inspection
import LinkedTables.Index.Reconstruction
import LinkedTables.Catalog.Probe
import LinkedTables.Remote.Url
import LinkedTables.Remote.Breaker
import LinkedTables.Shape
import LinkedTables.Roster
import LinkedTables.Host.State
import LinkedTables.Host.Link
import LinkedTables.Host.Execution
import LinkedTables.Host.Cursor
import LinkedTables.Configuration.Settings
import LinkedTables.Row
import LinkedTables.Registry
import LinkedTables.Json.Reader
import LinkedTables.Json.Writer
import LinkedTables.Host.Operation
import LinkedTables.Host.View
import LinkedTables.Json.Tagged
import LinkedTables.Yaml.Scalar
import LinkedTables.Yaml.Text
import LinkedTables.Yaml.Token
import LinkedTables.Yaml.Node
import LinkedTables.Configuration.Link
import LinkedTables.Configuration.Secrets
import LinkedTables.Number.Rounded
import LinkedTables.Log.Template
import LinkedTables.Log.Line
import LinkedTables.Log.Setup
import LinkedTables.Configuration.Path
import LinkedTables.Configuration.Workspace
import LinkedTables.CommandLine.Options
import LinkedTables.CommandLine.Page
import LinkedTables.CommandLine.Request
import LinkedTables.CommandLine.Run
import LinkedTables.Main
import LinkedTables.Proofs.Coupling
import LinkedTables.Proofs.Outline
import LinkedTables.Proofs.QuietRelation
import LinkedTables.Proofs.SteadyActions
import LinkedTables.Proofs.Executor
import LinkedTables.Proofs.LinkLogic
import LinkedTables.Proofs.TableLogic
import LinkedTables.Proofs.CursorLogic
import LinkedTables.Proofs.OperationLogic
import LinkedTables.Proofs.Lines
import LinkedTables.Proofs.LineLogic
import LinkedTables.Proofs.SharedSessions
import LinkedTables.Proofs.Connections
import LinkedTables.Proofs.Custody
import LinkedTables.Proofs.Tally
import LinkedTables.Proofs.Statements
import LinkedTables.Proofs.Pairing
import LinkedTables.Proofs.CustodyLogic
import LinkedTables.Proofs.Desk
import LinkedTables.Proofs.Ownership
import LinkedTables.Proofs.Results
import LinkedTables.Proofs.Scanning
import LinkedTables.Proofs.Success
import LinkedTables.Proofs.Parameters
import LinkedTables.Proofs.ActionLogic
import LinkedTables.Proofs.StatementsWithoutExecution
import LinkedTables.Proofs.Shapes
import LinkedTables.Proofs.LinkWorkKeepsColumns
import LinkedTables.Proofs.ShapeLasts
import LinkedTables.Proofs.StatementAttempts
import LinkedTables.Proofs.TableInService
import LinkedTables.Proofs.UndoLog
import LinkedTables.Proofs.Replacing
import LinkedTables.Proofs.RowEffect
import LinkedTables.Proofs.UndisturbedUpdate
import LinkedTables.Proofs.EmittedUpdates
import LinkedTables.Proofs.Inspection
import LinkedTables.Proofs.Folding
import LinkedTables.Proofs.CanonicalNames
import LinkedTables.Proofs.CloseInFlight
import LinkedTables.Proofs.LinkWork
import LinkedTables.Proofs.Calls
import LinkedTables.Proofs.UnreadyLink
import LinkedTables.Proofs.ClosedLink
import LinkedTables.Proofs.ConnectOutcomes
import LinkedTables.Proofs.ForcedCreation
import LinkedTables.Proofs.Surfacing
import LinkedTables.Proofs.Wrapping
import LinkedTables.Proofs.Escaping
import LinkedTables.Proofs.Recreating
import LinkedTables.Proofs.ConcurrentReconnect
import LinkedTables.Proofs.TwinHosts
import LinkedTables.Proofs.TwinSessions
import LinkedTables.Proofs.TwinLinks
import LinkedTables.Proofs.TwinTables
import LinkedTables.Proofs.Estates
import LinkedTables.Proofs.SessionsStayOpen
import LinkedTables.Proofs.OpenBreakerRefuses
import LinkedTables.Proofs.Isolation
import LinkedTables.Proofs.PrimaryKeyOrder
import LinkedTables.Proofs.Selection
import LinkedTables.Proofs.AcquireRelease
import LinkedTables.Proofs.ConnectAttempts
import LinkedTables.Proofs.Executions
import LinkedTables.Proofs.Recovery
import LinkedTables.Proofs.IndexGroups
import LinkedTables.Proofs.CatalogOrigin
import LinkedTables.Proofs.Segments
import LinkedTables.Proofs.Conversion
import LinkedTables.Proofs.RowConversion
import LinkedTables.Proofs.GeneratedKeys
import LinkedTables.Proofs.Obstacles
import LinkedTables.Proofs.Resolution
import LinkedTables.Proofs.OperationsWithoutExecution
import LinkedTables.Proofs.WorkInTableName
import LinkedTables.Proofs.LogNames
import LinkedTables.Proofs.OwnSessions
import LinkedTables.Proofs.ExecutionOnOwnSession
import LinkedTables.Proofs.FetchSize
