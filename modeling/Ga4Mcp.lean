import Ga4Mcp.Lib.Scanner
import Ga4Mcp.Lib.Brackets
import Ga4Mcp.Lib.Machine
import Ga4Mcp.Lib.Checks
import Ga4Mcp.Lib.Paging
import Ga4Mcp.Lib.Names
import Ga4Mcp.Lib.Codes
import Ga4Mcp.Lib.Words
import Ga4Mcp.Lib.Decimals
import Ga4Mcp.Lib.Binary64
import Ga4Mcp.Lib.Sql.Lexer
import Ga4Mcp.Lib.Sql.Syntax
import Ga4Mcp.Lib.Sql.Parser
import Ga4Mcp.Lib.Sql.Values
import Ga4Mcp.Lib.Sql.Queries
import Ga4Mcp.Text
import Ga4Mcp.Numbers
import Ga4Mcp.Error
import Ga4Mcp.SqlSafety.Surface
import Ga4Mcp.SqlSafety.SurfaceRuns
import Ga4Mcp.SqlSafety.FaithfulSurface
import Ga4Mcp.SqlSafety.DuckLexer
import Ga4Mcp.SqlSafety.DuckTokens
import Ga4Mcp.SqlSafety.Masking
import Ga4Mcp.SqlSafety.Policy
import Ga4Mcp.SqlSafety.ForbiddenReaders
import Ga4Mcp.SqlSafety.Gaps
import Ga4Mcp.Scratchpad.Sessions
import Ga4Mcp.Scratchpad.Effects
import Ga4Mcp.Scratchpad.Engine
import Ga4Mcp.Scratchpad.System
import Ga4Mcp.Scratchpad.LiveFiles
import Ga4Mcp.Scratchpad.FreshSession
import Ga4Mcp.Scratchpad.Counters
import Ga4Mcp.Scratchpad.QuotaDrift
import Ga4Mcp.Scratchpad.Quotas
import Ga4Mcp.Scratchpad.Ingest
import Ga4Mcp.Scratchpad.RuntimeLimits
import Ga4Mcp.Scratchpad.GuardedRun
import Ga4Mcp.Scratchpad.GuardedTiming
import Ga4Mcp.Scratchpad.Lifetimes
import Ga4Mcp.Tools.Wrapping
import Ga4Mcp.Tools.Json
import Ga4Mcp.Tools.JsonMaps
import Ga4Mcp.Tools.JsonText
import Ga4Mcp.Tools.FilterArgs
import Ga4Mcp.Tools.Contract
import Ga4Mcp.Tools.Cursor
import Ga4Mcp.Tools.PreviewReport
import Ga4Mcp.Tools.Projection
import Ga4Mcp.Tools.DuckRows
import Ga4Mcp.Tools.Client
import Ga4Mcp.Tools.ReportArgs
import Ga4Mcp.Tools.Reports
import Ga4Mcp.Tools.ScratchpadQuery
import Ga4Mcp.Tools.TableQueries
import Ga4Mcp.Tools.EvidenceBundle
import Ga4Mcp.Tools.PagedCalls
import Ga4Mcp.Tools.CursorLaws
import Ga4Mcp.Tools.PayloadSize
import Ga4Mcp.Tools.Upstream
import Ga4Mcp.Tools.CallWindows
import Ga4Mcp.Tools.CursorWalk
import Ga4Mcp.Auth.Credentials
import Ga4Mcp.Auth.RequestTokens
import Ga4Mcp.Auth.OauthCache
import Ga4Mcp.Tools.ReportIngest
import Ga4Mcp.Tools.ColumnNames
import Ga4Mcp.Tools.ReleaseSql
import Ga4Mcp.Tools.ReleaseTemplates
import Ga4Mcp.Tools.ReleaseSurface
import Ga4Mcp.Tools.ReleaseQueries
import Ga4Mcp.Tools.ReleaseWindows
import Ga4Mcp.Tools.ReleaseScope
import Ga4Mcp.Tools.LandingPairs
import Ga4Mcp.Tools.LandingCounts
import Ga4Mcp.Tools.LandingReport
import Ga4Mcp.Tools.FunnelReport
import Ga4Mcp.Tools.QuerySignatures
import Ga4Mcp.Tools.ReportViews
import Ga4Mcp.Tools.CursorIdentity
import Ga4Mcp.Tools.IngestColumns
import Ga4Mcp.Tools.CamelKeys
import Ga4Mcp.Tools.PivotChecks
import Ga4Mcp.Tools.FunnelChecks
import Ga4Mcp.Tools.FilterShorthand
import Ga4Mcp.Tools.Redaction
import Ga4Mcp.Tools.DuckCells
import Ga4Mcp.Tools.FunnelDurations
import Ga4Mcp.Tools.GuardedQueries
import Ga4Mcp.Tools.Listings
import Ga4Mcp.Scratchpad.StatementTexts
import Ga4Mcp.Scratchpad.Appends
import Ga4Mcp.Scratchpad.IngestAnswers
import Ga4Mcp.Tools.RealtimeReport
import Ga4Mcp.Tools.IngestCalls
import Ga4Mcp.Tools.FunnelReply
import Ga4Mcp.Http.Settings
import Ga4Mcp.Http.AuthSurface
import Ga4Mcp.Http.Guards
