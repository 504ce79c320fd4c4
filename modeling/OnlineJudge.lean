import OnlineJudge.Library.TransitionSystem
import OnlineJudge.Library.SharedConnection
import OnlineJudge.Library.TransactionLogic
import OnlineJudge.Library.SoloRun
import OnlineJudge.Library.Linearization
import OnlineJudge.Library.Clearance
import OnlineJudge.Library.SlidingWindow
import OnlineJudge.Library.Delimited
import OnlineJudge.Library.Erasure
import OnlineJudge.Library.ClassicBpf
import OnlineJudge.Library.Processes
import OnlineJudge.Text
import OnlineJudge.Judge.Engine
import OnlineJudge.Judge.Scrubbing
import OnlineJudge.Judge.Seccomp
import OnlineJudge.Judge.CompileGate
import OnlineJudge.Judge.Verdict
import OnlineJudge.Judge.Budget
import OnlineJudge.Judge.Result
import OnlineJudge.Judge.Manager
import OnlineJudge.Judge.Manager.Transition
import OnlineJudge.Judge.Manager.Lifecycle
import OnlineJudge.Judge.Manager.Shutdown
import OnlineJudge.Judge.Manager.Admission
import OnlineJudge.Judge.Manager.Cancellation
import OnlineJudge.Judge.Manager.Accounting
import OnlineJudge.Judge.Capture
import OnlineJudge.Judge.Supervisor
import OnlineJudge.Judge.Supervisor.Outcome
import OnlineJudge.Judge.Supervisor.Timing
import OnlineJudge.Judge.LocalExecutor
import OnlineJudge.Judge.LocalVerdict
import OnlineJudge.Judge.Launching
import OnlineJudge.Judge.Launching.Descriptors
import OnlineJudge.Judge.Launching.Handshake
import OnlineJudge.Judge.Launching.View
import OnlineJudge.Judge.Launching.Simulation
import OnlineJudge.Judge.Launching.Children
import OnlineJudge.Judge.Launching.Decision
import OnlineJudge.Judge.Launching.Outcome
import OnlineJudge.Problem.ListQuery
import OnlineJudge.Problem.Validation
import OnlineJudge.Problem.Filters
import OnlineJudge.Problem.Stored
import OnlineJudge.Db.Tables
import OnlineJudge.Db.Statement
import OnlineJudge.Db.Schema
import OnlineJudge.Db.ProblemList
import OnlineJudge.Db.Leaderboard
import OnlineJudge.Db.Ranking
import OnlineJudge.Db.History
import OnlineJudge.Service.Calls
import OnlineJudge.Service.Footprint
import OnlineJudge.Service.UserWrites
import OnlineJudge.Service.Administrators
import OnlineJudge.Service.Startup
import OnlineJudge.Service.Settlement
import OnlineJudge.Service.StatusWrites
import OnlineJudge.Service.Statuses
import OnlineJudge.Service.StatusCounts
import OnlineJudge.Service.Validation
import OnlineJudge.Service.SoloProgram
import OnlineJudge.Service.PartialUpdate
import OnlineJudge.Service.Replacement
import OnlineJudge.Service.Completion
import OnlineJudge.Service.Handover
import OnlineJudge.Service.Snapshot
import OnlineJudge.Auth.RateLimiter
import OnlineJudge.Auth.Context
import OnlineJudge.Auth.Bearer
import OnlineJudge.Http.Rejudges
import OnlineJudge.Http.Problems
import OnlineJudge.Http.Visibility
import OnlineJudge.Http.Pages
import OnlineJudge.Http.Ranking
import OnlineJudge.Http.Submissions
import OnlineJudge.Http.Handlers
import OnlineJudge.Http.Authority
import OnlineJudge.Http.Privileges
import OnlineJudge.Web.Session
import OnlineJudge.Web.SessionIntegrity
import OnlineJudge.Web.Router
import OnlineJudge.Web.Targets
import OnlineJudge.Web.Rendering
import OnlineJudge.Web.Rendering.Order
