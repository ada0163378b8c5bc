import StoryEngine.Text.Case
import StoryEngine.Text.Quoted
import StoryEngine.Text.Numeral
import StoryEngine.Text.Blank
import StoryEngine.Table
import StoryEngine.Binary64.Arithmetic
import StoryEngine.Binary64.Shortest
import StoryEngine.Json.Printer
import StoryEngine.Json.Text
import StoryEngine.Json.Record
import StoryEngine.Error
import StoryEngine.Run
import StoryEngine.CaseMap
import StoryEngine.Story.Validation
import StoryEngine.Catalog.Format
import StoryEngine.Catalog.Resolution
import StoryEngine.Story.Basic
import StoryEngine.Interpreter.Script
import StoryEngine.Interpreter.Program
import StoryEngine.Bootstrap.Containers
import StoryEngine.Bootstrap.Stories
import StoryEngine.Http.Scripted
import StoryEngine.App.Teardown
import StoryEngine.App.Release
import StoryEngine.App.Basic
import StoryEngine.Logging.Config
import StoryEngine.Logging.Result
import StoryEngine.Proofs.Bootstrap.Coverage
import StoryEngine.Proofs.Interpreter.Unwinding
import StoryEngine.Proofs.Interpreter.Structured
import StoryEngine.Proofs.Interpreter.Revisits
import StoryEngine.Proofs.Bootstrap.Faults
import StoryEngine.Proofs.Bootstrap.Requests
import StoryEngine.Proofs.App.Stories
import StoryEngine.Proofs.Bootstrap.Join
import StoryEngine.Proofs.App.Lifecycle
import StoryEngine.Proofs.App.Starting
import StoryEngine.Proofs.Story.Soundness
import StoryEngine.Proofs.App.Acceptance
import StoryEngine.Proofs.App.Rounds
import StoryEngine.Proofs.Interpreter.Endings
import StoryEngine.Proofs.Bootstrap.Prefix
import StoryEngine.Proofs.Interpreter.ScopeOnly
import StoryEngine.Proofs.App.Isolation
import StoryEngine.Proofs.App.AnyOrder
import StoryEngine.Proofs.CaseMap.Reading
import StoryEngine.Proofs.App.Formats
import StoryEngine.Proofs.App.CallMethods
import StoryEngine.Proofs.Http.Delays
import StoryEngine.Proofs.Subscription.History
import StoryEngine.Proofs.Interpreter.Loops
import StoryEngine.Proofs.Interpreter.Agreement
import StoryEngine.Proofs.Interpreter.Blocks
import StoryEngine.Proofs.App.Secrets
import StoryEngine.Proofs.CaseMap.Writing
import StoryEngine.Proofs.App.Settings
import StoryEngine.Proofs.Interpreter.Refinement
