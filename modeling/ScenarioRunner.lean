import ScenarioRunner.Browser.Call
import ScenarioRunner.Browser.Locator
import ScenarioRunner.Browser.XPathLiteral
import ScenarioRunner.CommandLine.Arguments
import ScenarioRunner.CommandLine.Commands
import ScenarioRunner.Content
import ScenarioRunner.Error
import ScenarioRunner.Files
import ScenarioRunner.Json.Basic
import ScenarioRunner.Json.Reader
import ScenarioRunner.Json.Writer
import ScenarioRunner.Main
import ScenarioRunner.Proofs.Abbreviation
import ScenarioRunner.Proofs.Acceptance
import ScenarioRunner.Proofs.Acting
import ScenarioRunner.Proofs.Alike
import ScenarioRunner.Proofs.Asking
import ScenarioRunner.Proofs.Breaking
import ScenarioRunner.Proofs.Closing
import ScenarioRunner.Proofs.Confinement
import ScenarioRunner.Proofs.Course
import ScenarioRunner.Proofs.Deciding
import ScenarioRunner.Proofs.Distinctness
import ScenarioRunner.Proofs.Ending
import ScenarioRunner.Proofs.Envelopes
import ScenarioRunner.Proofs.Evidence
import ScenarioRunner.Proofs.Expiry
import ScenarioRunner.Proofs.Explanation
import ScenarioRunner.Proofs.Filling
import ScenarioRunner.Proofs.Given
import ScenarioRunner.Proofs.Grammar
import ScenarioRunner.Proofs.Grounding
import ScenarioRunner.Proofs.Journal
import ScenarioRunner.Proofs.Keystrokes
import ScenarioRunner.Proofs.Likeness
import ScenarioRunner.Proofs.Loading
import ScenarioRunner.Proofs.Lockstep
import ScenarioRunner.Proofs.Meaning
import ScenarioRunner.Proofs.Modifiers
import ScenarioRunner.Proofs.Numbering
import ScenarioRunner.Proofs.Outlasting
import ScenarioRunner.Proofs.Overrun
import ScenarioRunner.Proofs.Pacing
import ScenarioRunner.Proofs.Patience
import ScenarioRunner.Proofs.Persistence
import ScenarioRunner.Proofs.Phrases
import ScenarioRunner.Proofs.Precedence
import ScenarioRunner.Proofs.Printing
import ScenarioRunner.Proofs.Progress
import ScenarioRunner.Proofs.Punctuality
import ScenarioRunner.Proofs.Quoting
import ScenarioRunner.Proofs.Remainder
import ScenarioRunner.Proofs.Remembering
import ScenarioRunner.Proofs.Replies
import ScenarioRunner.Proofs.Reticence
import ScenarioRunner.Proofs.Retrying
import ScenarioRunner.Proofs.Safety
import ScenarioRunner.Proofs.Screenshots
import ScenarioRunner.Proofs.Searching
import ScenarioRunner.Proofs.Sessions
import ScenarioRunner.Proofs.Silence
import ScenarioRunner.Proofs.Spelling
import ScenarioRunner.Proofs.Stepping
import ScenarioRunner.Proofs.Strictness
import ScenarioRunner.Proofs.Substitution
import ScenarioRunner.Proofs.Tokenizing
import ScenarioRunner.Proofs.Uniqueness
import ScenarioRunner.Proofs.Waiting
import ScenarioRunner.Rehearsal.Page
import ScenarioRunner.Rehearsal.Server
import ScenarioRunner.Run.Attempt
import ScenarioRunner.Run.Executor
import ScenarioRunner.Run.Failure
import ScenarioRunner.Run.Lookup
import ScenarioRunner.Run.Options
import ScenarioRunner.Run.Polling
import ScenarioRunner.Run.Program
import ScenarioRunner.Run.Report
import ScenarioRunner.Run.Scenario
import ScenarioRunner.Run.World
import ScenarioRunner.Scenario.Basic
import ScenarioRunner.Scenario.Builtin
import ScenarioRunner.Scenario.Decode
import ScenarioRunner.Scenario.Interpolation
import ScenarioRunner.Scenario.Load
import ScenarioRunner.Scenario.StepDecode
import ScenarioRunner.Scenario.Variables
import ScenarioRunner.Scenario.Wellformed
import ScenarioRunner.Settings
import ScenarioRunner.Text.CaseTable
import ScenarioRunner.Text.Keys
import ScenarioRunner.Text.LowerCase
import ScenarioRunner.Text.Search
import ScenarioRunner.Text.Shorten
import ScenarioRunner.Text.Space
import ScenarioRunner.Text.Styled
import ScenarioRunner.Toml.Basic
import ScenarioRunner.Toml.Moment
import ScenarioRunner.Toml.Reader
import ScenarioRunner.WebDriver.Base64
import ScenarioRunner.WebDriver.Client
import ScenarioRunner.WebDriver.Exchange
import ScenarioRunner.WebDriver.Messages
import ScenarioRunner.WebDriver.Status
import ScenarioRunner.Yaml.Cursor
import ScenarioRunner.Yaml.Directive
import ScenarioRunner.Yaml.Document
import ScenarioRunner.Yaml.Lexer
import ScenarioRunner.Yaml.Node
import ScenarioRunner.Yaml.PlainValue
import ScenarioRunner.Yaml.Reading
import ScenarioRunner.Yaml.ScalarText
import ScenarioRunner.Yaml.Token
