import JobShell.Builtin
import JobShell.Collect
import JobShell.Command
import JobShell.Diagnostics
import JobShell.Diagnostics.FieldPattern
import JobShell.Emphasis
import JobShell.Environment
import JobShell.Errno
import JobShell.Failure
import JobShell.Invocation
import JobShell.Kernel
import JobShell.Launch
import JobShell.Loop
import JobShell.Machine.Basic
import JobShell.Machine.Boot
import JobShell.Machine.Characters
import JobShell.Machine.Disk
import JobShell.Machine.Exec
import JobShell.Machine.FileTree
import JobShell.Machine.Manual
import JobShell.Machine.Process
import JobShell.Machine.Program
import JobShell.Machine.Schedule
import JobShell.Machine.Script.Arithmetic
import JobShell.Machine.Script.Commands
import JobShell.Machine.Script.Commands.Bounds
import JobShell.Machine.Script.Commands.Control
import JobShell.Machine.Script.Commands.Describing
import JobShell.Machine.Script.Commands.Dispatch
import JobShell.Machine.Script.Commands.Input
import JobShell.Machine.Script.Commands.JobControl
import JobShell.Machine.Script.Commands.Naming
import JobShell.Machine.Script.Commands.Performed
import JobShell.Machine.Script.Commands.Places
import JobShell.Machine.Script.Commands.Printing
import JobShell.Machine.Script.Commands.Settings
import JobShell.Machine.Script.Commands.Signalling
import JobShell.Machine.Script.Condition
import JobShell.Machine.Script.Expansion
import JobShell.Machine.Script.Frames
import JobShell.Machine.Script.Globbing
import JobShell.Machine.Script.Grammar
import JobShell.Machine.Script.Jobs
import JobShell.Machine.Script.Limits
import JobShell.Machine.Script.Locating
import JobShell.Machine.Script.Pattern
import JobShell.Machine.Script.Reading
import JobShell.Machine.Script.Redirection
import JobShell.Machine.Script.Running
import JobShell.Machine.Script.Scene
import JobShell.Machine.Script.Scopes
import JobShell.Machine.Script.Splitting
import JobShell.Machine.Script.Start
import JobShell.Machine.Script.State
import JobShell.Machine.Script.Step
import JobShell.Machine.Script.Switches
import JobShell.Machine.Script.Syntax
import JobShell.Machine.Script.Variables
import JobShell.Machine.Script.Words
import JobShell.Machine.Setup
import JobShell.Machine.Signals
import JobShell.Machine.System
import JobShell.Machine.Task
import JobShell.Machine.Utility.Backup
import JobShell.Machine.Utility.Cat
import JobShell.Machine.Utility.Condition
import JobShell.Machine.Utility.DateText
import JobShell.Machine.Utility.DateWord
import JobShell.Machine.Utility.Destination
import JobShell.Machine.Utility.Escapes
import JobShell.Machine.Utility.Expression
import JobShell.Machine.Utility.FileQuestions
import JobShell.Machine.Utility.FloatValue
import JobShell.Machine.Utility.LineMatcher
import JobShell.Machine.Utility.Making
import JobShell.Machine.Utility.Moments
import JobShell.Machine.Utility.Moving
import JobShell.Machine.Utility.Numeral
import JobShell.Machine.Utility.OptionScan
import JobShell.Machine.Utility.Paths
import JobShell.Machine.Utility.PermissionMode
import JobShell.Machine.Utility.Printf
import JobShell.Machine.Utility.Quoting
import JobShell.Machine.Utility.Regex
import JobShell.Machine.Utility.RegexReader
import JobShell.Machine.Utility.Removal
import JobShell.Machine.Utility.Report
import JobShell.Machine.Utility.RichBehind
import JobShell.Machine.Utility.RichFault
import JobShell.Machine.Utility.RichReader
import JobShell.Machine.Utility.RichRegex
import JobShell.Machine.Utility.RichSet
import JobShell.Machine.Utility.Run
import JobShell.Machine.Utility.Search
import JobShell.Machine.Utility.SearchOptions
import JobShell.Machine.Utility.SearchScan
import JobShell.Machine.Utility.SortKey
import JobShell.Machine.Utility.SortMarks
import JobShell.Machine.Utility.SortOptions
import JobShell.Machine.Utility.Sorting
import JobShell.Machine.Utility.SplitString
import JobShell.Machine.Utility.Surroundings
import JobShell.Machine.Utility.VersionOrder
import JobShell.Main
import JobShell.Mode
import JobShell.Options
import JobShell.PidMark
import JobShell.Proofs.BarrenLines
import JobShell.Proofs.Blocking
import JobShell.Proofs.BuiltinLines
import JobShell.Proofs.ChildSetUp
import JobShell.Proofs.CleanPlans
import JobShell.Proofs.Collecting
import JobShell.Proofs.ControlLoop
import JobShell.Proofs.Course
import JobShell.Proofs.Creation
import JobShell.Proofs.Deeds
import JobShell.Proofs.Departure
import JobShell.Proofs.Ending
import JobShell.Proofs.Faithful
import JobShell.Proofs.ForegroundStatus
import JobShell.Proofs.History
import JobShell.Proofs.JobTable
import JobShell.Proofs.KeyboardSignals
import JobShell.Proofs.LastStatus
import JobShell.Proofs.LaunchPlans
import JobShell.Proofs.Launching
import JobShell.Proofs.LineForms
import JobShell.Proofs.LineGrammar
import JobShell.Proofs.LineRendering
import JobShell.Proofs.Lines
import JobShell.Proofs.Lives
import JobShell.Proofs.LoopStages
import JobShell.Proofs.MarkedLines
import JobShell.Proofs.ModeNotices
import JobShell.Proofs.Opening
import JobShell.Proofs.OptionParsing
import JobShell.Proofs.Overruling
import JobShell.Proofs.PidMarks
import JobShell.Proofs.Rehearsal
import JobShell.Proofs.Reporting
import JobShell.Proofs.Retention
import JobShell.Proofs.Session
import JobShell.Proofs.SettingUp
import JobShell.Proofs.Signalling
import JobShell.Proofs.Stopping
import JobShell.Proofs.Strokes
import JobShell.Proofs.Sweeping
import JobShell.Proofs.Tracking
import JobShell.Proofs.Unfolding
import JobShell.Proofs.Upkeep
import JobShell.Proofs.Whereabouts
import JobShell.Proofs.Words
import JobShell.Reader
import JobShell.Settings
import JobShell.Shell
import JobShell.State
import JobShell.Termination
import JobShell.Text.Blank
import JobShell.Text.Cluster
import JobShell.Text.Erasure
import JobShell.Text.Extent
import JobShell.Text.Property.Alphanumeric
import JobShell.Text.Property.ClusterBreak
import JobShell.Text.Property.CombiningExtend
import JobShell.Text.Property.Invisible
import JobShell.Text.Property.Numeric
import JobShell.Text.Property.Ranges
import JobShell.Text.Quoted
import JobShell.Text.Utf8
import JobShell.WaitWord
