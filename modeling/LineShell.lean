import LineShell.CommandLine
import LineShell.Editor
import LineShell.Environment
import LineShell.Errno
import LineShell.Execution
import LineShell.Fault
import LineShell.Machine
import LineShell.Machine.Call
import LineShell.Machine.Image
import LineShell.Machine.Reaction
import LineShell.Machine.Schedule
import LineShell.Machine.State
import LineShell.Machine.Store
import LineShell.Main
import LineShell.Numeral.Extended
import LineShell.Numeral.Format
import LineShell.Options
import LineShell.Outcome
import LineShell.Path
import LineShell.Pipeline
import LineShell.Platform
import LineShell.Process
import LineShell.Regex.Match
import LineShell.Regex.Pattern
import LineShell.Rehearsal
import LineShell.Script.Arithmetic
import LineShell.Script.Builtin
import LineShell.Script.Builtin.Basic
import LineShell.Script.Builtin.Directory
import LineShell.Script.Builtin.Job
import LineShell.Script.Builtin.Parameter
import LineShell.Script.Builtin.Read
import LineShell.Script.Condition
import LineShell.Script.Expand
import LineShell.Script.Field
import LineShell.Script.Lexer
import LineShell.Script.Parser
import LineShell.Script.Pattern
import LineShell.Script.Print
import LineShell.Script.Process
import LineShell.Script.Reader
import LineShell.Script.Run
import LineShell.Script.State
import LineShell.Script.Syntax
import LineShell.Session
import LineShell.Signal
import LineShell.Stage
import LineShell.Text.ByteClass
import LineShell.Text.Bytes
import LineShell.Text.Grapheme
import LineShell.Text.GraphemeBreak
import LineShell.Text.Octets
import LineShell.Text.Quoted
import LineShell.Text.Space
import LineShell.Token
import LineShell.Tool.Basic
import LineShell.Tool.Block
import LineShell.Tool.Cat
import LineShell.Tool.Cut
import LineShell.Tool.Directory
import LineShell.Tool.Echo
import LineShell.Tool.Env
import LineShell.Tool.Env.Split
import LineShell.Tool.Execute
import LineShell.Tool.Expr
import LineShell.Tool.Files
import LineShell.Tool.Grep
import LineShell.Tool.Head
import LineShell.Tool.Ls
import LineShell.Tool.Mode
import LineShell.Tool.Nl
import LineShell.Tool.Number
import LineShell.Tool.Options
import LineShell.Tool.Paste
import LineShell.Tool.Printf
import LineShell.Tool.Seq
import LineShell.Tool.Sh
import LineShell.Tool.Small
import LineShell.Tool.Sort
import LineShell.Tool.Sort.Order
import LineShell.Tool.Tac
import LineShell.Tool.Tail
import LineShell.Tool.Tee
import LineShell.Tool.Tr
import LineShell.Tool.Uniq
import LineShell.Tool.Wc
import LineShell.Toolbox
import LineShell.Wiring
import LineShell.World
import LineShell.Proofs.Journal
import LineShell.Proofs.PipeCreation
import LineShell.Proofs.Launching
import LineShell.Proofs.Ownership
import LineShell.Proofs.Correspondence
import LineShell.Proofs.Recording
import LineShell.Proofs.Past
import LineShell.Proofs.Meaning
import LineShell.Proofs.Lexing
import LineShell.Proofs.Layout
import LineShell.Proofs.Status
import LineShell.Proofs.Reading
import LineShell.Proofs.Spelling
import LineShell.Proofs.Sharing
import LineShell.Proofs.Attribution
import LineShell.Proofs.LaunchOrder
import LineShell.Proofs.Opening
import LineShell.Proofs.PathGrowth
import LineShell.Proofs.MachineFiles
import LineShell.Proofs.FileEffects
import LineShell.Proofs.Allocation
import LineShell.Proofs.PathFaults
import LineShell.Proofs.Peak
import LineShell.Proofs.Budget
import LineShell.Proofs.Locality
import LineShell.Proofs.ExitLine
import LineShell.Proofs.Containment
import LineShell.Proofs.Keeping
import LineShell.Proofs.ExitCode
import LineShell.Proofs.Lookup
import LineShell.Proofs.ReadLoop
import LineShell.Proofs.Coherence
import LineShell.Proofs.StageNumbers
import LineShell.Proofs.Counting
