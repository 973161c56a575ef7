import ScriptScan.Diagnostics
import ScriptScan.Main
import ScriptScan.Options.Declaration
import ScriptScan.Options.Reading
import ScriptScan.Options.Usage
import ScriptScan.Proofs.Grammar
import ScriptScan.Proofs.Tokens
import ScriptScan.Proofs.LongestMatch
import ScriptScan.Proofs.Lines
import ScriptScan.Proofs.Adjacency
import ScriptScan.Proofs.Layout
import ScriptScan.Proofs.Groups
import ScriptScan.Proofs.Continuation
import ScriptScan.Proofs.Prompt
import ScriptScan.Proofs.FirstProblem
import ScriptScan.Proofs.Repair
import ScriptScan.Proofs.Composition
import ScriptScan.Proofs.Echo
import ScriptScan.Proofs.Exchange
import ScriptScan.Proofs.Session
import ScriptScan.Proofs.Choice
import ScriptScan.Proofs.Usability
import ScriptScan.Proofs.UsageText
import ScriptScan.Proofs.UsageAgreement
import ScriptScan.Proofs.ScriptFile
import ScriptScan.Proofs.Verbosity
import ScriptScan.Proofs.Finality
import ScriptScan.Proofs.TokenContents
import ScriptScan.Proofs.IntegerFields
import ScriptScan.Proofs.Refusal
import ScriptScan.Proofs.Histories
import ScriptScan.Proofs.NumberDisplay
import ScriptScan.Proofs.CursorWalk
