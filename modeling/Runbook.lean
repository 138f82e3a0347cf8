import Runbook.CommandLine.LogLevel
import Runbook.Main
import Runbook.Proofs.Run.CallSite
import Runbook.Proofs.Run.JumpTable
import Runbook.Rehearsal.Desk
import Runbook.Rehearsal.Session
import Runbook.Rehearsal.Visit
import Runbook.Text.Substitute
import Runbook.Wire.Document
import Runbook.Wire.Prompt
import Runbook.Wire.Script
import Runbook.Proofs.Run.Untouched
import Runbook.Proofs.Run.Course
import Runbook.Proofs.Run.OpenFrames
import Runbook.Proofs.Run.Statuses
import Runbook.Proofs.Run.Abort
import Runbook.Proofs.Run.Cut
import Runbook.Proofs.Run.Cancelled
import Runbook.Proofs.Prompt.Answered
import Runbook.Proofs.Run.LoopFree
import Runbook.Proofs.Run.CountingLoop
import Runbook.Proofs.Template.Laws
import Runbook.Proofs.Template.Idempotent
import Runbook.Proofs.Run.Recomputed
import Runbook.Proofs.Run.ConfirmedWrite
import Runbook.Proofs.Run.Suspensions
import Runbook.Proofs.Run.LogTree
import Runbook.Proofs.Run.Nesting
import Runbook.Proofs.Json.Grammar
import Runbook.Proofs.Json.RoundTrip
import Runbook.Proofs.Template.Path
import Runbook.Proofs.Template.Walk
import Runbook.Proofs.Run.Inputs
import Runbook.Proofs.Workflow.Selection
import Runbook.Proofs.Number.Rounding
import Runbook.Proofs.Yaml.Property
import Runbook.Proofs.Workflow.Authored
import Runbook.Proofs.Json.Correspondence
import Runbook.Proofs.Template.Filling
import Runbook.Proofs.Template.Literal
import Runbook.Proofs.Text.Pieces
import Runbook.Proofs.Text.Utf8
import Runbook.Proofs.Time.Stamp
import Runbook.Proofs.Host.Path
import Runbook.Proofs.Rehearsal.Layout
import Runbook.Proofs.Rehearsal.Locate
import Runbook.Proofs.Rehearsal.Machine
import Runbook.Proofs.Store.Listing
import Runbook.Proofs.Store.Write
import Runbook.Proofs.Store.Opened
import Runbook.Proofs.Store.Handle
import Runbook.Proofs.Store.Revision
import Runbook.Proofs.Expression.Chain
import Runbook.Proofs.Expression.Split
import Runbook.Proofs.Run.CallPath
import Runbook.Proofs.Run.Create
import Runbook.Proofs.Run.Picked
import Runbook.Proofs.Run.SavedText
import Runbook.Proofs.Run.PlainText
import Runbook.Proofs.Run.ReadJson
import Runbook.Proofs.Store.Within
import Runbook.Proofs.Text.LineDiff
import Runbook.Proofs.Remote.EventStream
import Runbook.Proofs.Wire.RoundTrip
import Runbook.Proofs.CommandLine.Reopened
