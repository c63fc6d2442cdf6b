import Lamplighter.Direction
import Lamplighter.Program
import Lamplighter.Number.Binary64
import Lamplighter.Text.Blank
import Lamplighter.Number.Numeral
import Lamplighter.Text.Label
import Lamplighter.Level
import Lamplighter.Store
import Lamplighter.Board
import Lamplighter.Picture
import Lamplighter.Rules
import Lamplighter.Attempt
import Lamplighter.Number.IntegerText
import Lamplighter.Fault
import Lamplighter.Console
import Lamplighter.Run.Event
import Lamplighter.Run.Walk
import Lamplighter.Run.Stage
import Lamplighter.Run.Record
import Lamplighter.Run.Script
import Lamplighter.Run.Rehearsal
import Lamplighter.Number.LooseNumeral
import Lamplighter.Text.FilePath
import Lamplighter.Text.Printable
import Lamplighter.Text.Quoted
import Lamplighter.Text.Uppercase
import Lamplighter.Text.Utf8
import Lamplighter.Json
import Lamplighter.Json.Printer
import Lamplighter.Json.Reader
import Lamplighter.Decoding.Issue
import Lamplighter.Decoding.Scalar
import Lamplighter.Decoding.Models
import Lamplighter.Decoding.Dump
import Lamplighter.Catalogue
import Lamplighter.Settings
import Lamplighter.Delay
import Lamplighter.Session
import Lamplighter.Session.Run
import Lamplighter.Session.Script
import Lamplighter.Demo
import Lamplighter.Main
import Lamplighter.Proofs.Console
import Lamplighter.Proofs.Run.Walk
import Lamplighter.Proofs.Run.Stage
import Lamplighter.Proofs.Run.Pairing
import Lamplighter.Proofs.Session.Calls
import Lamplighter.Proofs.Session.Runs
import Lamplighter.Proofs.Session.Pairing
import Lamplighter.Proofs.Session.Steps
import Lamplighter.Proofs.Session.Life
import Lamplighter.Proofs.Session.Scripts
import Lamplighter.Proofs.Session.Repetition
import Lamplighter.Proofs.Session.Soundness
import Lamplighter.Proofs.Session.Cancellation
import Lamplighter.Proofs.Session.Recovery
import Lamplighter.Proofs.Run.Onlookers
import Lamplighter.Proofs.Run.Cut
import Lamplighter.Proofs.Run.Interruption
import Lamplighter.Proofs.Run.Bystanders
import Lamplighter.Proofs.Run.Account
import Lamplighter.Proofs.Run.Rewriting
import Lamplighter.Proofs.Run.Unrolling
import Lamplighter.Proofs.Run.Pruning
import Lamplighter.Proofs.Session.Verdict
import Lamplighter.Proofs.Attempt
import Lamplighter.Proofs.Level
import Lamplighter.Proofs.Store
import Lamplighter.Proofs.Run.Address
import Lamplighter.Proofs.Run.Course
import Lamplighter.Proofs.Run.Watching
import Lamplighter.Proofs.Run.Recording
import Lamplighter.Proofs.Run.Observation
import Lamplighter.Proofs.Run.Suspension
import Lamplighter.Proofs.Run.Chronicle
import Lamplighter.Proofs.Run.Footing
import Lamplighter.Proofs.Session.Watching
import Lamplighter.Proofs.Session.Chronicle
import Lamplighter.Proofs.Session.Footing
import Lamplighter.Proofs.Run.Likeness
import Lamplighter.Proofs.Run.Strides
import Lamplighter.Proofs.Run.Stepping
import Lamplighter.Proofs.Run.Switches
import Lamplighter.Proofs.Run.ThinIce
import Lamplighter.Proofs.Decoding
import Lamplighter.Proofs.Dump
import Lamplighter.Proofs.Program
import Lamplighter.Proofs.Session.Refusals
import Lamplighter.Proofs.Session.Likeness
import Lamplighter.Proofs.Rotation
import Lamplighter.Proofs.Session.Rotation
import Lamplighter.Proofs.Reordering
import Lamplighter.Proofs.Session.Reordering
import Lamplighter.Proofs.Run.Allowance
import Lamplighter.Proofs.Run.Leaping
import Lamplighter.Proofs.Layout
import Lamplighter.Proofs.Catalogue
import Lamplighter.Proofs.Editing
import Lamplighter.Proofs.Sharing
import Lamplighter.Proofs.Session.Navigation
import Lamplighter.Proofs.Run.Shallow
import Lamplighter.Proofs.Session.Editing
import Lamplighter.Proofs.Session.Budget
import Lamplighter.Proofs.Picture
import Lamplighter.Proofs.Run.Transcript
import Lamplighter.Proofs.Run.Sequencing
import Lamplighter.Proofs.Run.Attribution
import Lamplighter.Proofs.Spelling
