import VolumeReclaim.CommandLine.Help
import VolumeReclaim.CommandLine.Number
import VolumeReclaim.CommandLine.Options
import VolumeReclaim.CommandLine.Run
import VolumeReclaim.Context
import VolumeReclaim.Decimal.Binary
import VolumeReclaim.Decimal.Notation
import VolumeReclaim.Decimal.Reader
import VolumeReclaim.Decimal.Shortest
import VolumeReclaim.Discovery
import VolumeReclaim.Ec2.Answer
import VolumeReclaim.Ec2.Client
import VolumeReclaim.Ec2.ClientFault
import VolumeReclaim.Ec2.Session
import VolumeReclaim.Failure
import VolumeReclaim.Inventory
import VolumeReclaim.Json.Basic
import VolumeReclaim.Json.Display
import VolumeReclaim.Json.Key
import VolumeReclaim.Json.Reader
import VolumeReclaim.Json.Shape
import VolumeReclaim.Json.Writer
import VolumeReclaim.Kubectl.Command
import VolumeReclaim.Kubectl.Failure
import VolumeReclaim.Kubectl.Session
import VolumeReclaim.Log
import VolumeReclaim.Main
import VolumeReclaim.PersistentVolume.Basic
import VolumeReclaim.PersistentVolume.Provisioner
import VolumeReclaim.Poll
import VolumeReclaim.Poll.Scripted
import VolumeReclaim.Proofs.AnswerShape
import VolumeReclaim.Proofs.AnswerWait
import VolumeReclaim.Proofs.Cancellation
import VolumeReclaim.Proofs.Clock
import VolumeReclaim.Proofs.Complaints
import VolumeReclaim.Proofs.ContextSteps
import VolumeReclaim.Proofs.DecodedListing
import VolumeReclaim.Proofs.DeletionCount
import VolumeReclaim.Proofs.DerivedId
import VolumeReclaim.Proofs.DescribedVolume
import VolumeReclaim.Proofs.DoubleRounding
import VolumeReclaim.Proofs.Doubles
import VolumeReclaim.Proofs.ErrorContract
import VolumeReclaim.Proofs.Escapes
import VolumeReclaim.Proofs.Existence
import VolumeReclaim.Proofs.ExitContract
import VolumeReclaim.Proofs.FailedQuery
import VolumeReclaim.Proofs.FaithfulPatch
import VolumeReclaim.Proofs.Fates
import VolumeReclaim.Proofs.Interrupts
import VolumeReclaim.Proofs.InvocationJournal
import VolumeReclaim.Proofs.LaterDeadline
import VolumeReclaim.Proofs.ListingOutcome
import VolumeReclaim.Proofs.Lockstep
import VolumeReclaim.Proofs.LongerNumber
import VolumeReclaim.Proofs.LongerText
import VolumeReclaim.Proofs.LongerValue
import VolumeReclaim.Proofs.LookGrid
import VolumeReclaim.Proofs.MoreTime
import VolumeReclaim.Proofs.MutationSources
import VolumeReclaim.Proofs.MutationTrace
import VolumeReclaim.Proofs.NeverSpins
import VolumeReclaim.Proofs.NothingLost
import VolumeReclaim.Proofs.Phases
import VolumeReclaim.Proofs.Punctual
import VolumeReclaim.Proofs.QueryDiscipline
import VolumeReclaim.Proofs.QueryEvidence
import VolumeReclaim.Proofs.QueryRecord
import VolumeReclaim.Proofs.ReadBack
import VolumeReclaim.Proofs.RefusedListing
import VolumeReclaim.Proofs.ReleaseSteps
import VolumeReclaim.Proofs.Relisting
import VolumeReclaim.Proofs.ReplyStreams
import VolumeReclaim.Proofs.Resumption
import VolumeReclaim.Proofs.Rounds
import VolumeReclaim.Proofs.SecondRun
import VolumeReclaim.Proofs.Shapes
import VolumeReclaim.Proofs.SweepChain
import VolumeReclaim.Proofs.SweepSteps
import VolumeReclaim.Proofs.TextKeys
import VolumeReclaim.Proofs.Tokens
import VolumeReclaim.Proofs.Tolerance
import VolumeReclaim.Proofs.Trimming
import VolumeReclaim.Proofs.Truncation
import VolumeReclaim.Proofs.TypedVolume
import VolumeReclaim.Proofs.Verdicts
import VolumeReclaim.Reclamation
import VolumeReclaim.Script
import VolumeReclaim.Text.Blank
import VolumeReclaim.Text.ControlSequence
import VolumeReclaim.Text.Digit
import VolumeReclaim.Text.Hex
import VolumeReclaim.Text.LineEnd
import VolumeReclaim.Text.Printable
import VolumeReclaim.Text.Quoted
import VolumeReclaim.Text.Similarity
import VolumeReclaim.Time
import VolumeReclaim.World
