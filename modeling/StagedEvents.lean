import StagedEvents.Application.Desk
import StagedEvents.Config.Document
import StagedEvents.Control.Observers
import StagedEvents.Exchange.Session
import StagedEvents.Exchange.Workload
import StagedEvents.Handler.Script
import StagedEvents.Stats.Report
import StagedEvents.Proofs.Queue.Operations
import StagedEvents.Proofs.Queue.Custody
import StagedEvents.Proofs.Queue.Conservation
import StagedEvents.Proofs.Queue.Reservation
import StagedEvents.Proofs.Channel.Effect
import StagedEvents.Proofs.Channel.Recording
import StagedEvents.Proofs.Exchange.Interleaving
import StagedEvents.Proofs.Exchange.WakeUp
import StagedEvents.Proofs.Exchange.Carriage
import StagedEvents.Proofs.Pool.Roll
import StagedEvents.Proofs.Pool.Sections
import StagedEvents.Proofs.Service.Books
import StagedEvents.Proofs.Service.Round
import StagedEvents.Proofs.Service.Delivery
import StagedEvents.Proofs.Pool.Conduct
import StagedEvents.Proofs.Pool.Sizes
import StagedEvents.Proofs.Exchange.Serving
import StagedEvents.Proofs.Service.Conduct
import StagedEvents.Proofs.Service.Crew
import StagedEvents.Proofs.Service.Strength
import StagedEvents.Proofs.Pool.Lone
import StagedEvents.Proofs.Application.Exclusion
import StagedEvents.Proofs.Channel.Refusal
import StagedEvents.Proofs.Channel.Course
import StagedEvents.Proofs.Channel.Deferral
import StagedEvents.Proofs.Channel.Threshold
import StagedEvents.Proofs.Channel.Slots
import StagedEvents.Proofs.Exchange.Lending
import StagedEvents.Proofs.Exchange.Closing
import StagedEvents.Proofs.Control.Touch
import StagedEvents.Proofs.Control.Row
import StagedEvents.Proofs.Control.Feed
import StagedEvents.Proofs.Control.Calls
import StagedEvents.Proofs.Control.Solo
import StagedEvents.Proofs.Control.Windows
import StagedEvents.Proofs.Pool.Later
import StagedEvents.Proofs.Service.Lifecycle
import StagedEvents.Proofs.Service.Undisturbed
import StagedEvents.Proofs.Application.StagePhase
import StagedEvents.Proofs.Application.PendingCall
import StagedEvents.Proofs.Application.Registry
import StagedEvents.Proofs.Service.Order
import StagedEvents.Proofs.Double.Grid
import StagedEvents.Proofs.Double.Unpacked
import StagedEvents.Proofs.Double.Order
import StagedEvents.Proofs.Double.Arithmetic
import StagedEvents.Proofs.Double.Whole
import StagedEvents.Proofs.Control.Turning
import StagedEvents.Proofs.Control.Range
import StagedEvents.Proofs.Control.Bounds
import StagedEvents.Proofs.Control.Easing
import StagedEvents.Proofs.Control.Adjusting
import StagedEvents.Proofs.Control.Settling
import StagedEvents.Proofs.Control.Descent
import StagedEvents.Proofs.Control.Escalation
import StagedEvents.Proofs.Control.Standstill
import StagedEvents.Proofs.Double.Spans
import StagedEvents.Proofs.Double.Nearest
import StagedEvents.Proofs.Stats.Percentiles
import StagedEvents.Proofs.Control.Answering
import StagedEvents.Proofs.Control.Accepting
import StagedEvents.Proofs.Config.Sections
import StagedEvents.Proofs.Config.Keys
import StagedEvents.Proofs.Config.Precedence
import StagedEvents.Proofs.Config.Latest
import StagedEvents.Proofs.Queue.Answers
import StagedEvents.Proofs.Exchange.Replies
import StagedEvents.Proofs.Application.Attempt
import StagedEvents.Proofs.Exchange.Draining
import StagedEvents.Proofs.Dial.Tokens
import StagedEvents.Proofs.Channel.Singly
import StagedEvents.Proofs.Channel.Counting
import StagedEvents.Proofs.Exchange.Alone
import StagedEvents.Proofs.Exchange.Exhausting
