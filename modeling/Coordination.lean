import Coordination.Time
import Coordination.Ident
import Coordination.Table
import Coordination.LogLine
import Coordination.Audience
import Coordination.Tally
import Coordination.Chronicle
import Coordination.Chart
import Coordination.Storage
import Coordination.Decimal.Shortest
import Coordination.Text.Ranges
import Coordination.Text.Extender
import Coordination.Text.Hidden
import Coordination.Text.Unassigned
import Coordination.Text.Quoted
import Coordination.Json.Value
import Coordination.Json.Number
import Coordination.Json.Writer
import Coordination.Json.Reader
import Coordination.Json.Typed
import Coordination.Json.Format
import Coordination.Json.Member
import Coordination.Settings
import Coordination.Workflow.Record
import Coordination.Workflow.Notice
import Coordination.Workflow.Life
import Coordination.Workflow.Directory
import Coordination.Workflow.Shelf
import Coordination.Workflow.Office
import Coordination.Workflow.Deadline
import Coordination.Workflow.Format
import Coordination.Alarm.Task
import Coordination.Alarm.Agenda
import Coordination.Alarm.Sweep
import Coordination.Alarm.Pulse
import Coordination.Alarm.Ticker
import Coordination.Alarm.Written
import Coordination.Saga.Record
import Coordination.Saga.Notice
import Coordination.Saga.Fault
import Coordination.Saga.Archive
import Coordination.Saga.Scene
import Coordination.Saga.Run
import Coordination.Saga.Script
import Coordination.Saga.Format
import Coordination.Saga.Written
import Coordination.Exchange.Event
import Coordination.Exchange.Reaction
import Coordination.Exchange.Registry
import Coordination.Exchange.Dispatch
import Coordination.Exchange.Format
import Coordination.Exchange.Written
import Coordination.Proofs.Total
import Coordination.Proofs.Alarm.Nesting
import Coordination.Proofs.Alarm.Books
import Coordination.Proofs.Alarm.Fates
import Coordination.Proofs.Alarm.Surroundings
import Coordination.Proofs.Alarm.Attribution
import Coordination.Proofs.Alarm.Settling
import Coordination.Proofs.Alarm.Rhythm
import Coordination.Proofs.Workflow.Correlation
import Coordination.Proofs.Workflow.Custody
import Coordination.Proofs.Workflow.Expiry
import Coordination.Proofs.Workflow.Recovery
import Coordination.Proofs.Workflow.Treatment
import Coordination.Proofs.Workflow.Permanence
import Coordination.Proofs.Saga.Deeds
import Coordination.Proofs.Saga.Statement
import Coordination.Proofs.Saga.Compensation
import Coordination.Proofs.Saga.AllOrNothing
import Coordination.Proofs.Saga.Interleaving
import Coordination.Proofs.Saga.Ensemble
import Coordination.Proofs.Saga.Notices
import Coordination.Proofs.Saga.Transcript
import Coordination.Proofs.Saga.Balance
import Coordination.Proofs.Saga.Undertaking
import Coordination.Proofs.Saga.Conclusion
import Coordination.Proofs.Saga.Indifference
import Coordination.Proofs.Workflow.Takeover
import Coordination.Proofs.Chart
import Coordination.Proofs.Workflow.Lineage
import Coordination.Proofs.Workflow.Postponement
import Coordination.Proofs.Workflow.Course
import Coordination.Proofs.Workflow.OneToOne
import Coordination.Proofs.Workflow.Independence
import Coordination.Proofs.Saga.WriteAhead
import Coordination.Proofs.Exchange.Roll
import Coordination.Proofs.Exchange.Plain
import Coordination.Proofs.Exchange.Visits
import Coordination.Proofs.Alarm.Strikes
import Coordination.Proofs.Saga.Stages
import Coordination.Proofs.Workflow.Reckoning
import Coordination.Proofs.Workflow.Attempts
import Coordination.Proofs.Saga.Permits
import Coordination.Proofs.Saga.Rollback
import Coordination.Proofs.Saga.Refusals
import Coordination.Proofs.Saga.Budget
import Coordination.Proofs.Workflow.Answers
import Coordination.Proofs.Alarm.Delays
import Coordination.Proofs.Alarm.Locality
import Coordination.Proofs.Workflow.Poisoning
import Coordination.Proofs.Alarm.Exhaustion
import Coordination.Proofs.Alarm.Reassurance
import Coordination.Proofs.Observers
import Coordination.Proofs.Monitors
