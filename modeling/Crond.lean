import Crond.Schedule.Printer
import Crond.Scheduler.Session
import Crond.Scheduler.EventLoop
import Crond.Scheduler.Inspection
import Crond.JobTable.Printer
import Crond.Main
import Crond.Proofs.Schedule.Grammar
import Crond.Proofs.Scheduler.SingleTimer
import Crond.Proofs.Scheduler.Cadence
import Crond.Proofs.Schedule.RoundTrip
import Crond.Proofs.Schedule.EverDue
import Crond.Proofs.Scheduler.Protocol
import Crond.Proofs.Scheduler.Registrations
import Crond.Proofs.Text.Lines
import Crond.Proofs.Daemon.Startup
import Crond.Proofs.JobTable.Commands
import Crond.Proofs.JobTable.SinglePass
import Crond.Proofs.JobTable.RoundTrip
import Crond.Proofs.Schedule.Weekdays
import Crond.Proofs.Schedule.WordArithmetic
import Crond.Proofs.Schedule.FirstFault
import Crond.Proofs.JobTable.Defects
import Crond.Proofs.JobTable.Concatenation
import Crond.Proofs.JobTable.Layout
import Crond.Proofs.Schedule.Bounds
import Crond.Proofs.Schedule.Lists
import Crond.Proofs.Schedule.Spelling
import Crond.Proofs.Schedule.Saturation
import Crond.Proofs.Scheduler.JobIds
import Crond.Proofs.Daemon.Transcripts
import Crond.Proofs.Settings.Defaults
