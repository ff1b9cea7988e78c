import AlbListener.Text.Blank
import AlbListener.Text.Digit
import AlbListener.Text.Lines
import AlbListener.Text.Printable
import AlbListener.Text.Quoted
import AlbListener.Text.Bytes
import AlbListener.Text.Radix
import AlbListener.Text.Control
import AlbListener.Text.Uppercase
import AlbListener.Calendar.Moment
import AlbListener.Calendar.Instant
import AlbListener.Binary64.Text
import AlbListener.Binary64.Arithmetic
import AlbListener.Json.Access
import AlbListener.Json.Display
import AlbListener.Json.Printer
import AlbListener.Json.Reader
import AlbListener.Document
import AlbListener.Action.Document
import AlbListener.Listener.Drift
import AlbListener.Request.Build
import AlbListener.Event.Bus
import AlbListener.Request.Load
import AlbListener.Cloud.Fleet
import AlbListener.Reconciler
import AlbListener.Settings
import AlbListener.Sorting.Fallible
import AlbListener.Table.Grid
import AlbListener.Yaml.Printer
import AlbListener.Yaml.Reader
import AlbListener.Yaml.Document
import AlbListener.Command.Files
import AlbListener.Main
import AlbListener.Proofs.Request.Failures
import AlbListener.Proofs.Request.Load
import AlbListener.Proofs.Reconciler.Update
import AlbListener.Proofs.Reconciler.Convergence
import AlbListener.Proofs.Request.Accepts
import AlbListener.Proofs.Reconciler.History
import AlbListener.Proofs.Command.Agreement
import AlbListener.Proofs.Event.Delivery
import AlbListener.Proofs.Action.Observed
import AlbListener.Proofs.Listener.Respelled
import AlbListener.Proofs.Secret.Command
import AlbListener.Proofs.Action.Unmanaged
import AlbListener.Proofs.Ingress.Annotations
import AlbListener.Proofs.Listener.Overwritten
import AlbListener.Proofs.Reconciler.Unexpressed
import AlbListener.Proofs.Action.Frozen
import AlbListener.Proofs.Request.TargetGroups
import AlbListener.Proofs.Listener.Differences
import AlbListener.Proofs.Listener.Reported
import AlbListener.Proofs.Event.Isolation
import AlbListener.Proofs.Request.Inputs
import AlbListener.Proofs.Request.Built
import AlbListener.Proofs.Command.Watch
import AlbListener.Proofs.Action.Unset
import AlbListener.Proofs.Cloud.Paging
import AlbListener.Proofs.Command.Render
import AlbListener.Proofs.Request.Breaches
import AlbListener.Proofs.Settings
