import Simulcast.Time
import Simulcast.Text.Basic
import Simulcast.Text.Case
import Simulcast.Text.Quoted
import Simulcast.Binary64.Decimal
import Simulcast.Json.Printer
import Simulcast.Json.Reader
import Simulcast.Remote.Simulated
import Simulcast.Remote.Http
import Simulcast.Session
import Simulcast.Output
import Simulcast.Channel.Error
import Simulcast.Studio
import Simulcast.Yaml.Property
import Simulcast.Yaml.Scalar
import Simulcast.Config.Section
import Simulcast.Config.Folder
import Simulcast.Yaml.Value
import Simulcast.Proofs.Backup.Sound
import Simulcast.Proofs.Backup.Cycles
import Simulcast.Proofs.Backup.Removal
import Simulcast.Proofs.Studio.Runs
import Simulcast.Proofs.Run.Broadcast
import Simulcast.Proofs.Channel.PreviewStatus
import Simulcast.Proofs.Channel.Healthy
import Simulcast.Proofs.Channel.Refusals
import Simulcast.Proofs.Studio.Refusals
import Simulcast.Proofs.Session.Attempts
import Simulcast.Proofs.Session.Backoff
import Simulcast.Proofs.Session.Window
import Simulcast.Proofs.Session.Fallback
import Simulcast.Proofs.Session.Renewal
import Simulcast.Proofs.Run.Isolation
import Simulcast.Proofs.Run.Keys
import Simulcast.Proofs.Channel.Failures
import Simulcast.Proofs.Config.KeyCase
import Simulcast.Proofs.Channel.Rearming
import Simulcast.Proofs.Channel.Reconnecting
import Simulcast.Proofs.Failover.Moving
import Simulcast.Proofs.Failover.Swapping
import Simulcast.Proofs.Failover.Automatic
import Simulcast.Proofs.Live.Encoding
import Simulcast.Proofs.Live.Bulk
import Simulcast.Proofs.Run.Starting
import Simulcast.Proofs.Run.Stopping
import Simulcast.Proofs.Studio.Expiry
import Simulcast.Proofs.Studio.Bulk
import Simulcast.Proofs.Config.Reordering
import Simulcast.Proofs.Config.Merging
import Simulcast.Proofs.Encoding.Options
import Simulcast.Proofs.Remote.Requests
import Simulcast.Proofs.Config.Credentials
import Simulcast.Proofs.Channel.Positions
