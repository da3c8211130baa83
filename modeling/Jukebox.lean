import Jukebox.Cache.Recent
import Jukebox.Command
import Jukebox.Config
import Jukebox.Embed
import Jukebox.Intake
import Jukebox.Loader.Extractor
import Jukebox.Loader.Probe
import Jukebox.Loader.Route
import Jukebox.Metrics
import Jukebox.Player.Roster
import Jukebox.Proofs.Attribution
import Jukebox.Proofs.Avoidance
import Jukebox.Proofs.Balance
import Jukebox.Proofs.Cache.Accounts
import Jukebox.Proofs.Cache.Age
import Jukebox.Proofs.Cache.Hits
import Jukebox.Proofs.Cache.Latest
import Jukebox.Proofs.Cache.Recent
import Jukebox.Proofs.Cache.Selection
import Jukebox.Proofs.Cache.Supersession
import Jukebox.Proofs.Chronicle
import Jukebox.Proofs.Classification
import Jukebox.Proofs.Cooldown
import Jukebox.Proofs.Event
import Jukebox.Proofs.Fingerprint
import Jukebox.Proofs.Intake
import Jukebox.Proofs.LateLoad
import Jukebox.Proofs.Loader.ErrorStatus
import Jukebox.Proofs.Loader.ResponseStatus
import Jukebox.Proofs.Memory
import Jukebox.Proofs.Ownership
import Jukebox.Proofs.Player.Batch
import Jukebox.Proofs.Player.Invariant
import Jukebox.Proofs.Player.Queue
import Jukebox.Proofs.Repetition
import Jukebox.Proofs.Session.Legible
import Jukebox.Proofs.Session.Replay
import Jukebox.Proofs.Session.Restart
import Jukebox.Proofs.SilentShelf
import Jukebox.Proofs.Throttling
import Jukebox.Proofs.Track.Blob
import Jukebox.Proofs.Track.Delimited
import Jukebox.Proofs.Transparency
import Jukebox.Proofs.Url.WrittenHost
import Jukebox.Session.Store
import Jukebox.Track.Blob
import Jukebox.Proofs.Text.SpanTable
import Jukebox.Proofs.Url.DomainName
import Jukebox.Proofs.Session.Alias
import Jukebox.Proofs.Command
import Jukebox.Proofs.Loader.StreamFlag
