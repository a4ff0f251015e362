import Hotspot.Main
import Hotspot.Overlay.Given
import Hotspot.Proofs.CommandLine.Safety
import Hotspot.Proofs.Config.Canonical
import Hotspot.Proofs.Store.Opening
import Hotspot.Proofs.Store.Restart
import Hotspot.Proofs.Store.Secrecy
import Hotspot.Proofs.Config.Delimited
import Hotspot.Proofs.Config.Meaning
import Hotspot.Proofs.Config.Versions
import Hotspot.Proofs.Store.Migration
import Hotspot.Proofs.CommandLine.Persistence
import Hotspot.Proofs.Text.Grammar
import Hotspot.Proofs.Store.Interference
import Hotspot.Proofs.Store.Notices
import Hotspot.Proofs.Config.Storable
import Hotspot.Proofs.Store.Checking
import Hotspot.Proofs.Concurrency.Joining
import Hotspot.Proofs.Concurrency.Values
import Hotspot.Proofs.Concurrency.LastLine
import Hotspot.Proofs.Concurrency.Skipping
import Hotspot.Proofs.Config.Refusals
import Hotspot.Proofs.Store.Defaults
import Hotspot.Proofs.Overlay.Channels
import Hotspot.Proofs.Log.Line
import Hotspot.Proofs.Store.Origins
import Hotspot.Proofs.CommandLine.Agreement
import Hotspot.Proofs.Interface
import Hotspot.Proofs.Config.Keys
import Hotspot.Proofs.CommandLine.Levels
