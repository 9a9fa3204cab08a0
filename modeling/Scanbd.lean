import Scanbd.Sane
import Scanbd.Config
import Scanbd.Compile
import Scanbd.Reference
import Scanbd.Poll
import Scanbd.Numeric
import Scanbd.Environment
import Scanbd.Pass
import Scanbd.Threads
import Scanbd.Invariant
import Scanbd.Races
import Scanbd.Refinement
import Scanbd.Signals
import Scanbd.Safety
import Scanbd.Progress
import Scanbd.Calls
import Scanbd.Devices
import Scanbd.DaemonSafety
import Scanbd.DaemonProgress
import Scanbd.OneDevice
