import LedStrip.Animation.Programs
import LedStrip.Cli.LogFilter
import LedStrip.Cli.Options
import LedStrip.Cli.Session
import LedStrip.Cli.Transcript
import LedStrip.Config.Text
import LedStrip.Disk
import LedStrip.Driver.Controller
import LedStrip.Main
import LedStrip.Matrix.Map
import LedStrip.Matrix.RisingDots
import LedStrip.Play.Scene
import LedStrip.Play.Stage
import LedStrip.Proofs.Animation.Bounce
import LedStrip.Proofs.Animation.Cancellation
import LedStrip.Proofs.Animation.Chase
import LedStrip.Proofs.Animation.Failure
import LedStrip.Proofs.Animation.Flashes
import LedStrip.Proofs.Animation.Programs
import LedStrip.Proofs.Animation.Surfaces
import LedStrip.Proofs.Animation.Travel
import LedStrip.Proofs.Cli.Session
import LedStrip.Proofs.Cli.Show
import LedStrip.Proofs.Cli.Wipe
import LedStrip.Proofs.Config.Numbers
import LedStrip.Proofs.Config.Overlay
import LedStrip.Proofs.Config.RoundTrip
import LedStrip.Proofs.Config.Validation
import LedStrip.Proofs.Driver.Agreement
import LedStrip.Proofs.Driver.Allocations
import LedStrip.Proofs.Driver.Calls
import LedStrip.Proofs.Driver.Code
import LedStrip.Proofs.Driver.Controller
import LedStrip.Proofs.Driver.Device
import LedStrip.Proofs.Driver.Pointers
import LedStrip.Proofs.Driver.Registers
import LedStrip.Proofs.Matrix.Drawing
import LedStrip.Proofs.Matrix.Path
import LedStrip.Proofs.Matrix.RisingDots
import LedStrip.Proofs.Matrix.Symmetry
import LedStrip.Proofs.PixelBuffer.Writes
import LedStrip.Proofs.Play.Stops
import LedStrip.Proofs.RingClock
import LedStrip.Proofs.Simulator.Answers
import LedStrip.Proofs.Simulator.Brightness
import LedStrip.Proofs.Simulator.Failures
import LedStrip.Proofs.Simulator.Newest
import LedStrip.Proofs.Simulator.Recording
import LedStrip.Proofs.Strip.Codes
import LedStrip.Proofs.Strip.Request
import LedStrip.Proofs.Strip.Routing
import LedStrip.Proofs.Strip.Run
import LedStrip.Proofs.Strip.Setup
import LedStrip.Proofs.Strip.Views
import LedStrip.Proofs.StripType.Spellings
import LedStrip.Proofs.StripType.Wire
import LedStrip.RingClock
import LedStrip.Simulator
import LedStrip.Strip.Request
