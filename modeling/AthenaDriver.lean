import AthenaDriver.Go
import AthenaDriver.Time
import AthenaDriver.Config
import AthenaDriver.Interpolate
import AthenaDriver.Reference
import AthenaDriver.Placeholders
import AthenaDriver.TimeLiteral
import AthenaDriver.Remote
import AthenaDriver.Connection
import AthenaDriver.Run
import AthenaDriver.PollLoop
import AthenaDriver.PollResult
import AthenaDriver.Protocol
import AthenaDriver.Checks
import AthenaDriver.Errors
import AthenaDriver.PseudoCommands
import AthenaDriver.Memoizer
import AthenaDriver.Cost
import AthenaDriver.Cancelled
import AthenaDriver.Process
import AthenaDriver.Parameters
import AthenaDriver.Rows
import AthenaDriver.Pacing
import AthenaDriver.Request
