import Omdesky.Agent.Session.Fencing
import Omdesky.Agent.Session.Dead
import Omdesky.Agent.Session.Dropped
import Omdesky.Agent.Session.Following
import Omdesky.Agent.Replay
import Omdesky.Agent.RateLimit
import Omdesky.Agent.Authorize.Informed
import Omdesky.Agent.Pairing.SingleUse
import Omdesky.Agent.Pairing.Limits
import Omdesky.Agent.Api.Chords
import Omdesky.Agent.Api.Relay
import Omdesky.Application.Connect.Shortcuts
import Omdesky.Application.Discovery.Order
import Omdesky.Application.Display.Justified
import Omdesky.Application.Target.Names
import Omdesky.Lua.Lexer
import Omdesky.Platform.Chunking
import Omdesky.Platform.Config
import Omdesky.Platform.Desktop.Agreement
import Omdesky.Platform.FocusSignals
import Omdesky.Platform.Input.Mirror
import Omdesky.Platform.Input.Titles
import Omdesky.Platform.Moonlight
import Omdesky.Platform.Process
import Omdesky.Platform.State
import Omdesky.Platform.Sunshine
import Omdesky.Platform.SessionRecord
import Omdesky.Protocol.Wire
import Omdesky.Protocol.Release
import Omdesky.Platform.AgentClient.Response
import Omdesky.Platform.Access.Document
import Omdesky.Platform.Access.Laws
import Omdesky.Platform.Access.Limit
import Omdesky.Platform.Access.Processes
import Omdesky.CallbackAccess
import Omdesky.Cli.Access
import Omdesky.Cli.Fix
import Omdesky.Cli.Invocation
import Omdesky.Cli.Show
import Omdesky.Heartbeat
import Omdesky.Roles
import Omdesky.Scan.Scanner
import Omdesky.Shell.Line
import Omdesky.StreamWindow
import Omdesky.Text.Sanitize
import Omdesky.Tui.Allow
import Omdesky.Tui.Generations
import Omdesky.Tui.Quit
import Omdesky.Application.Connect.Discipline
import Omdesky.Application.Connect.Monitor
import Omdesky.Scan.Template
import Omdesky.Collections.Layout
import Omdesky.Tui.Wrap
import Omdesky.Collections.Fewest
import Omdesky.Tui.Fewest
import Omdesky.Tui.Lifetime
import Omdesky.Errors
import Omdesky.Tui.Provenance
import Omdesky.Cli.Sessions
import Omdesky.Platform.Environment
import Omdesky.Collections.Turning
import Omdesky.Tui.Settings
import Omdesky.Interaction.Owning
import Omdesky.Platform.Writers
import Omdesky.Platform.Launcher
import Omdesky.Platform.Omarchy
import Omdesky.Agent.Main
import Omdesky.Interaction.Journal
import Omdesky.Agent.Api.Pins
import Omdesky.Interaction.Restart
import Omdesky.Platform.Identity
import Omdesky.Application.Connect.Pairing
import Omdesky.Platform.Moonlight.Pairing
import Omdesky.Platform.Input.Selectors
