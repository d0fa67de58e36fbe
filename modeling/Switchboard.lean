import Switchboard.Main
import Switchboard.Call.Scripted
import Switchboard.Sample.Extension
import Switchboard.Sample.Reflector
import Switchboard.Proofs.Dispatch.Fallback
import Switchboard.Proofs.Call.Failures
import Switchboard.Proofs.Dispatch.Errors
import Switchboard.Proofs.Config.Build
import Switchboard.Proofs.Config.Settings
import Switchboard.Proofs.Config.Loading
import Switchboard.Proofs.Config.Isolation
import Switchboard.Proofs.Bench.Calls
import Switchboard.Proofs.Bench.Posts
import Switchboard.Proofs.Json.Printed
import Switchboard.Proofs.Json.Quoted
import Switchboard.Proofs.Json.Numbers
import Switchboard.Proofs.Json.RoundTrip
import Switchboard.Proofs.Native.Boundary
import Switchboard.Proofs.Call.Replies
import Switchboard.Proofs.Call.Echo
import Switchboard.Proofs.Network.Server
import Switchboard.Proofs.Program.Run
import Switchboard.Proofs.Toml.Literal
import Switchboard.Proofs.Url.Path
import Switchboard.Proofs.Network.Endpoint
import Switchboard.Proofs.Network.Confinement
import Switchboard.Proofs.Network.Base
import Switchboard.Proofs.Toml.Sound
import Switchboard.Proofs.Config.Acceptance
import Switchboard.Proofs.Native.Acceptance
import Switchboard.Proofs.Dispatch.Registry
import Switchboard.Proofs.Dispatch.Payload
import Switchboard.Proofs.Dispatch.Hint
import Switchboard.Proofs.Native.Detection
import Switchboard.Proofs.Bench.Rendering
import Switchboard.Proofs.Call.Forms
import Switchboard.Proofs.Call.Causes
import Switchboard.Proofs.Call.History
import Switchboard.Proofs.Dispatch.Warnings
