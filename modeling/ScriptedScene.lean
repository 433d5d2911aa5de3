import ScriptedScene.Host.Exchange
import ScriptedScene.Main
import ScriptedScene.Scene.Codec
import ScriptedScene.Host.Embedder
import ScriptedScene.Host.Calls
import ScriptedScene.Thread
import ScriptedScene.Proofs.Scene.Values
import ScriptedScene.Proofs.Scene.Index
import ScriptedScene.Proofs.Scene.History
import ScriptedScene.Proofs.Scene.Ids
import ScriptedScene.Proofs.Binary.Exact
import ScriptedScene.Proofs.Clock.Drift
import ScriptedScene.Proofs.Guest.Calls
import ScriptedScene.Proofs.Guest.Numbers
import ScriptedScene.Proofs.Guest.Lights
import ScriptedScene.Proofs.Guest.Console
import ScriptedScene.Proofs.Host.Reachable
import ScriptedScene.Proofs.Host.Reports
import ScriptedScene.Proofs.Host.Diagnostics
import ScriptedScene.Proofs.Host.Counting
import ScriptedScene.Proofs.Host.Lockstep
import ScriptedScene.Proofs.Host.Nesting
import ScriptedScene.Proofs.Host.Recovery
import ScriptedScene.Proofs.Host.Hook
import ScriptedScene.Proofs.Host.Lights
import ScriptedScene.Proofs.Host.Console
import ScriptedScene.Proofs.Boundary.Nesting
import ScriptedScene.Proofs.Text.Bytes
import ScriptedScene.Proofs.Boundary.Sources
import ScriptedScene.Proofs.Json.Grammar
import ScriptedScene.Proofs.Json.Tokens
import ScriptedScene.Proofs.Json.Skipping
import ScriptedScene.Proofs.Json.Values
import ScriptedScene.Proofs.Json.Scalars
import ScriptedScene.Proofs.Json.Records
import ScriptedScene.Proofs.Json.Writing
import ScriptedScene.Proofs.Config.Format
import ScriptedScene.Proofs.Config.RoundTrip
import ScriptedScene.Proofs.Config.Truncation
import ScriptedScene.Proofs.Json.Unambiguous
import ScriptedScene.Proofs.Json.Floats
import ScriptedScene.Proofs.Scene.Format
import ScriptedScene.Proofs.Scene.RoundTrip
import ScriptedScene.Proofs.Guest.Objects
import ScriptedScene.Proofs.Guest.Realm
import ScriptedScene.Proofs.Guest.Definition
import ScriptedScene.Proofs.Guest.Lineage
import ScriptedScene.Proofs.Guest.Arguments
import ScriptedScene.Proofs.Guest.Borrow
import ScriptedScene.Proofs.Host.Borrow
import ScriptedScene.Proofs.Host.Modules
import ScriptedScene.Proofs.Host.Creation
import ScriptedScene.Proofs.Host.Names
import ScriptedScene.Proofs.Host.Registrar
import ScriptedScene.Proofs.Command.Course
