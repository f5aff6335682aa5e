import ScriptHost.Main
import ScriptHost.Proofs.Boundary.Echo
import ScriptHost.Proofs.Boundary.Rejected
import ScriptHost.Proofs.Boundary.RoundTrip
import ScriptHost.Proofs.Boundary.Slots
import ScriptHost.Proofs.Boundary.Copies
import ScriptHost.Proofs.Callback.ErrorChain
import ScriptHost.Proofs.Callback.Lookup
import ScriptHost.Proofs.Callback.Verdict
import ScriptHost.Proofs.CommandLine.Output
import ScriptHost.Proofs.Config.RoundTrip
import ScriptHost.Proofs.Number.ScriptText
import ScriptHost.Proofs.Realm.NativeKey
import ScriptHost.Proofs.Value.Builder
import ScriptHost.Proofs.Value.Handles
import ScriptHost.Proofs.World.Guards
import ScriptHost.Proofs.World.Isolation
import ScriptHost.Proofs.World.Reentrancy
import ScriptHost.Session.Builders
import ScriptHost.Session.Handles
import ScriptHost.Session.Invocations
import ScriptHost.Session.Steps
import ScriptHost.Session.Values
