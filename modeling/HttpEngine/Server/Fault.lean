import HttpEngine.Address.Text
import HttpEngine.IoFault
import HttpEngine.Limits

/-!
# Why a server does not run

A server can fail while it is set up, while it is started, or while it accepts
connections. A fault that comes from the operating system carries the reason;
a refused configuration speaks for itself.
-/

namespace HttpEngine

/-- Why a server does not run. -/
inductive ServerFault where
  /-- The address could not be bound. -/
  | bind (address : SocketAddress) (reason : IoFault)
  /-- The workers could not be started. -/
  | runtime (reason : IoFault)
  /-- The heartbeat could not be started. -/
  | heartbeat (reason : IoFault)
  /-- The configuration was refused. -/
  | config (fault : ConfigFault)
  /-- Accepting connections ended abnormally. -/
  | acceptLoop
deriving Repr, DecidableEq

namespace ServerFault

/-- The name of a fault. -/
def label : ServerFault → String
  | .bind _ _ => "Bind"
  | .runtime _ => "Runtime"
  | .heartbeat _ => "Heartbeat"
  | .config fault => fault.label
  | .acceptLoop => "AcceptLoop"

/-- The description of a fault. -/
def message : ServerFault → String
  | .bind address reason => "failed to bind " ++ address.text ++ ": " ++ reason.text
  | .runtime reason => "failed to build the runtime: " ++ reason.text
  | .heartbeat reason => "failed to start the heartbeat thread: " ++ reason.text
  | .config fault => fault.message
  | .acceptLoop => "accept loop terminated abnormally"

/-- The reason of the operating system, when there is one. -/
def reason? : ServerFault → Option IoFault
  | .bind _ reason => some reason
  | .runtime reason => some reason
  | .heartbeat reason => some reason
  | .config _ => none
  | .acceptLoop => none

end ServerFault
end HttpEngine
