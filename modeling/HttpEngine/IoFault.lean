/-!
# Faults of the operating system

An operation on the network can fail for a reason of the operating system. The
reason has a kind, which programs tell apart, and a text for people.
-/

namespace HttpEngine

/-- The kinds of reasons that matter to a server. -/
inductive IoKind where
  | addressNotAvailable
  | addressInUse
  | connectionReset
  | connectionRefused
  | networkUnreachable
  | other
deriving Repr, DecidableEq

/-- The name of a kind. -/
def IoKind.label : IoKind → String
  | .addressNotAvailable => "AddrNotAvailable"
  | .addressInUse => "AddrInUse"
  | .connectionReset => "ConnectionReset"
  | .connectionRefused => "ConnectionRefused"
  | .networkUnreachable => "NetworkUnreachable"
  | .other => "Other"

/-- A reason for a failure. -/
structure IoFault where
  kind : IoKind
  text : String
deriving Repr, DecidableEq

namespace IoFault

/-- No interface of the machine has the address. -/
def addressNotAvailable : IoFault :=
  ⟨.addressNotAvailable, "Cannot assign requested address (os error 99)"⟩

/-- Another listener holds the address and the port. -/
def addressInUse : IoFault :=
  ⟨.addressInUse, "Address already in use (os error 98)"⟩

/-- The peer has broken the connection off. -/
def connectionReset : IoFault :=
  ⟨.connectionReset, "Connection reset by peer (os error 104)"⟩

/-- Nobody listens at the address. -/
def connectionRefused : IoFault :=
  ⟨.connectionRefused, "Connection refused (os error 111)"⟩

/-- No way leads to the address. -/
def networkUnreachable : IoFault :=
  ⟨.networkUnreachable, "Network is unreachable (os error 101)"⟩

end IoFault
end HttpEngine
