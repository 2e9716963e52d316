import Mathlib.Order.Basic

/-!
# The Workspace Manager's Messages

The part of the workspace manager's interface that its clients in this
development read. A field that a message leaves out is `none` where the field
is a message itself, and empty otherwise.

## Main definitions

* `PortVisibility`, `PortSpec`: An exposed port.
* `AdmissionLevel`, `WorkspaceAuthentication`: Who may access a workspace.
* `WorkspaceStatus`: What the manager reports about a workspace.
-/

namespace Nxpod

namespace WsManager

/-- Who may come to a port: those who may come to the workspace, or everyone. -/
inductive PortVisibility where
  | portVisibilityPrivate
  | portVisibilityPublic
  deriving DecidableEq

/-- A port as it is reported to clients. -/
structure PortSpec where
  port : UInt32
  visibility : PortVisibility
  url : String := ""
  deriving DecidableEq

/-- Who may come to a workspace. -/
inductive AdmissionLevel where
  | admitOwnerOnly
  | admitEveryone
  deriving DecidableEq

/-- What a visitor has to show. -/
structure WorkspaceAuthentication where
  admission : AdmissionLevel
  ownerToken : String
  deriving DecidableEq

/-- The status of a workspace instance. `metaId` is the ID of the workspace
    and `url` the one of its specification. -/
structure WorkspaceStatus where
  id : String
  metaId : String
  url : String
  exposedPorts : List PortSpec
  auth : Option WorkspaceAuthentication

end WsManager

end Nxpod
