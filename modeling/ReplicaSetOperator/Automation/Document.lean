import ReplicaSetOperator.Json.Format

/-!
# The automation document

The document that the agents of a replica set read: the processes with their network, storage and
TLS settings, the replica sets they form, and the settings of the whole cluster. `Document.same`
is the equality that decides whether a document has changed; it compares priorities as numbers,
so the sign of a zero does not count, and a document with a priority that is no number has always
changed.
-/

namespace ReplicaSetOperator

/-- How strictly a process asks for TLS on its connections. -/
inductive TlsMode where
  | disabled
  | preferred
  | required
deriving DecidableEq, Inhabited

/-- The name of the mode in messages. -/
def TlsMode.label : TlsMode → String
  | .disabled => "Disabled"
  | .preferred => "Preferred"
  | .required => "Required"

/-- The TLS settings of a process. -/
structure TlsSettings where
  mode : TlsMode := .disabled
  pemKeyFile : String := ""
  caFile : String := ""
  allowConnectionsWithoutCertificates : Bool := false
deriving DecidableEq, Inhabited

/-- The network settings of a process. -/
structure Net where
  port : Int32
  tls : TlsSettings := {}
deriving DecidableEq, Inhabited

/-- The replication settings of a process. -/
structure Replication where
  replSetName : String
deriving DecidableEq, Inhabited

/-- The storage settings of a process. -/
structure Storage where
  dbPath : String
deriving DecidableEq, Inhabited

/-- The settings that a process is started with. -/
structure Arguments where
  net : Net
  replication : Replication
  storage : Storage
deriving DecidableEq, Inhabited

/-- One database process. -/
structure Process where
  name : String
  hostName : String
  arguments : Arguments
  featureCompatibilityVersion : Option String
  processType : String
  version : String
  authSchemaVersion : Int32
deriving DecidableEq, Inhabited

/-- The TLS settings of a process. -/
abbrev Process.tls (p : Process) : TlsSettings := p.arguments.net.tls

/-- The process with other TLS settings. -/
def Process.withTls (p : Process) (tls : TlsSettings) : Process :=
  { p with arguments := { p.arguments with net := { p.arguments.net with tls := tls } } }

/-- Whether clients have to show a certificate. -/
inductive ClientCertificates where
  | optional
  | require
deriving DecidableEq, Inhabited

/-- The TLS settings of the whole cluster. -/
structure ClusterTls where
  caFilePath : String := ""
  clientCertificateMode : ClientCertificates := .optional
deriving DecidableEq, Inhabited

/-- A member of a replica set. -/
structure Member where
  id : UInt64
  host : String
  priority : Binary
  arbiterOnly : Bool
  votes : Int32
deriving DecidableEq, Inhabited

/-- A replica set. -/
structure ReplicaSet where
  id : String
  members : List Member
  protocolVersion : String
deriving DecidableEq, Inhabited

/-- The authentication settings of the cluster. -/
structure Auth where
  disabled : Bool := true
deriving DecidableEq, Inhabited

/-- Where the agents keep what they download. -/
structure Options where
  downloadBase : String := "/var/lib/mongodb-mms-automation"
deriving DecidableEq, Inhabited

/-- The document that the agents read. -/
structure Document where
  version : Int64
  processes : List Process
  replicaSets : List ReplicaSet
  auth : Auth := {}
  tls : ClusterTls := {}
  options : Options := {}
deriving DecidableEq, Inhabited

namespace Document

/-- The document with the signs of zero priorities forgotten. -/
def unsigned (d : Document) : Document :=
  { d with
    replicaSets := d.replicaSets.map fun r =>
      { r with members := r.members.map fun m => { m with priority := m.priority.unsigned } } }

/-- Whether every priority is a number. -/
def isDefinite (d : Document) : Bool :=
  d.replicaSets.all fun r => r.members.all fun m => m.priority.isNumber

/-- Whether two documents say the same, priorities compared as numbers. -/
def same (a b : Document) : Bool :=
  a.isDefinite && a.unsigned = b.unsigned

end Document

end ReplicaSetOperator
