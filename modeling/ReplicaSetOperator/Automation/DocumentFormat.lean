import ReplicaSetOperator.Automation.Document
import ReplicaSetOperator.Json.Printer
import ReplicaSetOperator.Json.Reader

/-!
# The text of the automation document

The JSON form of a `Document`: members in the order of declaration, the feature compatibility
version left out where there is none, and of the TLS settings of a process the empty files and a
false permission. `Document.text` writes it and `Document.parse` reads it back from a text,
`Document.ofBytes` from the octets of one.
-/

namespace ReplicaSetOperator

/-- Some value unless a text is empty. -/
def Json.ofNonempty (s : String) : Option Json :=
  if s.isEmpty then none else some (.string s)

namespace TlsMode

/-- The names of the modes. -/
def names : List (String × TlsMode) :=
  [("disabled", .disabled), ("preferTLS", .preferred), ("requireTLS", .required)]

/-- A mode is written by its name. -/
def format : Format TlsMode := Enumeration.format names

end TlsMode

namespace ClientCertificates

/-- The names of the two settings. -/
def names : List (String × ClientCertificates) :=
  [("OPTIONAL", .optional), ("REQUIRE", .require)]

/-- A setting is written by its name. -/
def format : Format ClientCertificates := Enumeration.format names

end ClientCertificates

namespace TlsSettings

/-- The members of the settings. -/
def names : List String :=
  ["mode", "PEMKeyFile", "CAFile", "allowConnectionsWithoutCertificates"]

/-- Only the mode has to be there; what is empty or false is not written. -/
def format : Format TlsSettings where
  fault := Record.fault
    [TlsMode.format.rule "mode", Format.string.rule "PEMKeyFile" .defaulted,
     Format.string.rule "CAFile" .defaulted,
     Format.bool.rule "allowConnectionsWithoutCertificates" .defaulted]
  read j :=
    { mode := TlsMode.format.readField names "mode" default j
      pemKeyFile := Format.string.readField names "PEMKeyFile" "" j
      caFile := Format.string.readField names "CAFile" "" j
      allowConnectionsWithoutCertificates :=
        Format.bool.readField names "allowConnectionsWithoutCertificates" false j }
  write s := Record.ordered
    [("mode", some (TlsMode.format.write s.mode)),
     ("PEMKeyFile", Json.ofNonempty s.pemKeyFile),
     ("CAFile", Json.ofNonempty s.caFile),
     ("allowConnectionsWithoutCertificates",
      if s.allowConnectionsWithoutCertificates then some (.bool true) else none)]

end TlsSettings

namespace Net

/-- The members of the settings. -/
def names : List String := ["port", "tls"]

/-- Without TLS settings TLS is disabled. -/
def format : Format Net where
  fault := Record.fault
    [Format.int32.rule "port", TlsSettings.format.rule "tls" .defaulted]
  read j :=
    { port := Format.int32.readField names "port" 0 j
      tls := TlsSettings.format.readField names "tls" {} j }
  write n := Record.ordered
    [("port", some (Format.int32.write n.port)), ("tls", some (TlsSettings.format.write n.tls))]

end Net

/-- The name of the replica set is the only setting. -/
def Replication.format : Format Replication where
  fault := Record.fault [Format.string.rule "replSetName"]
  read j := ⟨Format.string.readField ["replSetName"] "replSetName" "" j⟩
  write r := Record.ordered [("replSetName", some (.string r.replSetName))]

/-- The path of the data is the only setting. -/
def Storage.format : Format Storage where
  fault := Record.fault [Format.string.rule "dbPath"]
  read j := ⟨Format.string.readField ["dbPath"] "dbPath" "" j⟩
  write s := Record.ordered [("dbPath", some (.string s.dbPath))]

namespace Arguments

/-- The members of the settings. -/
def names : List String := ["net", "replication", "storage"]

/-- All three groups of settings have to be there. -/
def format : Format Arguments where
  fault := Record.fault
    [Net.format.rule "net", Replication.format.rule "replication", Storage.format.rule "storage"]
  read j :=
    { net := Net.format.readField names "net" default j
      replication := Replication.format.readField names "replication" default j
      storage := Storage.format.readField names "storage" default j }
  write a := Record.ordered
    [("net", some (Net.format.write a.net)),
     ("replication", some (Replication.format.write a.replication)),
     ("storage", some (Storage.format.write a.storage))]

end Arguments

namespace Process

/-- The members of a process. -/
def names : List String :=
  ["name", "hostname", "args2_6", "featureCompatibilityVersion", "processType", "version",
   "authSchemaVersion"]

/-- The feature compatibility version may be absent or null. -/
def format : Format Process where
  fault := Record.fault
    [Format.string.rule "name", Format.string.rule "hostname", Arguments.format.rule "args2_6",
     Format.string.option.rule "featureCompatibilityVersion" .optional,
     Format.string.rule "processType", Format.string.rule "version",
     Format.int32.rule "authSchemaVersion"]
  read j :=
    { name := Format.string.readField names "name" "" j
      hostName := Format.string.readField names "hostname" "" j
      arguments := Arguments.format.readField names "args2_6" default j
      featureCompatibilityVersion :=
        Format.string.option.readField names "featureCompatibilityVersion" none j
      processType := Format.string.readField names "processType" "" j
      version := Format.string.readField names "version" "" j
      authSchemaVersion := Format.int32.readField names "authSchemaVersion" 0 j }
  write p := Record.ordered
    [("name", some (.string p.name)), ("hostname", some (.string p.hostName)),
     ("args2_6", some (Arguments.format.write p.arguments)),
     ("featureCompatibilityVersion", p.featureCompatibilityVersion.map .string),
     ("processType", some (.string p.processType)), ("version", some (.string p.version)),
     ("authSchemaVersion", some (Format.int32.write p.authSchemaVersion))]

end Process

namespace ClusterTls

/-- The members of the settings. -/
def names : List String := ["CAFilePath", "clientCertificateMode"]

/-- Without a path of the CA file the path is empty. -/
def format : Format ClusterTls where
  fault := Record.fault
    [Format.string.rule "CAFilePath" .defaulted,
     ClientCertificates.format.rule "clientCertificateMode"]
  read j :=
    { caFilePath := Format.string.readField names "CAFilePath" "" j
      clientCertificateMode :=
        ClientCertificates.format.readField names "clientCertificateMode" default j }
  write t := Record.ordered
    [("CAFilePath", some (.string t.caFilePath)),
     ("clientCertificateMode", some (ClientCertificates.format.write t.clientCertificateMode))]

end ClusterTls

namespace Member

/-- The members of a member. -/
def names : List String := ["_id", "host", "priority", "arbiterOnly", "votes"]

/-- Everything has to be there. -/
def format : Format Member where
  fault := Record.fault
    [Format.uint64.rule "_id", Format.string.rule "host", Format.single.rule "priority",
     Format.bool.rule "arbiterOnly", Format.int32.rule "votes"]
  read j :=
    { id := Format.uint64.readField names "_id" 0 j
      host := Format.string.readField names "host" "" j
      priority := Format.single.readField names "priority" (.zero false) j
      arbiterOnly := Format.bool.readField names "arbiterOnly" false j
      votes := Format.int32.readField names "votes" 0 j }
  write m := Record.ordered
    [("_id", some (Format.uint64.write m.id)), ("host", some (.string m.host)),
     ("priority", some (Format.single.write m.priority)),
     ("arbiterOnly", some (.bool m.arbiterOnly)),
     ("votes", some (Format.int32.write m.votes))]

end Member

namespace ReplicaSet

/-- The members of a replica set. -/
def names : List String := ["_id", "members", "protocolVersion"]

/-- Everything has to be there. -/
def format : Format ReplicaSet where
  fault := Record.fault
    [Format.string.rule "_id", Member.format.list.rule "members",
     Format.string.rule "protocolVersion"]
  read j :=
    { id := Format.string.readField names "_id" "" j
      members := Member.format.list.readField names "members" [] j
      protocolVersion := Format.string.readField names "protocolVersion" "" j }
  write r := Record.ordered
    [("_id", some (.string r.id)), ("members", some (Member.format.list.write r.members)),
     ("protocolVersion", some (.string r.protocolVersion))]

end ReplicaSet

/-- Whether authentication is disabled is the only setting. -/
def Auth.format : Format Auth where
  fault := Record.fault [Format.bool.rule "disabled"]
  read j := ⟨Format.bool.readField ["disabled"] "disabled" false j⟩
  write a := Record.ordered [("disabled", some (.bool a.disabled))]

/-- The directory of downloads is the only option. -/
def Options.format : Format Options where
  fault := Record.fault [Format.string.rule "downloadBase"]
  read j := ⟨Format.string.readField ["downloadBase"] "downloadBase" "" j⟩
  write o := Record.ordered [("downloadBase", some (.string o.downloadBase))]

namespace Document

/-- The members of the document. -/
def names : List String := ["version", "processes", "replicaSets", "auth", "tls", "options"]

/-- Everything has to be there. -/
def format : Format Document where
  fault := Record.fault
    [Format.int64.rule "version", Process.format.list.rule "processes",
     ReplicaSet.format.list.rule "replicaSets", Auth.format.rule "auth",
     ClusterTls.format.rule "tls", Options.format.rule "options"]
  read j :=
    { version := Format.int64.readField names "version" 0 j
      processes := Process.format.list.readField names "processes" [] j
      replicaSets := ReplicaSet.format.list.readField names "replicaSets" [] j
      auth := Auth.format.readField names "auth" default j
      tls := ClusterTls.format.readField names "tls" default j
      options := Options.format.readField names "options" default j }
  write d := Record.ordered
    [("version", some (Format.int64.write d.version)),
     ("processes", some (Process.format.list.write d.processes)),
     ("replicaSets", some (ReplicaSet.format.list.write d.replicaSets)),
     ("auth", some (Auth.format.write d.auth)), ("tls", some (ClusterTls.format.write d.tls)),
     ("options", some (Options.format.write d.options))]

/-- The text of a document. -/
def text (d : Document) : String :=
  (format.write d).text

/-- The document of a value that has been read, or the first thing that is wrong with it in
document order. Only blanks may follow the document. -/
def ofRead (read : Json × Bool) : Except DecodeError Document :=
  match format.decode .text read.1 with
  | .error e => .error e
  | .ok d => if read.2 then .error .malformed else .ok d

/-- The document of a text. -/
def parse (text : String) : Except DecodeError Document := ofRead (Json.read text.toList)

/-- The document of a text given by its octets. Octets that are no text are passed over where a
string is passed over. -/
def ofBytes (b : Bytes) : Except DecodeError Document :=
  match b.text? with
  | some s => parse s
  | none => ofRead (Json.readOctets b.chars)

end Document

end ReplicaSetOperator
