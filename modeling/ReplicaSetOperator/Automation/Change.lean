import ReplicaSetOperator.Automation.Document
import ReplicaSetOperator.Tls.Paths

/-!
# Changes of the document

A `Change` is a named modification of a document. The switch of the TLS mode sets the settings of
the cluster and of every process together; the others each touch one thing. A change of a process
that does not exist changes nothing.
-/

namespace ReplicaSetOperator

/-- The TLS settings of a process in a given mode, with its certificate in a given file. -/
def TlsSettings.running (mode : TlsMode) (file : String) : TlsSettings :=
  match mode with
  | .disabled => {}
  | mode =>
    { mode := mode
      pemKeyFile := Tls.pemKeyFilePath file
      caFile := Tls.caFilePath
      allowConnectionsWithoutCertificates := true }

/-- The TLS settings of a cluster in a given mode. -/
def ClusterTls.running (mode : TlsMode) : ClusterTls :=
  { caFilePath := match mode with
      | .disabled => ""
      | _ => Tls.caFilePath
    clientCertificateMode := .optional }

/-- Puts the cluster and every process into a TLS mode. -/
def Document.switchTls (mode : TlsMode) (file : String) (d : Document) : Document :=
  { d with
    tls := .running mode
    processes := d.processes.map (·.withTls (.running mode file)) }

/-- A modification of a document. -/
inductive Change where
  | tls (mode : TlsMode) (file : String)
  | keep
  | setDownloadBase (path : String)
  | appendDownloadBase (suffix : String)
  | setClientCertificates (mode : ClientCertificates)
  | setCaFilePath (path : String)
  | setProcessTls (index : Nat) (tls : TlsSettings)
  | setProcessVersion (index : Nat) (version : String)
  | dropProcess (index : Nat)
  | setVersion (version : Int64)
deriving DecidableEq, Inhabited

/-- The document after a change. -/
def Change.apply : Change → Document → Document
  | .tls mode file, d => d.switchTls mode file
  | .keep, d => d
  | .setDownloadBase path, d => { d with options := { downloadBase := path } }
  | .appendDownloadBase suffix, d =>
    { d with options := { downloadBase := d.options.downloadBase ++ suffix } }
  | .setClientCertificates mode, d => { d with tls := { d.tls with clientCertificateMode := mode } }
  | .setCaFilePath path, d => { d with tls := { d.tls with caFilePath := path } }
  | .setProcessTls index settings, d =>
    { d with processes := d.processes.modify index (·.withTls settings) }
  | .setProcessVersion index version, d =>
    { d with processes := d.processes.modify index ({ · with version := version }) }
  | .dropProcess index, d => { d with processes := d.processes.eraseIdx index }
  | .setVersion version, d => { d with version := version }

/-- The document after several changes, one after another. -/
def Document.changed (d : Document) (changes : List Change) : Document :=
  changes.foldl (fun d change => change.apply d) d

/-- The states of a document under changes: the first is the document itself. -/
def Document.states (d : Document) : List Change → List Document
  | [] => [d]
  | change :: rest => d :: states (change.apply d) rest

end ReplicaSetOperator
