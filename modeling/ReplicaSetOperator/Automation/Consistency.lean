import ReplicaSetOperator.Automation.Document
import ReplicaSetOperator.Text.Quoted

/-!
# Consistency of the TLS settings

A document is consistent when clients need no certificate, every process has either no TLS
setting at all or all of them, and the path of the CA file is set exactly when the processes run
with TLS. `Document.inconsistency?` is the first violation: the mode of client certificates, then
the processes in order, for each of them its own settings before the path.
-/

namespace ReplicaSetOperator

/-- A violation of the consistency of a document. -/
inductive Inconsistency where
  | clientCertificateMode
  | settings (process : String) (tls : TlsSettings)
  | caFilePath (process : String) (mode : TlsMode) (path : String)
deriving DecidableEq, Inhabited

/-- The TLS settings of a process as they stand in messages. -/
def TlsSettings.label (s : TlsSettings) : String :=
  String.join
    ["MongoDbTls \x7b mode: ", s.mode.label, ", pem_key_file: ", Quoted.text s.pemKeyFile,
     ", ca_file: ", Quoted.text s.caFile, ", allow_connections_without_certificate: ",
     if s.allowConnectionsWithoutCertificates then "true" else "false", " \x7d"]

/-- The message of a violation. -/
def Inconsistency.message : Inconsistency → String
  | .clientCertificateMode => "clientCertificateMode must be OPTIONAL"
  | .settings process tls =>
    String.join ["process ", process, " has inconsistent TLS settings: ", tls.label]
  | .caFilePath process mode path =>
    String.join ["process ", process, " runs TLS mode ", mode.label,
      " but cluster CAFilePath is ", Quoted.text path]

/-- Whether the settings are all empty for a disabled mode, and all given for another one. -/
def TlsSettings.consistent (s : TlsSettings) : Bool :=
  match s.mode with
  | .disabled =>
    s.pemKeyFile.isEmpty && s.caFile.isEmpty && !s.allowConnectionsWithoutCertificates
  | .preferred | .required =>
    !s.pemKeyFile.isEmpty && !s.caFile.isEmpty && s.allowConnectionsWithoutCertificates

/-- The first violation of a process in a cluster with a given path of the CA file. -/
def Process.inconsistency? (caFilePath : String) (p : Process) : Option Inconsistency :=
  if !p.tls.consistent then some (.settings p.name p.tls)
  else if decide (p.tls.mode = .disabled) != caFilePath.isEmpty then
    some (.caFilePath p.name p.tls.mode caFilePath)
  else none

namespace Document

/-- The first violation of a document. -/
def inconsistency? (d : Document) : Option Inconsistency :=
  if d.tls.clientCertificateMode ≠ .optional then some .clientCertificateMode
  else d.processes.findSome? (Process.inconsistency? d.tls.caFilePath)

/-- Accepts consistent documents. -/
def validate (d : Document) : Except Inconsistency Unit :=
  match d.inconsistency? with
  | some i => .error i
  | none => .ok ()

end Document

end ReplicaSetOperator
