import ReplicaSetOperator.Automation.Change
import ReplicaSetOperator.Operator.Store
import ReplicaSetOperator.Tls.Descriptor
import ReplicaSetOperator.Tls.FileName

/-!
# The TLS material

The user provides a config map with the CA certificate and a secret with the certificate of the
members and its key. The operator checks both and keeps certificate and key together as the only
entry of a secret of its own (`Material.synthesize`). The write is unconditional: of several
writers at a time the last one wins, and none of them fails.
-/

namespace ReplicaSetOperator

/-- Fails with the cause that something is missing. -/
def Program.missing {α : Type} (m : MissingMaterial) : Program Failure α :=
  .fail (.plain (.materialMissing m.message))

/-- Reads an object of the store. -/
def Program.read {α : Type} (t : Storable α) («namespace» name : String) :
    Program Failure (Option α) :=
  (Store.get? t «namespace» name).mapFailure fun e => .plain (.readFailed e)

/-- Does something that writes to the store. -/
def Program.writing {α : Type} (p : Program StoreError α) : Program Failure α :=
  p.mapFailure fun e => .plain (.writeFailed e)

namespace Material

/-- The certificate and key of a secret of the user. -/
def readCertificateKey («namespace» name : String) : Program Failure (Bytes × Bytes) := do
  if name.isEmpty then .missing .noSecret
  else
    let some secret ← Program.read Secret.stored «namespace» name
      | .missing (.secret «namespace» name)
    let some certificate := secret.entry? Tls.certificateName
      | .missing (.secretEntry Tls.certificateName name)
    let some key := secret.entry? Tls.keyName
      | .missing (.secretEntry Tls.keyName name)
    pure (certificate, key)

/-- The CA certificate of a config map of the user. -/
def readCaCertificate («namespace» name : String) : Program Failure String := do
  if name.isEmpty then .missing .noConfigMap
  else
    let some configMap ← Program.read ConfigMap.stored «namespace» name
      | .missing (.configMap «namespace» name)
    let some certificate := configMap.entry? Tls.caCertificateName
      | .missing (.configMapEntry Tls.caCertificateName name)
    pure certificate

/-- The only entry of the operator's secret: certificate and key, one after the other. -/
def entry (certificate key : Bytes) : SecretData :=
  [(Tls.fileName certificate key, certificate ++ key)]

/-- A new secret for a certificate and its key. -/
def newSecret («namespace» name : String) (owner : Option OwnerReference)
    (certificate key : Bytes) : Secret where
  metadata :=
    { name := some name
      «namespace» := some «namespace»
      ownerReferences := owner.map ([·])
      labels := some
        [("app.kubernetes.io/component", "tls-material"),
         ("app.kubernetes.io/name", "mongodb-operator")] }
  type := some "Opaque"
  data := some (entry certificate key)

/-- A secret with its entries replaced, without the condition that nobody else has written. -/
def replaced (s : Secret) (certificate key : Bytes) : Secret :=
  { s with
    metadata := { s.metadata with resourceVersion := none }
    data := some (entry certificate key)
    stringData := none }

/-- Whether a store error says that there already is an object of that name. -/
def isAlreadyExists : StoreError → Bool
  | .alreadyExists _ _ _ => true
  | _ => false

/-- Keeps a certificate and its key in a secret, and gives the name of the entry. -/
def synthesize («namespace» name : String) (owner : Option OwnerReference)
    (certificate key : Bytes) : Program Failure String := do
  match ← Program.read Secret.stored «namespace» name with
  | none =>
    let secret := newSecret «namespace» name owner certificate key
    match ← (Store.create Secret.stored secret).attempt with
    | .ok _ => pure ()
    | .error e =>
      if isAlreadyExists e then let _ ← (Store.update Secret.stored secret).writing
      else .fail (.plain (.writeFailed e))
  | some secret =>
    let _ ← (Store.update Secret.stored (replaced secret certificate key)).writing
  pure (Tls.fileName certificate key)

/-- The change of the document that TLS asks for. Material is read and kept only if TLS is
wanted. -/
def change (d : TlsDescriptor) : Program Failure Change := do
  if !d.enabled then pure (.tls .disabled "")
  else
    let _ ← readCaCertificate d.namespace d.caConfigMap
    let (certificate, key) ← readCertificateKey d.namespace d.certificateKeySecret
    let file ← synthesize d.namespace d.operatorSecret d.owner certificate key
    pure (.tls d.mode file)

end Material

end ReplicaSetOperator
