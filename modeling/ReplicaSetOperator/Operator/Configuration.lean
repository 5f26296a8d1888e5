import ReplicaSetOperator.Automation.Builder
import ReplicaSetOperator.Automation.DocumentFormat
import ReplicaSetOperator.Cluster.Workload
import ReplicaSetOperator.Operator.Material

/-!
# Keeping the document

The document of a cluster is the entry of a secret that the agents read. `Configuration.push`
reads the stored document, builds the one that follows it, and writes only if it differs.
-/

namespace ReplicaSetOperator

/-- The namespace of a cluster, without which nothing can be done. -/
def Cluster.namespaced (c : Cluster) : Except Failure String :=
  match c.metadata.namespace with
  | some ns => .ok ns
  | none => .error (.plain (.metadataMissing "MongoDBCluster has no namespace"))

namespace Configuration

/-- The document that a secret holds. -/
def stored (secret : Option Secret) : Except Failure (Option Document) :=
  match secret.bind (·.data? documentKey) with
  | none => .ok none
  | some bytes =>
    match Document.ofBytes bytes with
    | .ok d => .ok (some d)
    | .error e => .error (.plain (.json e))

/-- The builder of the document that follows another one. -/
def builder (c : Cluster) («namespace» : String) (previous : Option Document)
    (modification : Document → Document) : Builder where
  name := c.name
  hosts := c.hosts «namespace»
  databaseVersion := c.spec.version
  featureCompatibilityVersion := c.spec.featureCompatibilityVersion
  previous := previous
  modifications := [modification]

/-- The document that a builder makes. -/
def built (b : Builder) : Program Failure Document :=
  match b.build with
  | .ok d => .done d
  | .error (.inconsistent i) => .fail (.plain (.invariant i.message))
  | .error .versionOverflow => .overflow

/-- The entries of the secret that holds a document. -/
def entries (d : Document) : SecretData := [(documentKey, Bytes.ofText d.text)]

/-- A new secret for a document. -/
def newSecret (c : Cluster) («namespace» : String) (d : Document) : Secret where
  metadata :=
    { name := some c.configSecretName
      «namespace» := some «namespace»
      ownerReferences := c.owners }
  type := some "Opaque"
  data := some (entries d)

/-- Writes a document into the secret that was read, or into a new one. -/
def write (c : Cluster) («namespace» : String) (existing : Option Secret) (d : Document) :
    Program Failure Unit := do
  match existing with
  | some secret =>
    let _ ← (Store.update Secret.stored { secret with data := some (entries d) }).writing
  | none => let _ ← (Store.create Secret.stored (newSecret c «namespace» d)).writing

/-- Brings the stored document up to date, and gives it. -/
def push (c : Cluster) (modification : Document → Document) : Program Failure Document := do
  let ns ← .ofExcept c.namespaced
  let existing ← Program.read Secret.stored ns c.configSecretName
  let previous ← .ofExcept (stored existing)
  let d ← built (builder c ns previous modification)
  if previous.any (·.same d) then pure d
  else
    write c ns existing d
    pure d

end Configuration

end ReplicaSetOperator
