import ReplicaSetOperator.Proofs.Automation.Chains
import ReplicaSetOperator.Proofs.Cluster.Mounts
import ReplicaSetOperator.Proofs.Operator.Isolation

/-!
# The pods that a document describes

The document, the stateful set and the service of a cluster are made one by one, and none of them
says where it takes its names from. They have to agree all the same: an agent finds itself in the
document by the name of its pod, and the members find each other by the hosts of theirs.

* `StatefulSet.pods?` are the pods that a stateful set creates, with their hosts.
* `StatefulSet.Fits` says of a set and a service that the service gives the pods their hosts and
  that the pods have all they mount.
* `StatefulSet.Shows` says that the agents read a document from an entry of a secret.
* `Document.Describes` says of a document that its processes are the pods, one by one.

`Cluster.describes_pods` is that all this holds of every cluster: of every document that is built
for it, and of every document that a push enters into the secret.
-/

namespace ReplicaSetOperator

open ReplicaSetOperator.Configuration (held tlsBuilder push Puts)

/-! ### What a stateful set creates -/

/-- A pod by its name and its host. -/
structure Pod where
  name : String
  host : String
deriving DecidableEq

/-- The pod of a given rank: it is called after its set, and its host is in the domain of a
service. -/
def Pod.ranked (set domain : String) (i : Nat) : Pod where
  name := s!"{set}-{i}"
  host := s!"{set}-{i}." ++ domain

/-- The domain of a service in the cluster. -/
def Service.domain (name «namespace» : String) : String :=
  name ++ "." ++ «namespace» ++ ".svc.cluster.local"

namespace StatefulSet

/-- The pods that a stateful set creates: as many as there are replicas, or one if their number is
not given, in the domain of the service that governs the set. -/
def pods? (set : StatefulSet) : Option (List Pod) := do
  let name ← set.metadata.name
  let ns ← set.metadata.namespace
  let spec ← set.spec
  let service ← spec.serviceName
  return (List.range (spec.replicas.getD 1).toInt.toNat).map
    (Pod.ranked name (Service.domain service ns))

/-- What the pods consist of. -/
def template? (set : StatefulSet) : Option PodSpec := set.spec.bind (·.template.spec)

/-- The names of the claims by which every pod has volumes of its own. -/
def claims (set : StatefulSet) : List String :=
  ((set.spec.bind (·.volumeClaimTemplates)).getD []).filterMap (·.metadata.name)

/-- A service gives the pods of a stateful set their hosts: it governs the set, and selects the pods
that the set does. What the containers of the pods mount is there. -/
structure Fits (set : StatefulSet) (service : Service) : Prop where
  governed : ∃ name, service.metadata.name = some name ∧
    set.spec.bind (·.serviceName) = some name
  neighbours : ∃ ns, service.metadata.namespace = some ns ∧ set.metadata.namespace = some ns
  selected : ∃ labels, service.spec.bind (·.selector) = some labels ∧
    set.spec.map (·.selector) = some { matchLabels := some labels } ∧
    (set.spec.bind (·.template.metadata)).bind (·.labels) = some labels
  complete : ∃ pod, set.template? = some pod ∧ pod.Complete set.claims

/-- The agents of the pods are told to take their cluster from a file, and that file is an entry of
a secret of their namespace. -/
def Shows (set : StatefulSet) («namespace» secret key : String) : Prop :=
  set.metadata.namespace = some «namespace» ∧ ∃ pod path, set.template? = some pod ∧
    pod.Sees Workload.agentContainer path
      (fun v => { name := v, secret := some { secretName := some secret } }) ∧
    pod.containers.map (fun k => (k.name, k.options "-cluster=")) =
      [(Workload.agentContainer, [path ++ "/" ++ key]), (Workload.databaseContainer, [])]

end StatefulSet

/-- The ports of a service, each with the one to which it leads. -/
def Service.ports (service : Service) : List (Int32 × Option Json) :=
  ((service.spec.bind (·.ports)).getD []).map fun p => (p.port, p.targetPort)

/-- A document describes the pods of a stateful set behind a service: its processes are the pods,
and its one replica set has them as members in their order. They listen where the container and the
service have their port, and keep their data where both containers have the claimed volume. -/
structure Document.Describes (d : Document) (set : StatefulSet) (service : Service) : Prop where
  pods : set.pods? = some (d.processes.map fun p => ⟨p.name, p.hostName⟩)
  members : ∃ r, d.replicaSets = [r] ∧
    r.members.map (fun m => (m.id.toNat, m.host)) = d.processes.mapIdx fun i p => (i, p.name)
  port : ∃ pod port, set.template? = some pod ∧
    pod.everyContainer.flatMap Container.listens = [port] ∧
    service.ports = [(port, some (.ofInt port.toInt))] ∧
    ∀ p ∈ d.processes, p.arguments.net.port = port
  data : ∃ pod claim path, set.template? = some pod ∧ set.claims = [claim] ∧
    pod.containers.map (fun k => (k.name, k.paths claim)) =
      [(Workload.agentContainer, [path]), (Workload.databaseContainer, [path])] ∧
    ∀ p ∈ d.processes, p.arguments.storage.dbPath = path

/-- A request that enters a document into a secret, whether there has been one or not. -/
def Request.Enters («namespace» name key : String) (d : Document) (r : Request) : Prop :=
  ∃ secret : Secret, secret.metadata.namespace = some «namespace» ∧
    secret.metadata.name = some name ∧ secret.data = some [(key, Bytes.ofText d.text)] ∧
    (creating? Secret.objectType «namespace» name (Client.sent Secret.stored.toResource secret) =
        some r ∨
      about? .replace Secret.objectType «namespace» name
        (.value (Client.sent Secret.stored.toResource secret)) false = some r)

variable {c : Cluster} {«namespace» : String} {images : Images} {mode : TlsMode} {file : String}
  {previous : Option Document} {d : Document}

/-! ### The workload -/

namespace Cluster

/-- The stateful set of a cluster creates a pod for each member. -/
theorem pods?_statefulSet (c : Cluster) («namespace» : String) (images : Images) :
    (c.statefulSet «namespace» images).pods? =
      some ((List.range c.spec.members.toInt.toNat).map
        (Pod.ranked c.name (Service.domain c.serviceName «namespace»))) := rfl

/-- It fits the service of the cluster. -/
theorem fits_service (c : Cluster) («namespace» : String) (images : Images) :
    (c.statefulSet «namespace» images).Fits (c.service «namespace») where
  governed := ⟨c.serviceName, rfl, rfl⟩
  neighbours := ⟨«namespace», rfl, rfl⟩
  selected := ⟨c.labels, rfl, rfl, rfl⟩
  complete := ⟨_, rfl, Workload.complete_pod c «namespace» images⟩

/-- Its agents read the document from the secret that pushes enter it into. -/
theorem shows_document (c : Cluster) («namespace» : String) (images : Images) :
    (c.statefulSet «namespace» images).Shows «namespace» c.configSecretName documentKey :=
  ⟨rfl, _, Workload.documentPath, rfl, Workload.pod_sees_document c «namespace» images,
    Workload.pod_options c «namespace» images⟩

end Cluster

/-! ### The document -/

namespace Configuration

/-- A process has the name of its pod and its host. -/
theorem ranked_eq (i : Nat) : Pod.ranked c.name (Service.domain c.serviceName «namespace») i =
    ⟨(tlsBuilder c «namespace» previous mode file).processName i, c.host «namespace» i⟩ := by
  rw [Pod.mk.injEq]
  refine ⟨rfl, ?_⟩
  -- the host is put together from the same parts in another order
  show s!"{c.name}-{i}." ++ (c.serviceName ++ "." ++ «namespace» ++ ".svc.cluster.local") = _
  rw [Cluster.host]
  simp only [String.append_assoc]
  rfl

/-- The members of the replica set are the processes, in their order. -/
theorem members_of_build (h : (tlsBuilder c «namespace» previous mode file).build = .ok d) :
    ∃ r, d.replicaSets = [r] ∧ r.members.map (fun m => (m.id.toNat, m.host)) =
      d.processes.mapIdx fun i p => (i, p.name) := by
  have replicaSets := congrArg Document.replicaSets (Builder.eq_of_build h)
  refine ⟨_, replicaSets, ?_⟩
  show (((c.hosts «namespace»).mapIdx
    (tlsBuilder c «namespace» previous mode file).process).mapIdx Builder.member).map _ = _
  rw [processes_of_build h, Cluster.hosts, mapIdx_map_range, mapIdx_map_range, mapIdx_map_range,
    List.map_map]
  refine List.map_congr_left fun i mem => ?_
  -- there are fewer members than identities
  have few : i < UInt64.size := by
    have below := List.mem_range.1 mem
    have most := c.spec.members.toInt_lt
    have size : UInt64.size = 2 ^ 64 := rfl
    omega
  show ((UInt64.ofNat i).toNat, _) = (i, _)
  rw [UInt64.toNat_ofNat_of_lt' few]
  rfl

/-- A document that is built describes the pods. -/
theorem describes_of_build (images : Images)
    (h : (tlsBuilder c «namespace» previous mode file).build = .ok d) :
    d.Describes (c.statefulSet «namespace» images) (c.service «namespace») := by
  have processes := processes_of_build h
  -- the TLS mode changes neither the port of a process nor where it keeps its data
  have kept : ∀ p ∈ d.processes, p.arguments.net.port = databasePort ∧
      p.arguments.storage.dbPath = databasePath := by
    rw [processes]
    intro p mem
    obtain ⟨i, -, rfl⟩ := List.mem_map.1 mem
    exact ⟨rfl, rfl⟩
  -- one case for each thing that the document says of the pods
  constructor
  case pods =>
    rw [c.pods?_statefulSet, processes, List.map_map]
    refine congrArg some (List.map_congr_left ?_)
    intro i _
    exact ranked_eq i
  case members => exact members_of_build h
  case port =>
    refine ⟨_, databasePort, rfl, Workload.pod_listens c «namespace» images, rfl, ?_⟩
    intro p mem
    exact (kept p mem).1
  case data =>
    refine ⟨_, Workload.dataVolume, databasePath, rfl, rfl,
      Workload.pod_paths c «namespace» images, ?_⟩
    intro p mem
    exact (kept p mem).2

/-- A document that is built for a cluster in a TLS mode, whatever is there before. -/
def Built (c : Cluster) («namespace» : String) (mode : TlsMode) (file : String) (d : Document) :
    Prop :=
  ∃ previous, (tlsBuilder c «namespace» previous mode file).build = .ok d

/-- A document with as many processes as there are members is built, unless that takes more than a
version that is left. -/
theorem overflows_or_exists_build (previous : Option Document) :
    (tlsBuilder c «namespace» previous mode file).Overflows ∧
      (tlsBuilder c «namespace» previous mode file).build = .error .versionOverflow ∨
    ∃ d, (tlsBuilder c «namespace» previous mode file).build = .ok d ∧
      (d.processes.length : Int) = max 0 c.spec.members.toInt := by
  by_cases overflows : (tlsBuilder c «namespace» previous mode file).Overflows
  · exact .inl ⟨overflows, Builder.build_eq_overflow overflows⟩
  · obtain ⟨d, build⟩ := Builder.exists_build overflows validate_modified
    refine .inr ⟨d, build, ?_⟩
    rw [length_processes_of_build build]
    omega

/-- A push enters its document where it has looked for the one before. -/
theorem Puts.enters {r : Request} (h : Puts (c.Faithful «namespace») c «namespace» mode file r) :
    ∃ d, Built c «namespace» mode file d ∧
      r.Enters «namespace» c.configSecretName documentKey d := by
  cases h with
  | creates build holds own named arrives =>
    exact ⟨_, ⟨_, build⟩, _, own, named, holds, .inl arrives⟩
  | replaces build holds inherits own named arrives =>
    -- what is replaced goes by the names of the secret that was fetched
    obtain ⟨own', named'⟩ := Cluster.names_of_inherits List.mem_cons_self inherits
    obtain rfl := Option.some.inj (own.symm.trans own')
    obtain rfl := Option.some.inj (named.symm.trans named')
    exact ⟨_, ⟨_, build⟩, _, own, named, holds, .inr arrives⟩

/-- A push reads, or it enters a document that has been built into the secret. -/
theorem push_enters (inNamespace : c.metadata.namespace = some «namespace») (mode : TlsMode)
    (file : String) :
    (push c (Change.apply (.tls mode file))).Conforms (c.Faithful «namespace»)
      (fun r => r.verb = .get ∨ ∃ d, Built c «namespace» mode file d ∧
        r.Enters «namespace» c.configSecretName documentKey d)
      (Built c «namespace» mode file) fun f => f.violates = false := by
  refine (push_conforms inNamespace mode file).mono ?_ fun _ built => built
  rintro r (⟨verb, -⟩ | puts)
  · exact .inl verb
  · exact .inr puts.enters

end Configuration

/-! ### Both together -/

namespace Cluster

/-- Whatever a cluster is called and however many members it has, the documents of the cluster
describe the pods that its stateful set creates behind its service: those that are built for any TLS
mode, which takes no more than a version that is left, and those that a push of it enters into the
secret from which the agents read. -/
theorem describes_pods (inNamespace : c.metadata.namespace = some «namespace») (images : Images)
    (mode : TlsMode) (file : String) :
    (c.statefulSet «namespace» images).spec.bind (·.replicas) = some c.spec.members ∧
    (c.statefulSet «namespace» images).Fits (c.service «namespace») ∧
    (c.statefulSet «namespace» images).Shows «namespace» c.configSecretName documentKey ∧
    (∀ previous,
      (tlsBuilder c «namespace» previous mode file).Overflows ∧
        (tlsBuilder c «namespace» previous mode file).build = .error .versionOverflow ∨
      ∃ d, (tlsBuilder c «namespace» previous mode file).build = .ok d ∧
        (d.processes.length : Int) = max 0 c.spec.members.toInt ∧
        d.Describes (c.statefulSet «namespace» images) (c.service «namespace»)) ∧
    (push c (Change.apply (.tls mode file))).Conforms (c.Faithful «namespace»)
      (fun r => r.verb = .get ∨
        ∃ d, d.Describes (c.statefulSet «namespace» images) (c.service «namespace») ∧
          r.Enters «namespace» c.configSecretName documentKey d)
      (fun d => d.Describes (c.statefulSet «namespace» images) (c.service «namespace»))
      fun f => f.violates = false := by
  refine ⟨rfl, c.fits_service «namespace» images, c.shows_document «namespace» images,
    fun previous => ?_, (Configuration.push_enters inNamespace mode file).mono ?_ ?_⟩
  · rcases Configuration.overflows_or_exists_build previous with overflow | ⟨d, build, many⟩
    · exact .inl overflow
    · exact .inr ⟨d, build, many, Configuration.describes_of_build images build⟩
  · rintro r (verb | ⟨d, ⟨previous, build⟩, enters⟩)
    · exact .inl verb
    · exact .inr ⟨d, Configuration.describes_of_build images build, enters⟩
  · rintro d ⟨previous, build⟩
    exact Configuration.describes_of_build images build

/-- A cluster with TLS has three pods. Its first document describes them, and a push stores it. -/
theorem describes_pods_joining : ∃ d,
    joining.metadata.namespace = some "prod" ∧
    (tlsBuilder joining "prod" none .required "a.pem").build = .ok d ∧
    (joining.statefulSet "prod" {}).pods? = some (d.processes.map fun p => ⟨p.name, p.hostName⟩) ∧
    (joining.statefulSet "prod" {}).pods? = some
      [⟨"db-0", "db-0.db-svc.prod.svc.cluster.local"⟩,
       ⟨"db-1", "db-1.db-svc.prod.svc.cluster.local"⟩,
       ⟨"db-2", "db-2.db-svc.prod.svc.cluster.local"⟩] ∧
    ∃ es s', (push joining (Change.apply (.tls .required "a.pem"))).Runs Exchange.Served
        joiningServer es (.done d) s' ∧
      ∃ e, held (s'.objects.find? (joining.documentSecret "prod")) = .ok (some e) ∧
        e.same d = true := by
  have inNamespace : joining.metadata.namespace = some "prod" := rfl
  obtain ⟨-, -, -, builds, -⟩ := describes_pods inNamespace {} .required "a.pem"
  rcases builds none with ⟨⟨p, there, -⟩, -⟩ | ⟨d, build, -, describes⟩
  · cases there
  · have served (s : Server) (r : Request) : ∃ response after,
        (Exchange.mk s r response after).Served := ⟨_, _, Exchange.served_exchange s r⟩
    obtain ⟨es, _, s', run, -, rfl, -, e, isHeld, same, -⟩ :=
      (Configuration.push_delivers inNamespace addressed_joining.document (fun _ met _ => met)
        (ready_joining 1).document rfl build (Configuration.uniform_of_build build)).exists_run
          served
    exact ⟨_, inNamespace, build, describes.pods, by decide, es, s', run, e, isHeld, same⟩

end Cluster

end ReplicaSetOperator
