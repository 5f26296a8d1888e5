import ReplicaSetOperator.Proofs.Operator.Conduct
import ReplicaSetOperator.Proofs.Operator.Gauges
import ReplicaSetOperator.Proofs.Operator.Histories

/-!
# Clusters side by side

What is done for one cluster leaves the objects of every other one alone, whatever the two are
called, as long as their names or their namespaces differ. The objects of a cluster have places that
follow from its name (`Cluster.places`), and no place belongs to clusters of two names
(`Cluster.names_of_mem_keysOf`). All that a reconciliation asks for is a reading, an event or
addressed to one of the places of its own cluster (`Cluster.Asks.touches`), if the server tells
secrets under the names that they were asked for (`Cluster.Faithful`). What arrives at an address is
another matter: plain names arrive as they are meant (`Cluster.Reaches.mem`), but one with a slash
or a question mark can lead elsewhere.

The gauge of TLS modes does not keep clusters apart. It finds the series of a cluster by its
namespace and its name written in one, and so two clusters can have one series
(`Metrics.tlsMode?_record_other`).
-/

namespace ReplicaSetOperator

/-- A request that is addressed to an object of a name, whatever it asks for and wherever it
arrives. -/
def Request.AimsAt (type : ObjectType) («namespace» name : String) (r : Request) : Prop :=
  (∃ verb payload statusOnly, about? verb type «namespace» name payload statusOnly = some r) ∨
    ∃ body, creating? type «namespace» name body = some r

/-! ### Places -/

namespace Cluster

/-- The objects of a cluster of a name: the cluster, its two secrets, its service and its stateful
set, each with its type and its name. -/
def places (name : String) : List (ObjectType × String) :=
  [(Cluster.type, name), (Secret.objectType, name ++ "-config"),
   (Secret.objectType, name ++ "-server-certificate-key"), (Service.type, name ++ "-svc"),
   (StatefulSet.type, name)]

/-- Their keys in a namespace, that of the cluster and those of what belongs to it. -/
def keysOf («namespace» name : String) : List ObjectKey :=
  (places name).map fun place => ⟨place.1.kind, «namespace», place.2⟩

variable {«namespace» ns' name name' : String} {k : ObjectKey} {r : Request}

/-- The two suffixes of secrets end differently, so that no name makes one of the other. -/
theorem config_ne_certificateKey : name ++ "-config" ≠ name' ++ "-server-certificate-key" := by
  intro same
  have ends := congrArg (fun text => text.toList.getLast?) same
  simp at ends

/-- A key belongs to the cluster of one name in one namespace only. -/
theorem names_of_mem_keysOf (mem : k ∈ keysOf «namespace» name) (mem' : k ∈ keysOf ns' name') :
    ns' = «namespace» ∧ name' = name := by
  obtain ⟨⟨type, full⟩, place, rfl⟩ := List.mem_map.1 mem
  obtain ⟨⟨type', full'⟩, place', same⟩ := List.mem_map.1 mem'
  obtain ⟨kinds, namespaces, names⟩ := ObjectKey.mk.inj same
  refine ⟨namespaces, ?_⟩
  have distinct : Cluster.type.kind = "MongoDBCluster" ∧ Secret.objectType.kind = "Secret" ∧
      Service.type.kind = "Service" ∧ StatefulSet.type.kind = "StatefulSet" :=
    ⟨rfl, rfl, rfl, rfl⟩
  simp only [places, List.mem_cons, List.not_mem_nil, or_false, Prod.mk.injEq] at place place'
  dsimp only at kinds names
  -- places of one kind differ in their names only, and those of secrets in their suffixes
  rcases place with ⟨rfl, rfl⟩ | ⟨rfl, rfl⟩ | ⟨rfl, rfl⟩ | ⟨rfl, rfl⟩ | ⟨rfl, rfl⟩ <;>
    rcases place' with ⟨rfl, rfl⟩ | ⟨rfl, rfl⟩ | ⟨rfl, rfl⟩ | ⟨rfl, rfl⟩ | ⟨rfl, rfl⟩ <;>
    simp [distinct] at kinds names ⊢
  · exact names
  · exact names
  · exact absurd names.symm config_ne_certificateKey
  · exact absurd names config_ne_certificateKey
  · exact names
  · exact names
  · exact names

/-- Objects of these types arrive in the collections of their own, which are not that of events. -/
theorem type_of_place {place : ObjectType × String} (mem : place ∈ places name) :
    Address.kindIn place.1.collection = place.1.kind ∧
      Address.isPlain place.1.collection = true ∧ place.1.kind ≠ Event.type.kind := by
  have types : ∀ type ∈ [Cluster.type, Secret.objectType, Secret.objectType, Service.type,
      StatefulSet.type], Address.kindIn type.collection = type.kind ∧
        Address.isPlain type.collection = true ∧ type.kind ≠ Event.type.kind := by decide
  exact types place.1 (List.mem_map_of_mem (f := Prod.fst) mem)

theorem kind_ne_event (mem : k ∈ keysOf «namespace» name) : k.kind ≠ Event.type.kind := by
  obtain ⟨place, there, rfl⟩ := List.mem_map.1 mem
  exact (type_of_place there).2.2

/-! ### What is addressed to them -/

/-- A request to create an event in a namespace, or addressed to an object of the cluster of a name
there. -/
def Touches («namespace» name : String) (r : Request) : Prop :=
  (∃ event body, Request.creating? Event.type «namespace» event body = some r) ∨
    ∃ place ∈ places name, r.AimsAt place.1 «namespace» place.2

/-- Something that is addressed to an object of the cluster of a name, or to an event, can arrive at
a key. -/
def Reaches («namespace» name : String) (k : ObjectKey) : Prop :=
  ∃ r, Touches «namespace» name r ∧ Server.key r = k

/-- If the name of a cluster is plain, so are those of its objects. -/
theorem plain_of_place {place : ObjectType × String} (mem : place ∈ places name)
    (plainName : Address.isPlain name = true) : Address.isPlain place.2 = true := by
  have suffixed {suffix : String} (plain : Address.isPlain suffix = true) :
      Address.isPlain (name ++ suffix) = true := by
    rw [Address.isPlain, String.toList_append, List.all_append, Bool.and_eq_true]
    exact ⟨plainName, plain⟩
  simp only [places, List.mem_cons, List.not_mem_nil, or_false] at mem
  rcases mem with rfl | rfl | rfl | rfl | rfl
  · exact plainName
  · exact suffixed (by decide)
  · exact suffixed (by decide)
  · exact suffixed (by decide)
  · exact plainName

/-- From a plain name in a plain namespace nothing else is reached. -/
theorem Reaches.mem (h : Reaches «namespace» name k)
    (plainNamespace : Address.isPlain «namespace» = true)
    (plainName : Address.isPlain name = true) :
    k.kind = Event.type.kind ∨ k ∈ keysOf «namespace» name := by
  obtain ⟨r, ⟨event, body, arrives⟩ | ⟨place, mem, aims⟩, rfl⟩ := h
  · rw [Request.key_of_creating? (by decide) (by decide) plainNamespace arrives]
    exact .inl rfl
  · obtain ⟨known, plainCollection, -⟩ := type_of_place mem
    have plain := plain_of_place mem plainName
    -- a plain address arrives as it is meant
    refine .inr (List.mem_map.2 ⟨place, mem, ?_⟩)
    rcases aims with ⟨verb, payload, statusOnly, arrives⟩ | ⟨body, arrives⟩
    · exact (Request.key_of_about? known plainCollection plainNamespace plain arrives).symm
    · exact (Request.key_of_creating? known plainCollection plainNamespace arrives).symm

variable {c : Cluster}

/-- A secret that is told when one of the two secrets of a cluster is asked for has the names that
have been asked for. -/
def Faithful (c : Cluster) («namespace» : String) (r : Request) (response : Response) : Prop :=
  ∀ name ∈ [c.configSecretName, c.operatorSecretName],
    Request.about? .get Secret.objectType «namespace» name .none false = some r →
    ∀ secret, Secret.stored.found response = .ok (some secret) →
      secret.metadata.namespace = some «namespace» ∧ secret.metadata.name = some name

/-- Then a secret goes where it was read, under the names that it was read with. -/
theorem names_of_inherits {secret : Secret}
    (mem : name ∈ [c.configSecretName, c.operatorSecretName])
    (h : secret.Inherits (c.Faithful «namespace») «namespace» name) :
    secret.metadata.namespace = some «namespace» ∧ secret.metadata.name = some name := by
  rcases h with names | ⟨fetched, ⟨r, response, asked, faithful, found⟩, ns, n⟩
  · exact names
  · rw [ns, n]
    exact faithful name mem asked fetched found

/-- What fills one of the two secrets goes to one of them. -/
theorem Fills.mem {secret : Secret} (h : c.Fills name secret) :
    name ∈ [c.configSecretName, c.operatorSecretName] := by
  cases h with
  | document => exact .head _
  | material => exact .tail _ (.head _)

/-- Both of them are objects of the cluster. -/
theorem place_of_secret (mem : name ∈ [c.configSecretName, c.operatorSecretName]) :
    (Secret.objectType, name) ∈ places c.name := by
  simp only [List.mem_cons, List.not_mem_nil, or_false] at mem
  rcases mem with rfl | rfl
  · exact .tail _ (.head _)
  · exact .tail _ (.tail _ (.head _))

/-- All that a reconciliation asks for is to read, to tell an event, or is addressed to an object of
its cluster. -/
theorem Asks.touches (h : c.Asks (c.Faithful «namespace») «namespace» r) :
    r.verb = .get ∨ Touches «namespace» c.name r := by
  have own : (Cluster.type, c.name) ∈ places c.name := .head _
  -- each request says itself where it is addressed to, and only a secret has to be told faithfully
  cases h with
  | reads verb _ => exact .inl verb
  | states arrives => exact .inr (.inr ⟨_, own, .inl ⟨_, _, _, arrives⟩⟩)
  | marks arrives => exact .inr (.inr ⟨_, own, .inl ⟨_, _, _, arrives⟩⟩)
  | guards arrives => exact .inr (.inr ⟨_, own, .inl ⟨_, _, _, arrives⟩⟩)
  | releases arrives => exact .inr (.inr ⟨_, own, .inl ⟨_, _, _, arrives⟩⟩)
  | tells arrives => exact .inr (.inl ⟨_, _, arrives⟩)
  | creates fills arrives =>
    exact .inr (.inr ⟨_, place_of_secret fills.mem, .inr ⟨_, arrives⟩⟩)
  | @replaces name ns' name' secret fills inherits inNamespace named arrives =>
    have names := names_of_inherits fills.mem inherits
    have same : ns' = «namespace» ∧ name' = name :=
      ⟨Option.some.inj (inNamespace.symm.trans names.1),
        Option.some.inj (named.symm.trans names.2)⟩
    obtain ⟨rfl, rfl⟩ := same
    exact .inr (.inr ⟨_, place_of_secret fills.mem, .inl ⟨_, _, _, arrives⟩⟩)
  | appliesService arrives =>
    exact .inr (.inr ⟨(Service.type, c.serviceName), .tail _ (.tail _ (.tail _ (.head _))),
      .inl ⟨_, _, _, arrives⟩⟩)
  | appliesStatefulSet arrives =>
    exact .inr (.inr ⟨(StatefulSet.type, c.name),
      .tail _ (.tail _ (.tail _ (.tail _ (.head _)))), .inl ⟨_, _, _, arrives⟩⟩)

end Cluster

/-! ### What is counted -/

/-- What is counted in a reconciliation of the cluster of a name. -/
def Measurement.About («namespace» name : String) : Measurement → Prop
  | .reconciliation _ => True
  | .tlsMode ns cluster _ | .forget ns cluster => ns = «namespace» ∧ cluster = name
  | .failure _ _ => False

namespace Metrics

variable {«namespace» name ns' name' : String} {measurement : Measurement}

/-- The gauge of another cluster stays as it is if the two have different series. -/
theorem tlsMode?_record_other (about : measurement.About «namespace» name)
    (apart : SeriesTable.key [ns', name'] ≠ SeriesTable.key [«namespace», name]) (m : Metrics) :
    (m.record measurement).tlsMode? ns' name' = m.tlsMode? ns' name' := by
  cases measurement with
  | reconciliation controller => rfl
  | tlsMode ns cluster mode =>
    obtain ⟨rfl, rfl⟩ := about
    exact SeriesTable.value?_alter_of_ne apart _ _
  | «forget» ns cluster =>
    obtain ⟨rfl, rfl⟩ := about
    exact SeriesTable.value?_drop_of_ne apart _
  | failure cluster label => exact about.elim

/-- Otherwise the two have one and the same. -/
theorem tlsMode?_eq_of_key
    (same : SeriesTable.key [ns', name'] = SeriesTable.key [«namespace», name]) (m : Metrics) :
    m.tlsMode? ns' name' = m.tlsMode? «namespace» name :=
  SeriesTable.value?_congr same _

/-- After any number of measurements about one cluster another one has its own number, or shares
one. -/
theorem tlsMode?_foldl_other {counted : List Measurement}
    (about : ∀ measurement ∈ counted, measurement.About «namespace» name) (m : Metrics) :
    (counted.foldl record m).tlsMode? ns' name' =
      if SeriesTable.key [ns', name'] = SeriesTable.key [«namespace», name] then
        (counted.foldl record m).tlsMode? «namespace» name
      else m.tlsMode? ns' name' := by
  split
  · next same => exact tlsMode?_eq_of_key same _
  · next apart =>
    -- nothing that is counted is about the other series
    induction counted generalizing m with
    | nil => rfl
    | cons first rest ih =>
      obtain ⟨isAbout, others⟩ := List.forall_mem_cons.1 about
      exact (ih others _).trans (tlsMode?_record_other isAbout apart m)

end Metrics

/-- What is counted is about the cluster of a name. -/
def Entry.CountsFor («namespace» name : String) (j : Entry) : Prop :=
  ∀ m ∈ j.count?, m.About «namespace» name

/-- What is measured in a run is about the cluster if each of its entries is. -/
theorem Entry.about_of_measurements {«namespace» name : String} {js : List Entry}
    (counts : ∀ j ∈ js, j.CountsFor «namespace» name) :
    ∀ m ∈ measurements js, m.About «namespace» name := by
  intro m mem
  obtain ⟨j, there, isCount⟩ := List.mem_filterMap.1 mem
  exact counts j there m isCount

/-- What is silent counts for any cluster. -/
theorem Program.Silent.countsFor {ε α : Type} {p : Program ε α} (h : p.Silent)
    («namespace» name : String) : p.Does (Entry.CountsFor «namespace» name) :=
  h.mono fun j silent m mem => by
    rw [silent] at mem
    cases mem

namespace Cluster

variable {c : Cluster} {«namespace» : String} {images : Images}

section

variable (inNamespace : c.metadata.namespace = some «namespace»)

include inNamespace

/-- The report of the progress counts the mode of the cluster. -/
theorem reportProgress_countsFor (d : TlsDescriptor) (rolledOut : Bool) (version : Int64) :
    (c.reportProgress d rolledOut version).Does (Entry.CountsFor «namespace» c.name) := by
  refine .bind ((Status.setCondition_silent _ _).countsFor _ _) fun _ => ⟨?_, ?_⟩
  · rintro m ⟨⟩
    rw [inNamespace]
    exact ⟨rfl, rfl⟩
  · refine Program.Silent.countsFor ?_ _ _
    show (if rolledOut then _ else _ : Program Failure Action).Silent
    split
    · exact .bind (Status.patch_silent _) fun _ => .bind (Status.setCondition_silent _ _) fun _ =>
        .bind (Status.patch_silent _) fun _ => trivial
    · exact .bind (Status.setCondition_silent _ _) fun _ =>
        .bind (Status.patch_silent _) fun _ => trivial

/-- So does what comes after the workload. -/
theorem settled_countsFor (d : TlsDescriptor) (document : Document) (a : StatefulSet) :
    (c.settled d document a).Does (Entry.CountsFor «namespace» c.name) := by
  unfold settled
  dsimp only
  split
  · exact .bind ((markRollout_silent true).countsFor _ _) fun _ => trivial
  · exact .bind ((markRollout_silent false).countsFor _ _) fun _ =>
      reportProgress_countsFor inNamespace _ _ _
  · exact reportProgress_countsFor inNamespace _ _ _

/-- And so does a reconciliation, but nothing else. -/
theorem reconcile_countsFor :
    (c.reconcile images).Does (Entry.CountsFor «namespace» c.name) := by
  rw [reconcile_eq_announced]
  refine .bind (announced_silent.countsFor _ _) fun _ => .bind (.ofExcept _) fun ns =>
    .bind ((tlsChange_silent _).countsFor _ _) fun change => .bind ?_ fun document =>
      .bind (Deployment.apply_silent.countsFor _ _) fun a => settled_countsFor inNamespace _ _ a
  exact Program.Silent.countsFor
    ((Configuration.push_quiet c _).mono fun _ => Entry.Quiet.silent) _ _

/-- The cleaning up ends the series of the cluster. -/
theorem cleanup_countsFor : c.cleanup.Does (Entry.CountsFor «namespace» c.name) := by
  refine .bind (p := Program.count _) ⟨?_, trivial⟩ fun _ =>
    .bind ((Event.publish_silent _).countsFor _ _) fun _ => trivial
  rintro m ⟨⟩
  rw [inNamespace]
  exact ⟨rfl, rfl⟩

/-- A reconciliation counts nothing but what is about its cluster. -/
theorem reconcileGuarded_countsFor :
    (c.reconcileGuarded images).Does (Entry.CountsFor «namespace» c.name) := by
  refine .bind (p := Program.count _) ⟨by rintro m ⟨⟩; trivial, trivial⟩ fun _ =>
    .bind (.ofExcept _) fun ns => .bind (.attempt ?_) fun r => .ofExcept _
  have asks {r? : Option Request} : (Client.exchange resource r?).Does
      (Entry.CountsFor «namespace» c.name) := Program.does_exchange fun e _ m mem => by cases mem
  unfold finalize
  dsimp only
  split
  · exact .mapFailure _ (reconcile_countsFor inNamespace)
  · split
    · exact .bind (.mapFailure _ (cleanup_countsFor inNamespace)) fun _ =>
        .bind (.mapFailure _ asks) fun _ => trivial
    · trivial
  · split
    · exact .bind (.mapFailure _ asks) fun _ => trivial
    · trivial
  · trivial

end

/-! ### Isolation -/

variable {ns' name' : String} {meets : Exchange → Prop} {s s' : Server} {es : List Exchange}
  {js : List Entry} {o : Outcome Failure Action}

/-- Whatever is answered, every request of a reconciliation only reads or is addressed to one of the
objects of its cluster, or to an event. -/
theorem reconcileGuarded_touches (inNamespace : c.metadata.namespace = some «namespace»)
    (run : (c.reconcileGuarded images).Runs meets s es o s')
    (faithful : ∀ e ∈ es, c.Faithful «namespace» e.request e.response) :
    ∀ e ∈ es, e.request.verb = .get ∨ Touches «namespace» c.name e.request := by
  have conforms := reconcileGuarded_conforms (c.Faithful «namespace») c images
  rw [inNamespace, Option.getD_some] at conforms
  exact fun e mem => ((run.conforms conforms faithful).1 e mem).touches

/-- So nothing changes that is not reached from the names of the cluster. -/
theorem reconcileGuarded_keeps (inNamespace : c.metadata.namespace = some «namespace»)
    (run : (c.reconcileGuarded images).Runs Exchange.Tracked s es o s')
    (faithful : ∀ e ∈ es, c.Faithful «namespace» e.request e.response) {k : ObjectKey}
    (unreached : ¬ Reaches «namespace» c.name k) : s'.objects.find? k = s.objects.find? k := by
  refine (run.links.untouched (fun e mem => (run.met e mem).sparing) ?_).same
  rintro ⟨e, mem, ⟨changes, -⟩, about⟩
  have touches := reconcileGuarded_touches inNamespace run faithful e mem
  exact unreached ⟨e.request, touches.resolve_left changes, about⟩

/-- Whatever is refused, a reconciliation only reads, tells events and changes what is addressed to
the objects of its own cluster, none of which belongs to a cluster with another name or in another
namespace. Such a cluster keeps all its objects, but for what is reached from names that are not
plain, and its series, but for one that it shares. -/
theorem reconcileGuarded_isolated (inNamespace : c.metadata.namespace = some «namespace»)
    (other : ns' ≠ «namespace» ∨ name' ≠ c.name)
    (run : (c.reconcileGuarded images).Logs Exchange.Tracked s js o s')
    (faithful : ∀ e ∈ Entry.exchanges js, c.Faithful «namespace» e.request e.response) :
    (∀ e ∈ Entry.exchanges js,
      e.request.verb = .get ∨ Touches «namespace» c.name e.request) ∧
    (∀ k ∈ keysOf ns' name', k ∉ keysOf «namespace» c.name) ∧
    (∀ k, s'.objects.find? k = s.objects.find? k ∨ Reaches «namespace» c.name k) ∧
    (Address.isPlain «namespace» = true → Address.isPlain c.name = true →
      (∀ k, Reaches «namespace» c.name k →
        k.kind = Event.type.kind ∨ k ∈ keysOf «namespace» c.name) ∧
      ∀ k ∈ keysOf ns' name', s'.objects.find? k = s.objects.find? k) ∧
    ∀ m : Metrics, ((Entry.measurements js).foldl Metrics.record m).tlsMode? ns' name' =
      if SeriesTable.key [ns', name'] = SeriesTable.key [«namespace», c.name] then
        ((Entry.measurements js).foldl Metrics.record m).tlsMode? «namespace» c.name
      else m.tlsMode? ns' name' := by
  -- a key gives the namespace and the name of its cluster away
  have apart (k : ObjectKey) (mem : k ∈ keysOf ns' name') : k ∉ keysOf «namespace» c.name := by
    intro mem'
    obtain ⟨sameNamespace, sameName⟩ := names_of_mem_keysOf mem' mem
    exact other.elim (fun h => h sameNamespace) fun h => h sameName
  have kept {k : ObjectKey} (unreached : ¬ Reaches «namespace» c.name k) :
      s'.objects.find? k = s.objects.find? k :=
    reconcileGuarded_keeps inNamespace run.runs faithful unreached
  refine ⟨reconcileGuarded_touches inNamespace run.runs faithful, apart, fun k => ?_,
    fun plainNamespace plainName => ⟨?_, ?_⟩, fun m => ?_⟩
  · by_cases reached : Reaches «namespace» c.name k
    · exact .inr reached
    · exact .inl (kept reached)
  · exact fun k reached => reached.mem plainNamespace plainName
  -- from plain names only events and the objects of the cluster are reached
  · refine fun k mem => kept fun reached => ?_
    exact (reached.mem plainNamespace plainName).elim (kind_ne_event mem) (apart k mem)
  · exact Metrics.tlsMode?_foldl_other (Entry.about_of_measurements
      (run.mem (reconcileGuarded_countsFor inNamespace))) m

/-! ### A cluster that goes away -/

/-- The requests about a cluster that does not have its finalizer, or is not to stay: an event, or a
change of its finalizers. -/
inductive Custodial (c : Cluster) («namespace» : String) (r : Request) : Prop
  | tells {name : String} {body : Json}
    (arrives : Request.creating? Event.type «namespace» name body = some r)
  | guards {finalizers : List String}
    (arrives : Request.about? .json Cluster.type «namespace» c.name
      (.patch (addFinalizer finalizers)) false = some r)
  | releases {i : Nat}
    (arrives : Request.about? .json Cluster.type «namespace» c.name
      (.patch (removeFinalizer i)) false = some r)

namespace Custodial

variable {r : Request}

/-- Such a request creates an event or patches the cluster. -/
theorem verb (h : c.Custodial «namespace» r) : r.verb = .create ∨ r.verb = .json := by
  cases h with
  | tells arrives => exact .inl (Request.of_creating? arrives).1
  | guards arrives | releases arrives => exact .inr (Request.verb_of_about? arrives)

/-- So it is about the cluster itself, or about an event. -/
theorem about (h : c.Custodial «namespace» r) (addressed : c.Addressed «namespace») :
    Server.key r = c.ownKey «namespace» ∨ (Server.key r).kind = Event.type.kind := by
  have plainNamespace := addressed.cluster.plainNamespace
  cases h with
  | tells arrives =>
    have isEvent := Request.key_of_creating? (by decide) (by decide) plainNamespace arrives
    exact .inr (congrArg ObjectKey.kind isEvent)
  | guards arrives | releases arrives =>
    exact .inl (Request.key_of_about? (by decide) (by decide) plainNamespace
      addressed.cluster.plainName arrives)

end Custodial

/-- Without the finalizer nothing is reconciled. -/
theorem finalize_conforms_of_unguarded (inNamespace : c.metadata.namespace = some «namespace»)
    (unguarded : ¬ c.Guarded) :
    (c.finalize «namespace» images).Conforms (fun _ _ => True) (c.Custodial «namespace»)
      (· = .awaitChange) fun e => ∀ f, e ≠ .apply f := by
  have publishes (e : Event) : (e.publish c).Conforms (fun _ _ => True) (c.Custodial «namespace»)
      (fun _ => True) fun _ => True := by
    refine .now fun now => ?_
    rw [inNamespace]
    exact .bind (.mapFailure (Client.exchange_conforms fun r arrives => .tells arrives)
      fun _ _ => trivial) fun _ _ => trivial
  have cleans : c.cleanup.Conforms (fun _ _ => True) (c.Custodial «namespace») (· = .awaitChange)
      fun _ => True :=
    .count (.bind (publishes _) fun _ _ => rfl)
  -- a finalizer that is to stay is excluded; otherwise it is taken off, put on, or gone already
  unfold finalize
  dsimp only
  split
  · next i found living =>
    refine absurd ⟨?_, by simpa using living⟩ unguarded
    exact List.isSome_idxOf?.1 (Option.isSome_iff_exists.2 ⟨i, found⟩)
  · split
    · next name named =>
      refine .bind (.mapFailure cleans fun _ _ => by rintro _ ⟨⟩) fun action isAction =>
        .bind (.mapFailure (Client.exchange_conforms fun r arrives => ?_)
          fun _ _ => by rintro _ ⟨⟩) fun _ _ => isAction
      exact .releases ((name_of_some named).symm ▸ arrives)
    · rintro _ ⟨⟩
  · split
    · next name named =>
      refine .bind (.mapFailure (Client.exchange_conforms fun r arrives => ?_)
        fun _ _ => by rintro _ ⟨⟩) fun _ _ => rfl
      exact .guards ((name_of_some named).symm ▸ arrives)
    · rintro _ ⟨⟩
  · rfl

/-- Without the finalizer, or once the cluster is to go away, a reconciliation reads nothing, and
waits for the next change or fails. -/
theorem unguarded_conforms (unguarded : ¬ c.Guarded) :
    (c.reconcileGuarded images).Conforms (fun _ _ => True)
      (c.Custodial (c.metadata.namespace.getD "")) (· = .awaitChange) fun _ => True := by
  refine .count ?_
  rw [namespaced]
  split
  · next ns inNamespace =>
    rw [inNamespace]
    show ((c.finalize ns images).attempt.bind fun r => .ofExcept (finalizeOutcome r)).Conforms
      _ _ _ _
    refine .bind (.attempt (finalize_conforms_of_unguarded inNamespace unguarded)) ?_
    rintro r ⟨waits, fails⟩
    refine .ofExcept (fun action isDone => ?_) fun _ _ => trivial
    unfold finalizeOutcome at isDone
    split at isDone
    · cases isDone
      -- a result is that of the work around the finalizer
      exact waits action rfl
    · exact absurd rfl (fails _ rfl _)
    · cases isDone
  · trivial

section

variable (unguarded : ¬ c.Guarded) (run : (c.reconcileGuarded images).Runs meets s es o s')

include unguarded run

theorem custodial_of_unguarded (inNamespace : c.metadata.namespace = some «namespace») :
    ∀ e ∈ es, c.Custodial «namespace» e.request := by
  have custodial := (run.conforms (unguarded_conforms unguarded) fun _ _ => trivial).1
  rw [inNamespace] at custodial
  exact custodial

/-- No secret is told, as none is asked for. -/
theorem faithful_of_unguarded (inNamespace : c.metadata.namespace = some «namespace») :
    ∀ e ∈ es, c.Faithful «namespace» e.request e.response := by
  intro e mem _ _ arrives
  rcases (custodial_of_unguarded unguarded run inNamespace e mem).verb with verb | verb
  · cases (Request.verb_of_about? arrives).symm.trans verb
  · cases (Request.verb_of_about? arrives).symm.trans verb

/-- Then it changes the cluster only. -/
theorem same_of_unguarded (addressed : c.Addressed «namespace»)
    (sparing : ∀ e, meets e → e.Sparing) {k : ObjectKey} (cluster : k.kind ≠ Cluster.type.kind)
    (event : k.kind ≠ Event.type.kind) : s'.objects.find? k = s.objects.find? k := by
  refine (run.links.untouched (fun e mem => sparing e (run.met e mem)) ?_).same
  rintro ⟨e, mem, -, rfl⟩
  rcases (custodial_of_unguarded unguarded run addressed.inNamespace e mem).about addressed with
    own | isEvent
  · exact cluster (congrArg ObjectKey.kind own)
  · exact event isEvent

end

/-- A cluster that has been deleted, in an example. -/
def leaving : Cluster :=
  { joining with
    metadata := { joining.metadata with deletionTimestamp := some ⟨2024, 5, 1, 12, 0, 0⟩ } }

/-- The cleanup ends the series, tells an event and takes the finalizer away. -/
theorem reconcileGuarded_leaving :
    leaving.reconcileGuarded {} =
      .measure (.reconciliation "mongodbcluster") (.measure (.forget "prod" "db")
        (((((Event.publish ⟨"DeleteRequested", String.join ["Delete `", "db", "`"], "Deleting"⟩
          leaving).bind fun _ => .done .awaitChange).mapFailure .cleanup).bind fun action =>
            ((Client.patch resource "prod" "db" (removeFinalizer 0)).mapFailure .remove).bind
              fun _ => .done action).attempt.bind fun r => .ofExcept (finalizeOutcome r))) := rfl

/-- All that is counted when it is reconciled is that, and the end of its series. -/
theorem measurements_leaving (run : (leaving.reconcileGuarded {}).Logs meets s js o s') :
    Entry.measurements js = [.reconciliation "mongodbcluster", .forget "prod" "db"] := by
  have asks {α : Type} {t : Resource α} {r? : Option Request} : (Client.exchange t r?).Silent :=
    Program.exchange_silent
  rw [reconcileGuarded_leaving] at run
  cases run with
  | measure run =>
    cases run with
    | measure run =>
      exact congrArg (_ :: _ :: ·) (run.measurements_of_silent <| .bind (.attempt (.bind
        (.mapFailure _ (.bind (Event.publish_silent _) fun _ => trivial)) fun _ =>
          .bind (.mapFailure _ asks) fun _ => trivial)) fun _ => .ofExcept _)

/-- A server with that cluster and with another one of the name of its first secret. -/
def leavingServer : Server where
  objects :=
    [(leaving.ownKey "prod", joiningObject.setAt ["metadata", "deletionTimestamp"]
      (.string "2024-05-01T12:00:00Z")),
     (⟨Cluster.type.kind, "prod", leaving.configSecretName⟩,
      joiningObject.setAt ["metadata", "name"] (.string "db-config")),
     (leaving.documentSecret "prod", .object []),
     (⟨Secret.objectType.kind, "prod", leaving.configSecretName ++ "-config"⟩, .object [])]

/-- The example has such a run. -/
theorem exists_run_leaving : ∃ js o s',
    (leaving.reconcileGuarded {}).Logs Exchange.Served leavingServer js o s' ∧
    Entry.measurements js = [.reconciliation "mongodbcluster", .forget "prod" "db"] ∧
    ∀ e ∈ Entry.exchanges js, leaving.Faithful "prod" e.request e.response := by
  have total (s : Server) (r : Request) : ∃ response after,
      (Exchange.mk s r response after).Served := ⟨(s.serve r).2, (s.serve r).1, rfl⟩
  obtain ⟨es, o, s', run⟩ := Program.exists_runs total (leaving.reconcileGuarded {}) leavingServer
  obtain ⟨js, logs, -⟩ := run.exists_logs
  have unguarded : ¬ leaving.Guarded := fun guarded => by cases guarded.living
  exact ⟨js, o, s', logs, measurements_leaving logs, faithful_of_unguarded unguarded logs.runs rfl⟩

/-- The other cluster and its document stay, and so does what the gauge shows for it. -/
theorem reconcileGuarded_isolated_leaving : ∃ js o s',
    (leaving.reconcileGuarded {}).Logs Exchange.Tracked leavingServer js o s' ∧
    (∀ k ∈ keysOf "prod" "db-config", s'.objects.find? k = leavingServer.objects.find? k) ∧
    (s'.objects.find? ⟨Cluster.type.kind, "prod", "db-config"⟩).isSome = true ∧
    ∀ m : Metrics, ((Entry.measurements js).foldl Metrics.record m).tlsMode? "prod" "db-config" =
      m.tlsMode? "prod" "db-config" := by
  obtain ⟨js, o, s', run, -, faithful⟩ := exists_run_leaving
  have tracked : (leaving.reconcileGuarded {}).Logs Exchange.Tracked leavingServer js o s' :=
    run.mono fun e served => .inl (.inl served)
  have other : "prod" ≠ "prod" ∨ "db-config" ≠ leaving.name := .inr (by decide)
  obtain ⟨-, -, -, plain, gauge⟩ := reconcileGuarded_isolated rfl other tracked faithful
  have same := (plain (by decide) (by decide)).2
  have there : (⟨Cluster.type.kind, "prod", "db-config"⟩ : ObjectKey) ∈ keysOf "prod" "db-config" :=
    .head _
  refine ⟨js, o, s', tracked, same, ?_, fun m => (gauge m).trans (if_neg (by decide +kernel))⟩
  rw [same _ there]
  rfl

/-- When the cluster `db` in `prod` goes away, the gauge forgets the one that is called `b` in
`prodd`. -/
theorem exists_shared_series : ∃ m js o s', m.tlsMode? "prodd" "b" = some TlsMode.required.number ∧
    ("prodd" ≠ "prod" ∨ "b" ≠ leaving.name) ∧
    (leaving.reconcileGuarded {}).Logs Exchange.Served leavingServer js o s' ∧
    (∀ e ∈ Entry.exchanges js, leaving.Faithful "prod" e.request e.response) ∧
    ((Entry.measurements js).foldl Metrics.record m).tlsMode? "prodd" "b" = none := by
  obtain ⟨js, o, s', run, counted, faithful⟩ := exists_run_leaving
  refine ⟨Metrics.record {} (.tlsMode "prodd" "b" .required), js, o, s',
    Metrics.tlsMode?_record _ _ _ _, .inl (by decide), run, faithful, ?_⟩
  have joined : SeriesTable.key ["prodd", "b"] = SeriesTable.key ["prod", "db"] :=
    SeriesTable.key_eq_of_join (by decide)
  rw [counted, Metrics.tlsMode?_eq_of_key joined]
  exact SeriesTable.value?_drop _ _

end Cluster

end ReplicaSetOperator
