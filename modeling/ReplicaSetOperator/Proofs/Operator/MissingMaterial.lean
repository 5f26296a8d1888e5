import ReplicaSetOperator.Proofs.Operator.Convergence
import ReplicaSetOperator.Proofs.Operator.Preparation
import ReplicaSetOperator.Proofs.Operator.Restating
import ReplicaSetOperator.Proofs.Operator.Sources

/-!
# Missing material

A reconciliation that finds something wrong with the material that the user has to provide for TLS
changes nothing but the status of the cluster, whatever else is refused. What is missing it reports,
to look again soon; what cannot be read makes it fail (`Cluster.reconcile_lacking`).
-/

namespace ReplicaSetOperator

/-- What the work around the finalizer makes of the end of a reconciliation. -/
def Outcome.guarded : Outcome Failure Action → Outcome Failure Action
  | .done action => .ofExcept (Cluster.finalizeOutcome (.ok action))
  | .failed failure => .ofExcept (Cluster.finalizeOutcome (.error (.apply failure)))
  | .overflow => .overflow

namespace Cluster

variable {c x : Cluster} {«namespace» : String} {images : Images} {meets : Exchange → Prop}
  {s s' : Server} {es : List Exchange} {o : Outcome Failure Action}

/-! ### How a reconciliation ends -/

/-- What is reported as missing ends all that was to follow. -/
theorem reportMissing_bind {α β : Type} (failure : Failure) (k : α → Program Failure β) :
    (c.reportMissing failure).bind k = c.reportMissing failure := by
  unfold reportMissing
  split
  · rfl
  · show Program.bind (Program.bind _ _) k = Program.bind _ _
    rw [Program.bind_assoc]
    refine congrArg (Program.bind _) (funext fun _ => ?_)
    show Program.bind (Program.bind _ _) k = Program.bind _ _
    rw [Program.bind_assoc]
    rfl

/-- A change that is not worked out is reported, and nothing follows it. -/
theorem tlsChange_bind {α : Type} (d : TlsDescriptor) (k : Change → Program Failure α) :
    (c.tlsChange d).bind k =
      ((Material.change d).attempt : Program Failure _).bind fun r =>
        match r with
        | .ok change => k change
        | .error failure => c.reportMissing failure := by
  unfold tlsChange
  show Program.bind (Program.bind _ _) k = _
  rw [Program.bind_assoc]
  refine congrArg (Program.bind _) (funext fun r => ?_)
  cases r with
  | ok change => rfl
  | error failure => exact reportMissing_bind failure k

/-- How a reconciliation goes where something is wrong with the user's material: the cluster is
announced, the material is read, and what is missing is reported. -/
inductive Missed (c : Cluster) (meets : Exchange → Prop) (s : Server) (f : Failure) :
    List Exchange → Outcome Failure Action → Server → Prop
  | unannounced {es : List Exchange} {o' : Outcome Failure Unit} {o : Outcome Failure Action}
    {s' : Server} (first : c.announced.Runs meets s es o' s') (fails : ∀ u, o' ≠ .done u) :
    Missed c meets s f es o s'
  | announced {es₀ es₁ es₂ : List Exchange} {u : Unit} {o : Outcome Failure Action}
    {s₁ s' : Server} (first : c.announced.Runs meets s es₀ (.done u) s₁)
    (reads : ∀ e ∈ es₁, e.request.verb = .get)
    (last : (c.reportMissing f).Runs meets s₁ es₂ o s') :
    Missed c meets s f (es₀ ++ (es₁ ++ es₂)) o s'

/-- What states something is about clusters. -/
theorem Stating.isType {r : Request} (h : c.Stating «namespace» r) : r.type = Cluster.type := by
  rcases h with rfl | ⟨body, rfl⟩ <;> rfl

/-- To announce the cluster leaves the user's material alone. -/
theorem provided_of_announced {o' : Outcome Failure Unit} {s₁ : Server} {certificate key : Bytes}
    (h : c.Addressed «namespace») (first : c.announced.Runs Exchange.Answered s es o' s₁)
    (provided : Material.Provided (c.descriptor «namespace») s₁ certificate key) :
    Material.Provided (c.descriptor «namespace») s certificate key := by
  refine provided_of_same h provided fun k cluster event => ?_
  have untouched := (announced_demands h).untouched (k := k)
    (fun r stating => stating.reporting.spares cluster event) s _ _ _ first
  exact untouched.same.symm

/-- Where something is wrong with the user's material, a reconciliation misses it, whether it comes
to read the material or not. -/
theorem reconcile_missed (h : c.Addressed «namespace») (enabled : c.spec.tls.enabled = true)
    (answers : ∀ e, meets e → e.Answered) (run : (c.reconcile images).Runs meets s es o s')
    (lacking : (∀ certificate key,
        ¬ Material.Provided (c.descriptor «namespace») s certificate key) ∨
      ∃ f, Material.source (c.descriptor «namespace») s es = .error f) :
    ∃ f, Material.source (c.descriptor «namespace») s es = .error f ∧
      c.Missed meets s f es o s' := by
  have plain : Address.isPlain (c.descriptor «namespace»).namespace = true :=
    h.material.plainNamespace
  -- what is announced says nothing of the material
  have silent {es : List Exchange} {o : Outcome Failure Unit} {s₁ : Server}
      (first : c.announced.Runs meets s es o s₁) : ∀ e ∈ es, e.request.type = Cluster.type :=
    fun e mem => (first.mem (announced_demands h) e mem).2.isType
  -- material that is there and has been seen is not lacking
  have clash {ca : String} {certificate key : Bytes}
      (provided : Material.Provided (c.descriptor «namespace») s certificate key)
      (isSource : Material.source (c.descriptor «namespace») s es = .ok (ca, certificate, key)) :
      False := by
    rcases lacking with none | ⟨f, isError⟩
    · exact none certificate key provided
    · cases isSource.symm.trans isError
  have stopped {o' : Outcome Failure Unit} (first : c.announced.Runs meets s es o' s')
      (fails : ∀ u, o' ≠ .done u) :
      ∃ f, Material.source (c.descriptor «namespace») s es = .error f ∧
        c.Missed meets s f es o s' := by
    have same := Material.source_append (s := s) [] plain (silent first)
    rw [List.append_nil] at same
    -- the material has not been read, so that it is what would be read that counts
    cases would : Material.source (c.descriptor «namespace») s [] with
    | error f => exact ⟨f, same.trans would, .unannounced first fails⟩
    | ok material => exact (clash (Material.provided_of_source would) (same.trans would)).elim
  rw [reconcile_eq h] at run
  rcases run.of_bind with ⟨es₀, u, s₁, es', first, rest, rfl⟩ | ⟨e, first, rfl⟩ | ⟨first, rfl⟩
  · rw [tlsChange_bind] at rest
    have skip (es : List Exchange) := Material.source_append (s := s) es plain (silent first)
    have announced := first.mono answers
    rcases rest.of_bind with ⟨es₁, r, s₂, es₂, tried, last, rfl⟩ | ⟨e, tried, rfl⟩ | ⟨tried, rfl⟩
    · obtain ⟨o', inner, isEnd⟩ := tried.of_attempt
      rcases Material.change_sees enabled plain _ _ _ (inner.mono answers) with
        ⟨f, rfl, rfl, reads, sees⟩ | ⟨-, ca, certificate, key, provided, sees⟩
      · cases isEnd
        exact ⟨f, (skip _).trans (sees s es₂), .announced first reads last⟩
      · exact (clash (provided_of_announced h announced provided)
          ((skip _).trans (sees s es₂))).elim
    · -- an attempt does not fail
      obtain ⟨o', inner, isEnd⟩ := tried.of_attempt
      cases o' <;> cases isEnd
    · obtain ⟨o', inner, isEnd⟩ := tried.of_attempt
      rcases Material.change_sees enabled plain _ _ _ (inner.mono answers) with
        ⟨f, rfl, rfl, reads, sees⟩ | ⟨-, ca, certificate, key, provided, sees⟩
      · cases isEnd
      · have sees := sees s []
        rw [List.append_nil] at sees
        exact (clash (provided_of_announced h announced provided) ((skip _).trans sees)).elim
  · exact stopped first fun u => by rintro ⟨⟩
  · exact stopped first fun u => by rintro ⟨⟩

/-! ### What it leaves behind -/

/-- All requests read or are about the status of the cluster, and nothing else has changed. -/
structure Harmless (c : Cluster) («namespace» : String) (s : Server) (es : List Exchange)
    (s' : Server) : Prop where
  requests : ∀ e ∈ es, e.request.verb = .get ∨
    ∃ body, e.request = .about .merge Cluster.type «namespace» c.name (.value body) true
  others : ∀ k, k ≠ c.ownKey «namespace» → s'.objects.find? k = s.objects.find? k
  own : Option.Rel Json.Restated (s.objects.find? (c.ownKey «namespace»))
    (s'.objects.find? (c.ownKey «namespace»))

/-- If each request reads or states something, all but the status is as before. -/
theorem harmless_of_requests (links : Links s es s') (answered : ∀ e ∈ es, e.Answered)
    (requests : ∀ e ∈ es, e.request.verb = .get ∨ c.Stating «namespace» e.request) :
    c.Harmless «namespace» s es s' where
  requests e mem := by
    rcases requests e mem with reads | reads | merges
    · exact .inl reads
    · exact .inl (by rw [reads]; rfl)
    · exact .inr merges
  others k apart := by
    refine (links.untouched (fun e mem => (answered e mem).sparing) ?_).same
    rintro ⟨e, mem, wrote, about⟩
    rcases requests e mem with reads | reads | ⟨body, merges⟩
    · exact wrote.1 reads
    · exact wrote.1 (by rw [reads]; rfl)
    · rw [merges] at about
      exact apart about.symm
  -- every patch of the status restates, and this is transitive
  own := by
    refine links.preserves (fun s' => Option.Rel Json.Restated
      (s.objects.find? (c.ownKey «namespace»)) (s'.objects.find? (c.ownKey «namespace»)))
      (fun e mem before => Json.restates_trans before ?_) (Json.restates_of_eq rfl)
    rcases requests e mem with reads | stating
    · exact Json.restates_of_eq ((answered e mem).untouched (.inl reads)).same
    · exact stating.restates (answered e mem)

/-- Whatever is missed, each request reads or states something. -/
theorem Missed.requests {f : Failure} (addressed : c.Addressed «namespace»)
    (h : c.Missed meets s f es o s') :
    ∀ e ∈ es, e.request.verb = .get ∨ c.Stating «namespace» e.request := by
  have announces {es : List Exchange} {o : Outcome Failure Unit} {s' : Server}
      (first : c.announced.Runs meets s es o s') :
      ∀ e ∈ es, e.request.verb = .get ∨ c.Stating «namespace» e.request :=
    fun e mem => .inr (first.mem (announced_demands addressed) e mem).2
  cases h with
  | unannounced first fails => exact announces first
  | announced first reads last =>
    refine List.forall_mem_append.2 ⟨announces first, List.forall_mem_append.2 ⟨fun e mem =>
      .inl (reads e mem), fun e mem => .inr ?_⟩⟩
    exact (last.mem (reportMissing_demands addressed f) e mem).2

/-- What is reported, and how the reconciliation ends, when something is wrong with the user's
material. -/
inductive Tells (c x : Cluster) («namespace» : String) (es : List Exchange) (s' : Server) :
    Failure → Outcome Failure Action → Prop
  | missing {what text : String} {status : ClusterStatus}
    (isText : text = "SourceMaterialMissing: " ++ what)
    (shows : s'.Shows (c.ownKey «namespace») { x with status := some status })
    (phase : status.phase = some "Pending") (message : status.message = some text)
    (condition : Condition.Says tlsCondition ⟨false, .tlsConfigInvalid, text⟩
      x.metadata.generation status.conditions) :
    Tells c x «namespace» es s' (.plain (.materialMissing what))
      (.done (.requeue missingMaterialRequeue))
  | unread {e : StoreError}
    (requests : ∀ e ∈ es, e.request.verb = .get ∨ c.status = none ∧
      ∃ phase, e.request = Status.patching c «namespace» (Status.phased phase none)) :
    Tells c x «namespace» es s' (.plain (.readFailed e))
      (.failed (.plain (.finalizer (.apply (.plain (.readFailed e))))))

/-- What is missing is reported, to be looked for again. -/
theorem reportMissing_reports {α : Type} (addressed : c.Addressed «namespace»)
    (clusters : ∀ e, meets e → e.request.type = Cluster.type → e.Served) {m : MissingMaterial}
    {text : String} (isText : text = "SourceMaterialMissing: " ++ m.message)
    (h : s.Shows (c.ownKey «namespace») x) :
    (c.reportMissing (Material.lacking m) : Program Failure α).Ensures meets s fun _ o s' =>
      o = .failed (.retry (.materialMissing m.message) missingMaterialRequeue) ∧
      ∃ status : ClusterStatus, s'.Shows (c.ownKey «namespace») { x with status := some status } ∧
        status.phase = some "Pending" ∧ status.message = some text ∧
        Condition.Says tlsCondition ⟨false, .tlsConfigInvalid, text⟩ x.metadata.generation
          status.conditions ∧
        ∀ other, tlsCondition ≠ other →
          Condition.find? other status.conditions =
            Condition.find? other (x.status.getD {}).conditions := by
  have parts : (c.reportMissing (Material.lacking m) : Program Failure α) =
      (Status.setCondition c tlsCondition ⟨false, .tlsConfigInvalid, text⟩).bind fun _ =>
        (Status.patch c (Status.phased .pending (some text))).bind fun _ =>
          .fail (.retry (.materialMissing m.message) missingMaterialRequeue) := by
    rw [isText]
    rfl
  rw [parts]
  -- the condition is set first, and then the phase
  refine Program.Achieves.bind_ensures
    (Status.setCondition_delivers addressed clusters _ _ h) ?_
  rintro es - s₁ ⟨-, cs, shows, told, others⟩
  refine Program.Achieves.bind_ensures (Status.patch_delivers addressed clusters
    (ClusterStatus.turns_phase .pending (some text)) shows) ?_
  rintro es' - s₂ ⟨-, shows⟩
  exact .fail ⟨rfl, _, shows, rfl, rfl, told, others⟩

/-- The announcement asks for phases, and only where there is no status. -/
theorem announced_asks (addressed : c.Addressed «namespace») : c.announced.Demands fun r =>
    c.status = none ∧ ∃ phase, r = Status.patching c «namespace» (Status.phased phase none) := by
  unfold announced
  split
  · next absent =>
    have absent : c.status = none := Option.isNone_iff_eq_none.1 absent
    have patch (phase : Phase) := (Status.patch_asks addressed (Status.phased phase none)).mono
      fun r same => (⟨absent, phase, same⟩ : c.status = none ∧
        ∃ phase, r = Status.patching c «namespace» (Status.phased phase none))
    exact .bind (patch .pending) fun _ => patch .creating
  · trivial

/-- What comes of a reconciliation when the requests about the cluster are served. -/
theorem Missed.tells {f : Failure} (addressed : c.Addressed «namespace»)
    (clusters : ∀ e, meets e → e.request.type = Cluster.type → e.Served)
    (h : s.Shows (c.ownKey «namespace») x)
    (wrong : (∃ m, f = Material.lacking m) ∨ ∃ e, f = .plain (.readFailed e))
    (missed : c.Missed meets s f es o s') : c.Tells x «namespace» es s' f o.guarded := by
  -- without the announcement nothing else is done, and that is served
  cases missed with
  | unannounced first fails =>
    obtain ⟨u, isDone, -⟩ := announced_delivers addressed clusters h _ _ _ first
    exact absurd isDone (fails u)
  | announced first reads last =>
    obtain ⟨-, -, -, shows₁⟩ := announced_delivers addressed clusters h _ _ _ first
    rcases wrong with ⟨m, rfl⟩ | ⟨e, rfl⟩
    · obtain ⟨rfl, status, shows, phase, message, told, -⟩ :=
        reportMissing_reports addressed clusters rfl shows₁ _ _ _ last
      exact .missing rfl shows phase message told
    · -- a reading that fails is passed on
      have passed : (c.reportMissing (.plain (.readFailed e)) : Program Failure Action) =
          .fail (.plain (.readFailed e)) := rfl
      rw [passed] at last
      cases last
      refine .unread (List.forall_mem_append.2 ⟨fun e mem => .inr ?_, ?_⟩)
      · exact (first.mem (announced_asks addressed) e mem).2
      · rw [List.append_nil]
        exact fun e mem => .inl (reads e mem)

/-- What is guarded is a reconciliation, and its end is taken as the guard takes it. -/
theorem Guarded.runs (h : c.Guarded) (addressed : c.Addressed «namespace»)
    (run : (c.reconcileGuarded images).Runs meets s es o s') :
    ∃ o', (c.reconcile images).Runs meets s es o' s' ∧ o = o'.guarded := by
  rw [h.reconcile_eq addressed] at run
  cases run with
  | measure rest =>
    rcases rest.of_bind with ⟨es₁, r, s₁, es₂, tried, last, rfl⟩ | ⟨e, tried, rfl⟩ | ⟨tried, rfl⟩
    · obtain ⟨o₁, mapped, isEnd⟩ := tried.of_attempt
      obtain ⟨o', inner, rfl⟩ := mapped.of_mapFailure
      -- after the reconciliation only its end is rewritten
      have ended : es₂ = [] ∧ s' = s₁ ∧ o = .ofExcept (finalizeOutcome r) :=
        (Program.Ensures.ofExcept ⟨rfl, rfl, rfl⟩ :
          (Program.ofExcept (finalizeOutcome r)).Ensures meets s₁ fun es o s' =>
            es = [] ∧ s' = s₁ ∧ o = .ofExcept (finalizeOutcome r)) _ _ _ last
      obtain ⟨rfl, rfl, rfl⟩ := ended
      rw [List.append_nil]
      refine ⟨o', inner, ?_⟩
      cases o' <;> cases isEnd <;> rfl
    · obtain ⟨o₁, mapped, isEnd⟩ := tried.of_attempt
      cases o₁ <;> cases isEnd
    · obtain ⟨o₁, mapped, isEnd⟩ := tried.of_attempt
      obtain ⟨o', inner, rfl⟩ := mapped.of_mapFailure
      refine ⟨o', inner, ?_⟩
      cases o' <;> cases isEnd
      rfl

/-- Whatever is refused, a cluster with TLS whose material is missing or cannot be read is only
reported about. If the requests about the cluster are served, missing material is reported with
what is missing, to be looked for again in ten seconds, and what cannot be read fails. -/
theorem reconcile_lacking (addressed : c.Addressed «namespace») (guarded : c.Guarded)
    (enabled : c.spec.tls.enabled = true)
    (run : (c.reconcileGuarded images).Runs Exchange.Answered s es o s')
    (lacking : (∀ certificate key,
        ¬ Material.Provided (c.descriptor «namespace») s certificate key) ∨
      ∃ f, Material.source (c.descriptor «namespace») s es = .error f) :
    c.Harmless «namespace» s es s' ∧
      ∃ f, Material.source (c.descriptor «namespace») s es = .error f ∧
        ∀ x, s.Shows (c.ownKey «namespace») x →
          (∀ e ∈ es, e.request.type = Cluster.type → e.Served) →
          c.Tells x «namespace» es s' f o := by
  obtain ⟨o', inner, rfl⟩ := guarded.runs addressed run
  obtain ⟨f, isError, missed⟩ :=
    reconcile_missed addressed enabled (fun _ => id) inner lacking
  refine ⟨harmless_of_requests inner.links inner.met (missed.requests addressed), f, isError, ?_⟩
  intro x shows clusters
  have served : (c.reconcile images).Runs
      (fun e => e.Answered ∧ (e.request.type = Cluster.type → e.Served)) s es o' s' :=
    inner.of_mem fun e mem => ⟨inner.met e mem, clusters e mem⟩
  -- the same run, of a server that serves what is about the cluster
  obtain ⟨f', isError', missed⟩ :=
    reconcile_missed addressed enabled (fun _ met => met.1) served lacking
  obtain rfl := Except.error.inj (isError.symm.trans isError')
  exact missed.tells addressed (fun _ met => met.2) shows (Material.source_error isError)

/-! ### Material that is missing or cannot be read -/

/-- A cluster with TLS that names no material, in an example, as it is stored. -/
def unpreparedObject : Json :=
  .object
    [("metadata", .object
      [("finalizers", .array [.string finalizerName]), ("name", .string "db"),
       ("namespace", .string "prod")]),
     ("spec", .object
      [("security", .object [("tls", .object [("enabled", .bool true)])])])]

/-- The cluster. -/
def unprepared : Cluster where
  metadata :=
    { name := some "db", «namespace» := some "prod", finalizers := some [finalizerName] }
  spec := { tls := { enabled := true } }

/-- A server with nothing but the cluster. -/
def unpreparedServer : Server where
  objects := [(unprepared.ownKey "prod", unpreparedObject)]

/-- The cluster of the example is kept. -/
theorem shows_unprepared : unpreparedServer.Shows (unprepared.ownKey "prod") unprepared := by
  refine ⟨unpreparedObject, rfl, ⟨⟨_, rfl, by unfold Json.Ascending; decide⟩, rfl, ?_⟩, rfl⟩
  rintro v ⟨⟩

/-- A server on which the user's secret has a certificate without its key. -/
def keylessServer : Server where
  objects :=
    [(⟨"ConfigMap", "prod", "authority"⟩,
      .object [("data", .object [("ca.crt", .string "authority")])]),
     (⟨"Secret", "prod", "certificate"⟩,
      .object [("data", .object [("tls.crt", .string "Y2VydA==")])]),
     (joining.ownKey "prod", joiningObject)]

theorem shows_keyless : keylessServer.Shows (joining.ownKey "prod") joining :=
  shows_joining.congr rfl

/-- A reconciliation ends with a text in the status, and is to be done again soon. -/
def ReportsMissing (c : Cluster) (s : Server) (text : String) : Prop :=
  ∃ (es : List Exchange) (s' : Server) (status : ClusterStatus),
    (c.reconcileGuarded {}).Runs Exchange.Answered s es
      (.done (.requeue missingMaterialRequeue)) s' ∧
    c.Harmless "prod" s es s' ∧
    s'.Shows (c.ownKey "prod") { c with status := some status } ∧
    status.phase = some "Pending" ∧ status.message = some text

/-- The cluster whose material is complete, after it has been announced. -/
def informed : Cluster := { joining with status := some {} }

/-- A server that does not let the config map be read. -/
def unreadable : Exchange where
  before := joiningServer
  request := .about .get ConfigMap.objectType "prod" "authority" .none false
  response := .failing 500 "InternalError" "etcdserver: request timed out"
  after := joiningServer

/-- What the refusal comes to. -/
def unreadableFailure : Failure := .plain (.readFailed (.client (.refused 500 "InternalError")))

/-- A cluster that names no config map is told so, and one whose secret lacks the key is told that;
where the config map cannot be read, nothing is told or changed. -/
theorem lacking_unprepared :
    ReportsMissing unprepared unpreparedServer
      "SourceMaterialMissing: no CA configmap configured" ∧
    ReportsMissing joining keylessServer
      "SourceMaterialMissing: tls.key not found in secret certificate" ∧
    (informed.reconcileGuarded {}).Runs Exchange.Answered joiningServer [unreadable]
      (.failed (.plain (.finalizer (.apply unreadableFailure)))) joiningServer ∧
    informed.Harmless "prod" joiningServer [unreadable] joiningServer ∧
    Material.source (informed.descriptor "prod") joiningServer [unreadable] =
      .error unreadableFailure := by
  -- what the server lacks is what a run that is refused nothing sees
  have told {c : Cluster} {s : Server} {m : MissingMaterial} (addressed : c.Addressed "prod")
      (guarded : c.Guarded) (enabled : c.spec.tls.enabled = true)
      (kept : s.Shows (c.ownKey "prod") c)
      (isLacking : Material.source (c.descriptor "prod") s [] = .error (Material.lacking m)) :
      c.ReportsMissing s ("SourceMaterialMissing: " ++ m.message) := by
    obtain ⟨es, o, s', run⟩ := Program.exists_runs
      (fun s r => ⟨_, _, Exchange.served_exchange s r⟩) (c.reconcileGuarded {}) s
    have answered := run.mono fun e => (.inl : e.Served → e.Answered)
    have unprovided (certificate key : Bytes) :
        ¬ Material.Provided (c.descriptor "prod") s certificate key := by
      intro provided
      obtain ⟨ca, isSource⟩ := Material.source_of_provided provided
      cases isLacking.symm.trans isSource
    -- the theorem says that what is seen is reported
    obtain ⟨harmless, f, isError, tells⟩ :=
      reconcile_lacking addressed guarded enabled answered (.inl unprovided)
    have calm : ∀ e ∈ es, e.request.verb = .get ∨ e.request.type = Cluster.type := by
      intro e mem
      refine (harmless.requests e mem).imp_right ?_
      rintro ⟨body, merges⟩
      exact congrArg Request.type merges
    have plain : Address.isPlain (c.descriptor "prod").namespace = true :=
      addressed.material.plainNamespace
    have sees := Material.source_of_served plain run.links run.met calm
    obtain rfl := Except.error.inj ((sees.trans isLacking).symm.trans isError)
    cases tells c kept fun e mem _ => run.met e mem with
    | missing isText shows phase message condition =>
      exact ⟨es, s', _, answered, harmless, shows, phase, message.trans (congrArg some isText)⟩
  have addressed : informed.Addressed "prod" := addressed_joining.congr rfl
  have guarded : informed.Guarded := ⟨by decide, rfl⟩
  have isError : Material.source (informed.descriptor "prod") joiningServer [unreadable] =
      .error unreadableFailure := rfl
  have run : (informed.reconcileGuarded {}).Runs Exchange.Answered joiningServer [unreadable]
      (.failed (.plain (.finalizer (.apply unreadableFailure)))) joiningServer := by
    rw [guarded.reconcile_eq addressed]
    -- the first reading is refused, which ends the reconciliation
    exact .measure (.request (.inr ⟨rfl, rfl⟩) (.fail _ _))
  exact ⟨told ⟨rfl, by decide, by decide, by decide, by decide, by decide⟩ ⟨by decide, rfl⟩ rfl
      shows_unprepared rfl,
    told addressed_joining ⟨by decide, rfl⟩ rfl shows_keyless rfl, run,
    (reconcile_lacking addressed guarded rfl run (.inr ⟨_, isError⟩)).1, isError⟩

end Cluster

end ReplicaSetOperator
