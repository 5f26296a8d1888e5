import ReplicaSetOperator.Proofs.Operator.Conduct
import ReplicaSetOperator.Proofs.Operator.TlsFiles

/-!
# Stored documents

Every request of a reconciliation is sound (`Cluster.Asks.sound`): it reads, or it sends an object
in which no document stands but one that can be read and is consistent (`Json.Consistent`), or it
changes another part of an object than its data. What a server keeps and stores for sound requests
is the document that was there before, or a consistent one (`Request.Sound.upholds`).

So inconsistent documents are neither stored nor ever the reason of a failure
(`Cluster.never_violates`), not even where the stored document is one.
-/

namespace ReplicaSetOperator

/-! ### Objects -/

namespace Json

/-- The octets that stand in an object where a secret keeps its document. -/
def document? (object : Json) : Option Bytes :=
  (Secret.format.read object).data? documentKey

/-- Whatever document is in an object, it can be read and is consistent. -/
def Consistent (object : Json) : Prop :=
  ∀ bytes ∈ object.document?, ∃ d, Document.ofBytes bytes = .ok d ∧ d.validate = .ok ()

variable {i j object : Json}

/-- Only the data of an object decide which document is in it. -/
theorem document?_congr (same : i.get? "data" = j.get? "data") : i.document? = j.document? := by
  have data : (Secret.format.read i).data = (Secret.format.read j).data :=
    Format.present?_congr Format.secretData same
  rw [document?, document?, Secret.data?, Secret.data?, data]

/-- An object without data has no document, so that it is consistent. -/
theorem consistent_of_absent (absent : object.get? "data" = none) : object.Consistent := by
  have none : (Secret.format.read object).data = none := Format.present?_of_absent absent
  intro bytes mem
  rw [document?, Secret.data?, none] at mem
  cases mem

/-- An object with the same document is consistent as well. -/
theorem Consistent.congr (h : i.Consistent) (same : j.document? = i.document?) : j.Consistent := by
  intro bytes mem
  rw [same] at mem
  exact h bytes mem

/-- A new version does not change the document. -/
theorem document?_stamped (old : Option Json) : (object.stamped old).document? = object.document? :=
  document?_congr ((get?_stamped object old "data").trans (if_neg (by decide)))

/-- The members that a patch does not lead to are as before. -/
theorem get?_changeAt {change : Json → String → Option Json} {k name step : String}
    {path : List String} (apart : k ≠ name)
    (h : changeAt change (name :: step :: path) j = some i) : i.get? k = j.get? k := by
  obtain ⟨part, isPart, inner⟩ := Option.bind_eq_some_iff.1 h
  obtain ⟨part', -, isChanged⟩ := Option.bind_eq_some_iff.1 inner
  obtain rfl := Option.some.inj isChanged
  cases j with
  | object ms => exact (find?_insertMember k name part' ms).trans (if_neg apart)
  | array items =>
    show ((array items).replaceStep name part').get? k = _
    dsimp only [replaceStep]
    split <;> rfl
  | _ => cases isPart

end Json

/-- An operation that changes what is in the metadata, or nothing. -/
def PatchOperation.Describing : PatchOperation → Prop
  | .test _ _ => True
  | .add path _ | .remove path => ∃ step rest, path = "metadata" :: step :: rest

/-- The other parts of an object are as before. -/
theorem PatchOperation.Describing.get?_apply {o : PatchOperation} (h : o.Describing) {i j : Json}
    {name : String} (apart : name ≠ "metadata") (applies : o.apply? j = some i) :
    i.get? name = j.get? name := by
  cases o with
  | test path value =>
    change (if (j.follow? path).getD .null = value then some j else none) = some i at applies
    split at applies
    · cases applies
      rfl
    · cases applies
  | add path value =>
    obtain ⟨step, rest, rfl⟩ := h
    exact Json.get?_changeAt apart applies
  | remove path =>
    obtain ⟨step, rest, rfl⟩ := h
    exact Json.get?_changeAt apart applies

theorem PatchOperation.get?_foldlM {operations : List PatchOperation}
    (describing : ∀ o ∈ operations, o.Describing) {i j : Json} {name : String}
    (apart : name ≠ "metadata") (applies : operations.foldlM PatchOperation.apply? j = some i) :
    i.get? name = j.get? name := by
  induction operations generalizing j with
  | nil =>
    obtain rfl := Option.some.inj applies
    rfl
  | cons o operations ih =>
    obtain ⟨first, rest⟩ := List.forall_mem_cons.1 describing
    rw [List.foldlM_cons] at applies
    obtain ⟨j', isFirst, isRest⟩ := Option.bind_eq_some_iff.1 applies
    exact (ih rest isRest).trans (first.get?_apply apart isFirst)

/-- What such operations leave of an object, if they leave it at all, differs from it in its
metadata only. -/
theorem Server.find?_patch {s : Server} {r : Request} {operations : List PatchOperation}
    (describing : ∀ o ∈ operations, o.Describing) {object : Json}
    (there : (s.patch r operations).1.objects.find? (key r) = some object) :
    ∃ old, s.objects.find? (key r) = some old ∧ (object = old ∨ ∃ ms, object = .object ms) ∧
      ∀ name, name ≠ "metadata" → object.get? name = old.get? name := by
  -- the object is there, is changed, and is stored or goes away
  unfold Server.patch at there
  split at there
  · next absent =>
    rw [absent] at there
    cases there
  · next old isOld =>
    refine ⟨old, isOld, ?_⟩
    split at there
    · rw [isOld] at there
      cases there
      exact ⟨.inl rfl, fun _ _ => rfl⟩
    · next patched isPatched =>
      dsimp only at there
      split at there
      · -- an object that is released goes away
        have gone : (ObjectTable.erase _ (key r)).find? (key r) = some object := there
        rw [ObjectTable.find?_erase, if_pos rfl] at gone
        cases gone
      · rw [Server.find?_accept, if_pos rfl] at there
        obtain rfl := Option.some.inj there
        have isStamped (name : String) :=
          Json.get?_stamped patched (s.objects.find? (key r)) name
        refine ⟨.inr (Json.eq_object_of_get? ((isStamped "metadata").trans (if_pos rfl))),
          fun name apart => ((isStamped name).trans (if_neg apart)).trans ?_⟩
        exact PatchOperation.get?_foldlM describing apart isPatched

/-! ### Requests -/

/-- A request that stores no document other than consistent ones: it sends an object without such a
document, or changes another part of an object than its data. -/
inductive Request.Sound (r : Request) : Prop
  | reads (verb : r.verb = .get) (payload : r.payload = .none)
  | sends {body : Json} (verb : r.verb ≠ .merge) (payload : r.payload = .value body)
    (consistent : body.Consistent)
  | merges {name : String} {change : Json}
    (payload : r.payload = .value (Json.record [(name, some change)])) (apart : name ≠ "data")
  | patches {operations : List PatchOperation} (payload : r.payload = .patch operations)
    (describing : ∀ o ∈ operations, o.Describing)

namespace Json

/-- A record of one member has no other one. -/
theorem get?_record_singleton (name k : String) (change : Json) (apart : name ≠ k) :
    (record [(name, some change)]).get? k = none :=
  (find?_cons k name change []).trans (if_neg apart.symm)

/-- Merging one member leaves the others. -/
theorem get?_merge_record_singleton {name k : String} {change : Json} (apart : name ≠ k)
    (old : Json) : ((record [(name, some change)]).merge old).get? k = old.get? k := by
  have whole : record [(name, some change)] = .object [(name, change)] := rfl
  rw [whole]
  cases change with
  | null => rw [get?_merge_null, if_neg apart.symm]
  | _ => rw [get?_merge_singleton _ _ _ (by rintro ⟨⟩), if_neg apart.symm]

end Json

namespace Request.Sound

variable {r : Request}

/-- What is sent is consistent. -/
theorem consistent (h : r.Sound) {body : Json} (isBody : r.payload = .value body) :
    body.Consistent := by
  -- only what is sent as an object counts, or a change without data
  cases h with
  | reads _ payload =>
    rw [isBody] at payload
    cases payload
  | sends _ payload consistent =>
    rw [isBody] at payload
    cases payload
    exact consistent
  | merges payload apart =>
    rw [isBody] at payload
    cases payload
    exact Json.consistent_of_absent (Json.get?_record_singleton _ _ _ apart)
  | patches payload _ =>
    rw [isBody] at payload
    cases payload

/-- A change of an object leaves its data alone. -/
theorem get?_merge (h : r.Sound) (verb : r.verb = .merge) {body : Json}
    (isBody : r.payload = .value body) (old : Json) :
    ((if r.part = some Request.statusPart then
        Json.record [("status", some ((body.get? "status").getD .null))]
      else body).merge old).get? "data" = old.get? "data" := by
  split
  · exact Json.get?_merge_record_singleton (by decide) old
  · cases h with
    | reads reads _ =>
      rw [verb] at reads
      cases reads
    | sends sends => exact absurd verb sends
    | merges payload apart =>
      rw [isBody] at payload
      cases payload
      exact Json.get?_merge_record_singleton apart old
    | patches payload _ =>
      rw [isBody] at payload
      cases payload

/-- Operations that are asked for change the metadata only. -/
theorem describing (h : r.Sound) (verb : r.verb = .json) {operations : List PatchOperation}
    (isPatch : r.payload = .patch operations) : ∀ o ∈ operations, o.Describing := by
  cases h with
  | reads reads _ =>
    rw [verb] at reads
    cases reads
  | sends _ payload _ | merges payload _ =>
    rw [isPatch] at payload
    cases payload
  | patches payload describing =>
    rw [isPatch] at payload
    cases payload
    exact describing

end Request.Sound

/-- Whatever document is in an object that is there after an exchange, it can be read and is
consistent, or it was there before. -/
def Exchange.Upholds (e : Exchange) : Prop :=
  ∀ k object, e.after.objects.find? k = some object → object.Consistent ∨
    ∃ old, e.before.objects.find? k = some old ∧ old.document? = object.document?

/-- Nothing is stored where nothing changes. -/
theorem Exchange.Upholds.of_same {e : Exchange} (same : e.after = e.before) : e.Upholds :=
  fun _ object there => .inr ⟨object, same ▸ there, rfl⟩

/-- A server that is asked soundly keeps and stores no document but consistent ones. -/
theorem Request.Sound.upholds {e : Exchange} (h : e.request.Sound) (answered : e.Answered) :
    e.Upholds := by
  rcases answered.symm with ⟨-, same⟩ | served
  · exact .of_same same
  intro k object there
  by_cases apart : k ≠ Server.key e.request
  · rw [served.after_eq, Server.find?_serve_of_ne apart] at there
    exact .inr ⟨object, there, rfl⟩
  obtain rfl : k = Server.key e.request := not_not.1 apart
  -- what is accepted is stored with another version, and says the same
  have stores {code : Nat} {j : Json}
      (fine : j.Consistent ∨ ∃ old, e.before.objects.find? (Server.key e.request) = some old ∧
        old.document? = j.document?)
      (isThere : (e.before.accept code (Server.key e.request) j).1.objects.find?
        (Server.key e.request) = some object) :
      object.Consistent ∨ ∃ old, e.before.objects.find? (Server.key e.request) = some old ∧
        old.document? = object.document? := by
    rw [Server.find?_accept, if_pos rfl] at isThere
    obtain rfl := Option.some.inj isThere
    have same := @Json.document?_stamped j (e.before.objects.find? (Server.key e.request))
    rw [same]
    exact fine.imp_left fun consistent => consistent.congr same
  rw [served.after_eq] at there
  have step := Server.serve_serves e.before e.request
  generalize e.before.serve e.request = answer at step there
  cases step with
  | leaves _ => exact .inr ⟨object, there, rfl⟩
  | stores _ payload _ => exact stores (.inl (h.consistent payload)) there
  | applies _ payload =>
    -- of what was there before only the status is carried over
    refine stores (.inl ?_) there
    have sent := h.consistent payload
    exact sent.congr (Json.document?_congr (Json.get?_appliedOver (by decide)))
  | @merges _ old verb payload isOld =>
    -- whatever is merged, it is not the data
    refine stores (.inr ⟨old, isOld, ?_⟩) there
    exact (Json.document?_congr (h.get?_merge verb payload old)).symm
  | patches verb payload =>
    obtain ⟨old, isOld, -, same⟩ := Server.find?_patch (h.describing verb payload) there
    exact .inr ⟨old, isOld, (Json.document?_congr (same "data" (by decide))).symm⟩

/-! ### What is asked for -/

/-- What is sent of a secret says what is in it. -/
theorem Secret.document?_sent (secret : Secret) :
    (Client.sent Secret.stored.toResource secret).document? = secret.data? documentKey := by
  have data := data_read_write secret.reread
  rw [Json.document?, Secret.data?, Secret.data?]
  exact congrArg (Option.bind · _) data

/-- No certificate file is called like the document. -/
theorem Material.lookup_entry (certificate key : Bytes) :
    (entry certificate key).lookup documentKey = none := by
  have apart : documentKey ≠ Tls.fileName certificate key :=
    (Tls.fileName_ne_of_length certificate key (by decide)).symm
  rw [entry, List.lookup_cons, beq_false_of_ne apart]
  rfl

namespace Cluster

variable {admits : Request → Response → Prop} {c : Cluster} {«namespace» : String} {r : Request}

/-- What fills one of the two secrets is consistent. -/
theorem Fills.consistent {name : String} {secret : Secret} (h : c.Fills name secret) :
    (Client.sent Secret.stored.toResource secret).Consistent := by
  intro bytes mem
  rw [Secret.document?_sent, Secret.data?] at mem
  cases h with
  | @document _ d uniform valid holds =>
    rw [holds] at mem
    obtain rfl : Bytes.ofText d.text = bytes := Option.some.inj mem
    exact ⟨d, Document.ofBytes_ofText uniform, valid⟩
  | material holds =>
    rw [holds, Option.bind_some, Material.lookup_entry] at mem
    cases mem

/-- Adding the finalizer changes the metadata. -/
theorem describing_addFinalizer (finalizers : List String) :
    ∀ o ∈ addFinalizer finalizers, o.Describing := by
  cases finalizers with
  | nil => exact List.forall_mem_cons.2 ⟨trivial, List.forall_mem_singleton.2 ⟨_, _, rfl⟩⟩
  | cons => exact List.forall_mem_cons.2 ⟨trivial, List.forall_mem_singleton.2 ⟨_, _, rfl⟩⟩

theorem describing_removeFinalizer (i : Nat) : ∀ o ∈ removeFinalizer i, o.Describing :=
  List.forall_mem_cons.2 ⟨trivial, List.forall_mem_singleton.2 ⟨_, _, rfl⟩⟩

/-- Every request of a reconciliation is sound. -/
theorem Asks.sound (h : c.Asks admits «namespace» r) : r.Sound := by
  have sends {verb : Verb} {type : ObjectType} {ns name : String} {body : Json}
      (changes : verb ≠ .merge) (consistent : body.Consistent)
      (arrives : Request.about? verb type ns name (.value body) false = some r) : r.Sound :=
    .sends (Request.verb_of_about? arrives ▸ changes) (Request.payload_of_about? arrives) consistent
  have creates {type : ObjectType} {ns name : String} {body : Json} (consistent : body.Consistent)
      (arrives : Request.creating? type ns name body = some r) : r.Sound := by
    obtain ⟨verb, payload⟩ := Request.of_creating? arrives
    exact .sends (by rw [verb]; decide) payload consistent
  -- only secrets are sent with data; events, services and stateful sets have no such member
  cases h with
  | reads verb payload => exact .reads verb payload
  | states arrives => exact .merges (Request.payload_of_about? arrives) (by decide)
  | marks arrives => exact .merges (Request.payload_of_about? arrives) (by decide)
  | guards arrives =>
    exact .patches (Request.payload_of_about? arrives) (describing_addFinalizer _)
  | releases arrives =>
    exact .patches (Request.payload_of_about? arrives) (describing_removeFinalizer _)
  | tells arrives =>
    refine creates (Json.consistent_of_absent ?_) arrives
    rw [Event.body, Json.get?_record _ (by simp [ObjectType.members])]
    simp [ObjectType.members, List.lookup_cons]
  | creates fills arrives => exact creates fills.consistent arrives
  | replaces fills _ _ _ arrives => exact sends (by decide) fills.consistent arrives
  | appliesService arrives =>
    refine sends (by decide) (Json.consistent_of_absent ?_) arrives
    refine (Json.get?_recordWith_of_notMem (by simp [ObjectType.members]) (by rintro ⟨⟩)).trans ?_
    simp [ObjectType.members, List.lookup_cons]
  | appliesStatefulSet arrives =>
    refine sends (by decide) (Json.consistent_of_absent ?_) arrives
    refine (Json.get?_record _ (by simp [ObjectType.members])).trans ?_
    simp [ObjectType.members, List.lookup_cons]

end Cluster

/-- Documents that say the same are found consistent alike. -/
theorem Document.validate_of_same {p d : Document} (h : p.same d = true) :
    p.validate = d.validate := by
  rw [validate, validate, inconsistency?, inconsistency?, tls_of_same h, processes_of_same h]

namespace Cluster

variable {c : Cluster} {images : Images} {meets : Exchange → Prop} {s s' : Server}
  {es : List Exchange} {o : Outcome Failure Action}

/-- Whatever a cluster asks for, whatever the server holds and however it answers: a reconciliation
never fails because its document is inconsistent, everything that it sends is free of inconsistent
documents, and wherever the server does as it is asked or refuses, an object has a document that
can be read and is consistent, or the one that it had before. -/
theorem never_violates (run : (c.reconcileGuarded images).Runs meets s es o s') :
    (∀ f, o = .failed f → f.violates = false) ∧
    (∀ e ∈ es, ∀ body, e.request.payload = .value body → body.Consistent) ∧
    ∀ e ∈ es, e.Answered → e.Upholds := by
  -- nothing is asked of the answers
  obtain ⟨asked, -, innocent⟩ := run.conforms
    (reconcileGuarded_conforms (fun _ _ => True) c images) fun _ _ => trivial
  exact ⟨innocent, fun e mem body isBody => (asked e mem).sound.consistent isBody,
    fun e mem answered => (asked e mem).sound.upholds answered⟩

/-! ### A document that is not consistent -/

/-- A document that asks clients for certificates, and is turned down for that. -/
def strayDocument : Document :=
  { version := 1, processes := [], replicaSets := [],
    tls := { clientCertificateMode := .require } }

/-- A server with a new cluster, the user's material and that document. -/
def strayServer : Server where
  objects :=
    [(⟨"ConfigMap", "prod", "authority"⟩,
      .object [("data", .object [("ca.crt", .string "authority")])]),
     (⟨"Secret", "prod", "certificate"⟩, .object
      [("data", .object [("tls.crt", .string "Y2VydA=="), ("tls.key", .string "a2V5")])]),
     (joining.documentSecret "prod",
      Configuration.storedAs joining "prod" strayDocument none none),
     (joining.ownKey "prod", joiningObject)]

/-- What the example has in place of the document decodes. -/
theorem legible_stray : Configuration.Legible "prod" joining.configSecretName
    (strayServer.objects.find? (joining.documentSecret "prod")) :=
  .of_sent (x := Configuration.newSecret joining "prod" strayDocument)
    (ObjectMeta.sound_of_new rfl rfl rfl) rfl rfl none

theorem held_stray : Configuration.held
    (strayServer.objects.find? (joining.documentSecret "prod")) = .ok (some strayDocument) := by
  have uniform : strayDocument.Uniform := by
    rintro r ⟨⟩
  exact Configuration.held_of_legible uniform legible_stray

/-- The example has all that a reconciliation needs. -/
theorem ready_stray :
    joining.Ready "prod" {} 1 [99, 101, 114, 116] [107, 101, 121] strayServer where
  document := legible_stray
  versions := ⟨some strayDocument, held_stray, by rintro p ⟨⟩; decide⟩
  material := .none
  deployable := ⟨by rintro j ⟨⟩, by rintro j ⟨⟩, by rintro j ⟨⟩, by rintro j ⟨⟩⟩
  provided _ :=
    ⟨⟨by decide, by decide, ⟨{ data := some [("ca.crt", "authority")] }, "authority", rfl, rfl⟩,
      rfl⟩, Material.apart_of_ne (by decide) (by decide),
      Material.apart_of_ne (by decide) (by decide)⟩

/-- The cluster is stored as it is. -/
theorem shows_stray : strayServer.Shows (joining.ownKey "prod") joining :=
  shows_joining.congr rfl

/-- A document that is not consistent gives way to one that is. -/
theorem never_violates_stray : ∃ es action s' d,
    strayDocument.validate ≠ .ok () ∧
    Configuration.held (strayServer.objects.find? (joining.documentSecret "prod")) =
      .ok (some strayDocument) ∧
    (joining.reconcileGuarded {}).Runs (Exchange.Settles 3) strayServer es (.done action) s' ∧
    Configuration.held (s'.objects.find? (joining.documentSecret "prod")) = .ok (some d) ∧
    d.validate = .ok () ∧
    (∀ e ∈ es, ∀ body, e.request.payload = .value body → body.Consistent) ∧
    ∀ e ∈ es, e.Answered → e.Upholds := by
  have guarded : joining.Guarded := ⟨by decide, rfl⟩
  have settles (e : Exchange) (met : e.Settles 3) : e.Settles joining.spec.members := met
  obtain ⟨es, action, s', run, -, x, d, status, -, -, -, ⟨e, isHeld, same, build⟩, -⟩ :=
    (guarded.delivers addressed_joining (reconcile_delivers addressed_joining settles
      (Nat.zero_le _) shows_stray ready_stray)).exists_run (Exchange.exists_settles 3)
  obtain ⟨-, sent, upheld⟩ := never_violates run
  refine ⟨es, action, s', e, ?_, held_stray, run, isHeld, ?_, sent, upheld⟩
  · rintro ⟨⟩
  · rw [Document.validate_of_same same]
    exact Builder.validate_of_build build

end Cluster

end ReplicaSetOperator
