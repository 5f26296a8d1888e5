import ReplicaSetOperator.Proofs.Operator.Granting

/-!
# Reconciling where the members follow at once

A server that refuses nothing and lets the members follow every template at once
(`Exchange.Settles`) lets a reconciliation come to its end. It brings document and workload up to
date (`Cluster.established_delivers`), and then either it has set the marker, or the marker was
right already and the status reports that all members run the document
(`Cluster.reconcile_delivers`).
-/

namespace ReplicaSetOperator

open ReplicaSetOperator.Configuration (secretKey held Legible UpToDate)

/-! ### The server -/

namespace StatefulSetStatus

/-- The status of a stateful set when all of a number of members run the template of a
generation. -/
def live (members : Int32) (generation : Option Int64) : StatefulSetStatus :=
  { observedGeneration := generation, readyReplicas := some members, replicas := members,
    updatedReplicas := some members }

variable (members : Int32) (generation : Option Int64)

theorem live_faultless : format.Faultless (live members generation) := by
  refine Lenient.fault_recordWith ?_ rfl
  refine Lenient.fits_cons rfl (Format.Faultless.member fun i _ => Format.int64_faultless i) ?_
  refine Lenient.fits_cons rfl (Format.Faultless.member fun i _ => Format.int32_faultless i) ?_
  refine Lenient.fits_cons rfl (Format.int32_faultless members).always ?_
  refine Lenient.fits_cons rfl (Format.Faultless.member fun i _ => Format.int32_faultless i) ?_
  exact Lenient.fits_nil

theorem read_live : (format.read (format.write (live members generation))).observedGeneration =
      generation ∧
    (format.read (format.write (live members generation))).updatedReplicas = some members ∧
    (format.read (format.write (live members generation))).readyReplicas = some members := by
  -- these four members are all that is written
  have get (name : String) : (format.write (live members generation)).get? name =
      ([("observedGeneration", generation.map Format.int64.write),
        ("readyReplicas", some (Format.int32.write members)),
        ("replicas", some (Format.int32.write members)),
        ("updatedReplicas", some (Format.int32.write members))].lookup name).join :=
    Json.get?_recordWith_of_notMem (by simp) (by simp [live])
  refine ⟨?_, ?_, ?_⟩
  · show Format.int64.present? "observedGeneration" _ = _
    cases generation with
    | none => exact Format.present?_of_absent (get _)
    | some i =>
      rw [Format.present?_of_get? (get _) (by rintro ⟨⟩)]
      exact congrArg some (Format.int64_read_write i)
  · show Format.int32.present? "updatedReplicas" _ = _
    rw [Format.present?_of_get? (get _) (by rintro ⟨⟩)]
    exact congrArg some (Format.int32_read_write members)
  · show Format.int32.present? "readyReplicas" _ = _
    rw [Format.present?_of_get? (get _) (by rintro ⟨⟩)]
    exact congrArg some (Format.int32_read_write members)

end StatefulSetStatus

namespace StatefulSet

/-- The status that a stateful set has once it has been applied: all of a number of members run
it. -/
def Follows (members : Int32) (body : Json) (before status : Option Json) : Prop :=
  ∃ v, status = some v ∧ v ≠ .null ∧
    (format.read (body.appliedOver before)).Covers members (StatefulSetStatus.format.read v)

/-- Then the stateful set that is answered is rolled out. -/
theorem Follows.rolledOut {members : Int32} {body : Json} {before status : Option Json}
    (h : Follows members body before status) :
    (format.read (body.applied before status)).rolledOut members = true := by
  obtain ⟨v, rfl, apart, covers⟩ := h
  have there : (body.applied before (some v)).get? "status" = some v := by
    rw [Json.applied, Json.get?_stamped, if_neg (by decide)]
    exact (Json.get?_set _ _ _ _).trans (if_pos rfl)
  refine covers.rolledOut (Format.present?_of_get? there apart) ?_
  rw [generation_read, generation_read, Json.applied, Json.at?_stamped_metadata _ _ (by decide),
    Json.at?_pair, Json.get?_reporting (by decide), Json.at?_pair]

end StatefulSet

namespace Exchange

/-- The server refuses nothing, and once a stateful set is applied all members run it. -/
structure Settles (members : Int32) (e : Exchange) : Prop where
  applies : e.Applies (StatefulSet.Follows members)
  serves : (∀ «namespace» name body,
      e.request ≠ .about .apply StatefulSet.type «namespace» name (.value body)) → e.Served

variable {members : Int32}
namespace Settles

variable {e : Exchange}

theorem grants (h : e.Settles members) : e.Grants (StatefulSet.Follows members) :=
  ⟨h.applies, h.serves⟩

theorem served (h : e.Settles members) (apart : e.request.type ≠ StatefulSet.type) : e.Served :=
  h.grants.served apart

theorem isLocal (h : e.Settles members) : e.Local := h.grants.isLocal

theorem tracked (h : e.Settles members) : e.Tracked := h.grants.tracked

end Settles

/-- There is such an answer to every request. -/
theorem exists_settles (members : Int32) (s : Server) (r : Request) :
    ∃ response after, Settles members ⟨s, r, response, after⟩ := by
  -- only the stateful set is answered in another way than by the server alone
  by_cases applying : ∀ «namespace» name body,
      r ≠ .about .apply StatefulSet.type «namespace» name (.value body)
  · exact ⟨(s.serve r).2, (s.serve r).1,
      fun «namespace» name body same => absurd same (applying «namespace» name body), fun _ => rfl⟩
  · simp only [not_forall, not_not] at applying
    obtain ⟨«namespace», name, body, rfl⟩ := applying
    -- the status is the one that members have who have followed
    obtain ⟨before, isBefore⟩ :
        ∃ o, s.objects.find? ⟨StatefulSet.type.kind, «namespace», name⟩ = o := ⟨_, rfl⟩
    obtain ⟨status, isStatus⟩ : ∃ v, StatefulSetStatus.format.write (StatefulSetStatus.live members
      (StatefulSet.format.read (body.appliedOver before)).metadata.generation) = v := ⟨_, rfl⟩
    obtain ⟨observed, updated, ready⟩ := StatefulSetStatus.read_live members
      (StatefulSet.format.read (body.appliedOver before)).metadata.generation
    obtain ⟨answered, isAnswered⟩ : ∃ a, s.accept 200 ⟨StatefulSet.type.kind, «namespace», name⟩
      ((body.appliedOver before).reporting (some status)) = a := ⟨_, rfl⟩
    refine ⟨answered.2, answered.1, ?_, fun others => absurd rfl (others «namespace» name body)⟩
    rintro _ _ _ ⟨⟩
    refine ⟨some status, ⟨status, rfl, ?_, ?_⟩, ?_, by rw [isBefore]; exact isAnswered⟩
    · rw [← isStatus]
      rintro ⟨⟩
    · rw [← isStatus]
      show (StatefulSet.format.read (body.appliedOver
        (s.objects.find? ⟨StatefulSet.type.kind, «namespace», name⟩))).Covers _ _
      rw [isBefore]
      constructor
      · rw [observed]
        exact Int64.le_refl _
      · rw [updated]
        rfl
      · rw [ready]
        rfl
    · rintro v ⟨⟩
      rw [← isStatus]
      exact StatefulSetStatus.live_faultless members _

end Exchange

/-! ### The cluster -/

namespace Cluster

variable {c x : Cluster} {«namespace» : String} {images : Images} {certificate key : Bytes}
  {meets : Exchange → Prop} {s s' : Server}

/-- What a reconciliation has made once it turns to the marker and the status: all is as it is
wanted, and all members run it. -/
structure Established (c : Cluster) («namespace» : String) (images : Images) (room : Nat)
    (certificate key : Bytes) (s : Server) (made : Document × StatefulSet) (s' : Server) :
    Prop where
  shows : ∃ status, s'.Shows (c.ownKey «namespace») { c with status := status }
  furnished : c.Furnished «namespace» room certificate key made.1 s'
  deployable : c.Deployable «namespace» images s'
  deployed : ∃ status, c.Deployed «namespace» images s status s'
  rolledOut : made.2.rolledOut c.spec.members = true
  carries : made.2.carriesTls = c.spec.tls.enabled

/-- What a reconciliation makes of the cluster: either the marker has just been set, or it is right
and the status reports a version of the document as live. -/
structure Attained (c : Cluster) («namespace» : String) (version : Int64) (action : Action)
    (x : Cluster) : Prop where
  plain : x.plain = c.plain
  staging : c.Staging → action = .requeue markerRequeue ∧ x.tlsRolledOut = true
  settled : ¬ c.Staging → action = .requeue idleRequeue ∧
    x.tlsRolledOut = c.spec.tls.enabled ∧ ∃ status, x.status = some status ∧
      status.Reports ((c.descriptor «namespace»).report (c.descriptor «namespace»).mode)
        c.spec.members version c.metadata.generation

/-- The marker is read from the annotations. -/
theorem tlsRolledOut_of_lookup {annotations : Labels} {complete : Bool}
    (there : x.metadata.annotations = some annotations)
    (h : annotations.lookup rolloutMarker = if complete then some "true" else none) :
    x.tlsRolledOut = complete := by
  rw [tlsRolledOut, there, Option.bind_some, h]
  cases complete with
  | true => rfl
  | false => rfl

section

variable (addressed : c.Addressed «namespace»)
  (settles : ∀ e, meets e → e.Settles c.spec.members)

include addressed settles

/-- Before a reconciliation turns to the marker and the status, it applies the workload for the
document, and all members come to run it. -/
theorem established_delivers {room : Nat} (small : room ≤ 0x7ffffffffffffffe)
    (shows : s.Shows (c.ownKey «namespace») c)
    (ready : c.Ready «namespace» images (room + 1) certificate key s) :
    (c.established «namespace» images).Delivers meets (c.Tending «namespace») s
      (c.Established «namespace» images room certificate key s) := by
  have grants (e : Exchange) (met : meets e) := (settles e met).grants
  refine (arranged_delivers addressed grants small shows ready.toReadable
    fun enabled => (ready.provided enabled).1).mono ?_
  rintro ⟨d, statefulSet⟩ s' ⟨status, follows, shows', furnished, deployable, deployed, rfl⟩
  exact ⟨⟨_, shows'⟩, furnished, deployable, ⟨status, deployed⟩, follows.rolledOut,
    c.carriesTls_applied «namespace» images _ _⟩

/-- Once all members run what has been applied, the marker is set, or it is right and the status
reports what is live. -/
theorem settled_delivers {document : Document} {statefulSet : StatefulSet}
    {status : Option ClusterStatus}
    (h : s.Shows (c.ownKey «namespace») { c with status := status })
    (rolledOut : statefulSet.rolledOut c.spec.members = true)
    (carries : statefulSet.carriesTls = c.spec.tls.enabled) :
    (c.settled (c.descriptor «namespace») document statefulSet).Delivers meets
      (fun r => c.Caring «namespace» r ∨ r.type = Event.type) s fun action s' =>
        ∃ x, s'.Shows (c.ownKey «namespace») x ∧
          c.Attained «namespace» document.version action x := by
  have clusters (e : Exchange) (met : meets e) (isType : e.request.type = Cluster.type) :
      e.Served := (settles e met).served (by rw [isType]; decide)
  have events (e : Exchange) (met : meets e) (isType : e.request.type = Event.type) :
      e.Served := (settles e met).served (by rw [isType]; decide)
  -- where the marker is right, the status comes to report what is live
  have reports {s : Server} {x : Cluster} (shows : s.Shows (c.ownKey «namespace») x)
      (plain : x.plain = c.plain) (unstaged : ¬ c.Staging)
      (marked : x.tlsRolledOut = c.spec.tls.enabled) :
      (c.reportProgress (c.descriptor «namespace») true document.version).Delivers meets
        (fun r => c.Caring «namespace» r ∨ r.type = Event.type) s fun action s' =>
          ∃ x, s'.Shows (c.ownKey «namespace») x ∧
            c.Attained «namespace» document.version action x := by
    refine ((reportProgress_delivers addressed clusters (c.descriptor «namespace»)
      document.version shows).widen fun r => .inl).mono ?_
    rintro action s' ⟨rfl, status, shows, reported⟩
    have generation : x.metadata.generation = c.metadata.generation :=
      congrArg (·.metadata.generation) plain
    refine ⟨_, shows, plain, fun staging => absurd staging unstaged, fun _ => ⟨rfl, marked, ?_⟩⟩
    exact ⟨status, rfl, generation ▸ reported⟩
  unfold settled
  dsimp only
  rw [rolledOut, carries, Bool.true_and,
    show (c.descriptor «namespace»).enabled = c.spec.tls.enabled from rfl,
    show (c.descriptor «namespace»).rolloutComplete = c.tlsRolledOut from rfl]
  -- the marker has to follow whether TLS is enabled
  cases enabled : c.spec.tls.enabled with
  | true =>
    cases marked : c.tlsRolledOut with
    | true =>
      -- the marker is there and stays
      refine reports h rfl (fun staging => ?_) (marked.trans enabled.symm)
      rw [staging.2] at marked
      cases marked
    | false =>
      -- the marker is set
      refine (markRollout_delivers addressed clusters true events h).bind ?_
      rintro - s₁ ⟨annotations, shows, isMarked⟩
      refine .done ⟨_, shows, rfl, fun _ => ⟨rfl, tlsRolledOut_of_lookup rfl isMarked⟩, ?_⟩
      exact fun unstaged => absurd ⟨enabled, marked⟩ unstaged
  | false =>
    have unstaged : ¬ c.Staging := fun staging => by
      rw [staging.1] at enabled
      cases enabled
    cases marked : c.tlsRolledOut with
    | true =>
      -- the marker is cleared
      refine (markRollout_delivers addressed clusters false events h).bind ?_
      rintro - s₁ ⟨annotations, shows, isMarked⟩
      exact reports shows rfl unstaged ((tlsRolledOut_of_lookup rfl isMarked).trans enabled.symm)
    | false => exact reports h rfl unstaged (marked.trans enabled.symm)

/-- A reconciliation comes to its end: it keeps the user's material, brings the document up to date,
applies the workload and attains what can be attained of the cluster. -/
theorem reconcile_delivers {room : Nat} (small : room ≤ 0x7ffffffffffffffe)
    (shows : s.Shows (c.ownKey «namespace») c)
    (ready : c.Ready «namespace» images (room + 1) certificate key s) :
    (c.reconcile images).Delivers meets (c.Tending «namespace») s fun action s' =>
      ∃ x d status, s'.Shows (c.ownKey «namespace») x ∧
        c.Attained «namespace» d.version action x ∧
        c.Ready «namespace» images room certificate key s' ∧
        UpToDate c «namespace» (c.wanted «namespace» certificate key).apply
          (s'.objects.find? (c.documentSecret «namespace»)) d ∧
        c.Deployed «namespace» images s status s' ∧
        (c.spec.tls.enabled = true →
          Material.Holds «namespace» c.operatorSecretName certificate key s') := by
  have locally (e : Exchange) (met : meets e) : e.Local := (settles e met).isLocal
  have main : (c.reconcile images).Delivers meets (c.Tending «namespace») s fun action s' =>
      ∃ (x : Cluster) (d : Document) (status : Option Json),
        s'.Shows (c.ownKey «namespace») x ∧ c.Attained «namespace» d.version action x ∧
        c.Furnished «namespace» room certificate key d s' ∧
        c.Deployable «namespace» images s' ∧ c.Deployed «namespace» images s status s' := by
    rw [reconcile_eq_established addressed]
    refine (established_delivers addressed settles small shows ready).bind ?_
    rintro ⟨d, statefulSet⟩ s₁
      ⟨⟨status, shows₁⟩, furnished, deployable, ⟨status', deployed⟩, rolledOut, carries⟩
    -- the marker and the status
    refine (((settled_delivers addressed settles shows₁ rolledOut carries).frame
      locally).widen fun r asked => ?_).mono ?_
    · rcases asked with (reads | about) | isEvent
      · exact .inl reads
      · simp [Tending, about, ownKey]
      · exact .inr (.inl isEvent)
    rintro action s₂ ⟨⟨x, shows₂, attained⟩, same₂⟩
    have rest {k : ObjectKey} {a : String} (own : c.ownKey «namespace» ≠ k) (isKind : k.kind = a)
        (stored : a ≠ "Event") : s₂.objects.find? k = s₁.objects.find? k := by
      refine same₂ k fun r asked => ?_
      rcases asked with (reads | about) | isEvent
      · exact .inl reads
      · exact .inr fun same => own (about.symm.trans same)
      · exact .inr (ObjectKey.ne_of_kind (congrArg ObjectType.kind isEvent) isKind stored.symm)
    have service := rest (a := "Service") ownKey_ne_serviceKey rfl (by decide)
    have statefulSet := rest (a := "StatefulSet") ownKey_ne_statefulSetKey rfl (by decide)
    exact ⟨x, d, status', shows₂, attained,
      furnished.congr fun name => rest (a := "Secret") (ownKey_ne_secret _) rfl (by decide),
      deployable.frame service statefulSet,
      service.trans deployed.service, statefulSet.trans deployed.statefulSet⟩
  refine (main.frame locally).mono ?_
  rintro action s' ⟨⟨x, d, status, shows', attained, furnished, deployable, deployed⟩, same⟩
  refine ⟨x, d, status, shows', attained, ⟨⟨furnished.document, furnished.versions,
    furnished.material, deployable⟩, ?_⟩, furnished.upToDate, deployed, furnished.holds⟩
  exact ready.provided_frame addressed fun k isKind => same k fun r asked => asked.leaves isKind

end

end Cluster

end ReplicaSetOperator
