import ReplicaSetOperator.Proofs.Operator.Isolation

/-!
# Letting go of a cluster

What is done for a deleted cluster that has the finalizer: an event is told, and the finalizer is
taken away. What the cluster owns goes away with it, so that nothing else is to be waited for.

The server takes the finalizer away at a rank (`Json.foldlM_removeFinalizer`), and the cluster is
gone if nothing else holds it (`Server.LetsGo`). But it is not asked to if it does not let the event
be told: then the reconciliation fails and everything stays as it is
(`Cluster.reconcileGuarded_parts`), as often as it is tried (`Cluster.Passes.stuck`). A namespace
that is going away lets no event be told, ever.
-/

namespace ReplicaSetOperator

/-! ### Taking a finalizer away -/

namespace Json

variable {object object' : Json} {i : Nat}

/-- The finalizers of an object. -/
def finalizers (object : Json) : List Json :=
  ((object.at? Cluster.finalizersPath).bind array?).getD []

/-- An object without the finalizer of a rank. -/
def withoutFinalizer (object : Json) (i : Nat) : Json :=
  object.setAt Cluster.finalizersPath (.array (object.finalizers.eraseIdx i))

/-- The finalizers of an object are found in its metadata. -/
theorem finalizers_eq (object : Json) : object.finalizers =
    (((object.get? "metadata").bind (·.get? "finalizers")).bind array?).getD [] := by
  rw [finalizers, Cluster.finalizersPath, at?_pair]

/-- A name that is no index leads to a member. -/
theorem step?_of_index?_eq_none {step : String} (isWord : index? step = none) (j : Json) :
    j.step? step = j.get? step := by
  cases j with
  | array items => exact congrArg (Option.bind · _) isWord
  | _ => rfl

/-- Replacing what a step leads to by its name sets the member. -/
theorem replaceStep_of_get? {j part : Json} {step : String} (there : j.get? step = some part)
    (part' : Json) : j.replaceStep step part' = j.set step part' := by
  obtain ⟨ms, rfl⟩ := eq_object_of_get? there
  rfl

/-- A word is no index, if not all its characters are digits. -/
theorem index?_eq_none_of_all {step : String} (isWord : step.toList.all Char.isDigit = false) :
    index? step = none := by
  rw [index?, String.all_bool_eq, isWord, Bool.not_false, Bool.or_true]
  rfl

/-- The two words on the way to the finalizers are no indices. -/
theorem index?_words : index? "metadata" = none ∧ index? "finalizers" = none :=
  ⟨index?_eq_none_of_all (by decide), index?_eq_none_of_all (by decide)⟩

/-- The last step leads into the list of finalizers. -/
theorem follow?_finalizer (object : Json) (i : Nat) :
    object.follow? ["metadata", "finalizers", toString i] =
      ((object.get? "metadata").bind (·.get? "finalizers")).bind (·.step? (toString i)) := by
  obtain ⟨outer, inner⟩ := index?_words
  simp only [follow?, step?_of_index?_eq_none outer, step?_of_index?_eq_none inner,
    Option.bind_assoc, Option.bind_fun_some]

/-- Removing what it leads to changes that list, in the metadata of the object. -/
theorem changeAt_finalizer (object : Json) (i : Nat) :
    changeAt removePart ["metadata", "finalizers", toString i] object =
      (object.get? "metadata").bind fun metadata => (metadata.get? "finalizers").bind fun list =>
        (list.removePart (toString i)).map fun list =>
          object.set "metadata" (metadata.set "finalizers" list) := by
  -- both words are names of members, so that each step goes into a member and puts it back
  obtain ⟨outer, inner⟩ := index?_words
  show (object.step? "metadata").bind (fun metadata => ((metadata.step? "finalizers").bind
    fun list => (list.removePart (toString i)).bind fun list =>
      some (metadata.replaceStep "finalizers" list)).bind fun metadata =>
        some (object.replaceStep "metadata" metadata)) = _
  rw [step?_of_index?_eq_none outer]
  refine Option.bind_congr fun metadata there => ?_
  rw [step?_of_index?_eq_none inner, Option.bind_assoc]
  refine Option.bind_congr fun list there' => ?_
  rw [Option.bind_assoc]
  simp only [Option.bind_some, replaceStep_of_get? there, replaceStep_of_get? there']
  exact Option.map_eq_bind.symm

/-- The rank of an item leads to it. -/
theorem step?_rank (items : List Json) (i : Nat) :
    (array items).step? (toString i) = items[i]? := by
  rw [step?, index?_toString, Option.bind_some]

/-- The item of a rank can be removed if there is one. -/
theorem removePart_rank (items : List Json) (i : Nat) :
    (array items).removePart (toString i) =
      if i < items.length then some (.array (items.eraseIdx i)) else none := by
  rw [removePart, index?_toString, Option.bind_some]

/-- What the patch of a finalizer does: it tests the finalizer and takes it away. -/
theorem foldlM_removeFinalizer_eq (object : Json) (i : Nat) :
    (Cluster.removeFinalizer i).foldlM PatchOperation.apply? object =
      if (object.follow? ["metadata", "finalizers", toString i]).getD .null =
          .string finalizerName then
        changeAt removePart ["metadata", "finalizers", toString i] object
      else none := by
  show Option.bind (if (object.follow? ["metadata", "finalizers", toString i]).getD .null = _
    then some object else none) (fun object =>
      (changeAt removePart ["metadata", "finalizers", toString i] object).bind some) = _
  split
  · exact Option.bind_fun_some _
  · rfl

/-- The patch takes the finalizer of a rank away if it is the operator's, and does not fit
otherwise. -/
theorem foldlM_removeFinalizer :
    (Cluster.removeFinalizer i).foldlM PatchOperation.apply? object = some object' ↔
      object.finalizers[i]? = some (.string finalizerName) ∧
        object' = object.withoutFinalizer i := by
  rw [foldlM_removeFinalizer_eq, follow?_finalizer, changeAt_finalizer, withoutFinalizer,
    finalizers_eq]
  cases outside : object.get? "metadata" with
  | none => simp
  | some metadata =>
    simp only [Option.bind_some]
    cases inside : metadata.get? "finalizers" with
    | none => simp
    | some list =>
      simp only [Option.bind_some]
      -- only an array has items to be taken away
      cases list with
      | array items =>
        have put : object.setAt Cluster.finalizersPath (.array (items.eraseIdx i)) =
            object.set "metadata" (metadata.set "finalizers" (.array (items.eraseIdx i))) := by
          rw [Cluster.finalizersPath, setAt, outside]
          rfl
        rw [step?_rank, removePart_rank]
        show _ ↔ items[i]? = _ ∧ object' = object.setAt _ (.array (items.eraseIdx i))
        rw [put]
        by_cases within : i < items.length
        · simp [within, eq_comm]
        · simp [within]
      | _ => simp [array?, removePart]

/-- An object is left with its other finalizers. -/
theorem finalizers_withoutFinalizer (object : Json) (i : Nat) :
    (object.withoutFinalizer i).finalizers = object.finalizers.eraseIdx i := by
  rw [finalizers_eq, withoutFinalizer, Cluster.finalizersPath, get?_setAt_pair, if_pos rfl,
    Option.bind_some, get?_set, if_pos rfl]
  rfl

/-- A new version does not change the finalizers. -/
theorem finalizers_stamped (object : Json) (old : Option Json) :
    (object.stamped old).finalizers = object.finalizers :=
  congrArg (fun list => (Option.bind list array?).getD [])
    (at?_stamped_metadata object old (by decide))

end Json

/-! ### What the server does -/

/-- From one server to another nothing changes but that an object is let go by one of its
finalizers, the operator's, which has a rank. It stays without that if anything else holds it, or
if it has not been deleted, and is gone otherwise. -/
structure Server.LetsGo (s : Server) (k : ObjectKey) (i : Nat) (object : Json) (s' : Server) :
    Prop where
  there : s.objects.find? k = some object
  held : object.finalizers[i]? = some (.string finalizerName)
  left : s'.objects.find? k =
    if (object.withoutFinalizer i).isReleased then none
    else some ((object.withoutFinalizer i).stamped (some object))
  others : ∀ k', k' ≠ k → s'.objects.find? k' = s.objects.find? k'

namespace Server.LetsGo

variable {s s' : Server} {k : ObjectKey} {i : Nat} {object remaining : Json}

/-- What is left of the object has its other finalizers, in the same order. -/
theorem finalizers (h : s.LetsGo k i object s') (found : s'.objects.find? k = some remaining) :
    remaining.finalizers = object.finalizers.eraseIdx i := by
  rw [h.left] at found
  split at found
  · cases found
  · obtain rfl := Option.some.inj found
    rw [Json.finalizers_stamped, Json.finalizers_withoutFinalizer]

/-- Nothing is left of it only if nothing else holds it. -/
theorem unheld (h : s.LetsGo k i object s') (gone : s'.objects.find? k = none) :
    object.finalizers.eraseIdx i = [] := by
  rw [h.left] at gone
  split at gone
  · next released =>
    have unheld := (Bool.and_eq_true_iff.1 released).2
    rw [← Json.finalizers_withoutFinalizer]
    exact List.isEmpty_iff.1 unheld
  · cases gone

end Server.LetsGo

/-- The server does what it is asked, but for requests about events, which it may answer in any
way. -/
def Exchange.ServedButEvents (e : Exchange) : Prop :=
  e.Served ∨ e.request.type = Event.type ∧ e.after = e.before

/-- What is told in an event changes nothing, whatever is answered. -/
theorem Exchange.ServedButEvents.same {e : Exchange} (met : e.ServedButEvents)
    (tells : e.request.type = Event.type) : e.after = e.before := by
  rcases met with served | ⟨-, same⟩
  · have echoed := Server.serve_event (s := e.before) (congrArg ObjectType.kind tells)
    rw [served.after_eq, echoed]
  · exact same

theorem Exchange.ServedButEvents.served {e : Exchange} (met : e.ServedButEvents)
    (stored : e.request.type ≠ Event.type) : e.Served :=
  met.resolve_right fun tells => stored tells.1

/-- The server gives one answer to every request about an event, and does all else that it is
asked. -/
def Exchange.AnswersEvents (answer : Response) (e : Exchange) : Prop :=
  if e.request.type = Event.type then e.response = answer ∧ e.after = e.before else e.Served

namespace Exchange.AnswersEvents

variable {answer : Response} {e : Exchange}

/-- There is such an answer to every request. -/
theorem total (answer : Response) (s : Server) (r : Request) :
    ∃ response after, (Exchange.mk s r response after).AnswersEvents answer := by
  by_cases tells : r.type = Event.type
  · exact ⟨answer, s, (if_pos tells).mpr ⟨rfl, rfl⟩⟩
  · exact ⟨(s.serve r).2, (s.serve r).1, (if_neg tells).mpr rfl⟩

/-- An event is answered in the given way, and changes nothing. -/
theorem told (h : e.AnswersEvents answer) (tells : e.request.type = Event.type) :
    e.response = answer ∧ e.after = e.before :=
  (if_pos tells).mp h

/-- So all but events is served. -/
theorem servedButEvents (h : e.AnswersEvents answer) : e.ServedButEvents := by
  by_cases tells : e.request.type = Event.type
  · exact .inr ⟨tells, (h.told tells).2⟩
  · exact .inl ((if_neg tells).mp h)

end Exchange.AnswersEvents

/-- Events, as the server answers with them. -/
def Event.resource : Resource Json where
  type := Event.type
  format := Event.format

namespace Cluster

variable {c : Cluster} {«namespace» : String} {images : Images} {s s' : Server}
  {es : List Exchange} {o : Outcome Failure Action}

/-! ### The cleanup -/

/-- A cluster that is to go away and has the finalizer. -/
structure Leaving (c : Cluster) : Prop where
  finalizer : finalizerName ∈ c.metadata.finalizers.getD []
  deleted : c.metadata.deletionTimestamp.isSome = true
  named : c.metadata.name.isSome = true

/-- The rank of the finalizer of a cluster that has it. -/
def finalizerRank (c : Cluster) : Nat :=
  ((c.metadata.finalizers.getD []).idxOf? finalizerName).getD 0

/-- The request to take the finalizer of a cluster away. -/
def releasing (c : Cluster) («namespace» : String) : Request :=
  .about .json Cluster.type «namespace» c.name (.patch (removeFinalizer c.finalizerRank))

/-- What is told of a cluster that is to go away. -/
def farewell (c : Cluster) : Event :=
  ⟨"DeleteRequested", String.join ["Delete `", c.name, "`"], "Deleting"⟩

/-- The request to tell it at a time. -/
def telling (c : Cluster) («namespace» : String) (now : Timestamp) : Request :=
  .about .create Event.type «namespace» (Event.name c now) (.value (c.farewell.body c now))

/-- A granted request to take the finalizer away lets the object go. -/
theorem letsGo_releasing {y : Cluster}
    (accepts : (s.serve (c.releasing «namespace»)).2.decode resource = .ok y) :
    ∃ object, s.LetsGo (c.ownKey «namespace») c.finalizerRank object
      (s.serve (c.releasing «namespace»)).1 := by
  have stored : Cluster.type.kind ≠ "Event" := by decide
  rw [releasing, Server.serve_patch stored] at accepts
  -- without the object, or with another finalizer at the rank, the answer is a failure
  cases there : s.objects.find? ⟨Cluster.type.kind, «namespace», c.name⟩ with
  | none =>
    rw [there, Server.absent] at accepts
    cases (Response.decode_failing _ (by omega) _ _).symm.trans accepts
  | some object =>
    rw [there] at accepts
    cases fits : (removeFinalizer c.finalizerRank).foldlM PatchOperation.apply? object with
    | none =>
      dsimp only at accepts
      rw [fits] at accepts
      cases (Response.decode_failing _ (by omega) _ _).symm.trans accepts
    | some object' =>
      obtain ⟨held, rfl⟩ := Json.foldlM_removeFinalizer.1 fits
      have patched := Server.find?_serve_patch there fits stored
      exact ⟨object, there, held, (patched _).trans (if_pos rfl),
        fun k apart => (patched k).trans (if_neg apart)⟩

/-- What is done for a cluster that is to go away, request by request. -/
theorem Leaving.reconcile_eq (h : c.Leaving) (addressed : c.Addressed «namespace»)
    (images : Images) :
    c.reconcileGuarded images =
      .measure (.reconciliation "mongodbcluster") (.measure (.forget «namespace» c.name)
        (.clock fun now => .request (c.telling «namespace» now) fun told =>
          match told.decode Event.resource with
          | .error e => .fail (.plain (.finalizer (.cleanup (.plain (.client e)))))
          | .ok _ => .request (c.releasing «namespace») fun released =>
            match released.decode resource with
            | .error e => .fail (.plain (.finalizer (.remove e)))
            | .ok _ => .done .awaitChange)) := by
  -- the finalizer has a rank, as it is there
  have found : (c.metadata.finalizers.getD []).idxOf? finalizerName = some c.finalizerRank := by
    obtain ⟨i, isRank⟩ := Option.isSome_iff_exists.1 (List.isSome_idxOf?.2 h.finalizer)
    rw [finalizerRank, isRank, Option.getD_some]
  have named : c.metadata.name = some c.name := by
    obtain ⟨name, isName⟩ := Option.isSome_iff_exists.1 h.named
    rw [isName, name_of_some isName]
  have cleans : c.cleanup =
      .measure (.forget «namespace» c.name) ((c.farewell.publish c).bind fun _ =>
        .done .awaitChange) := by
    rw [cleanup, addressed.inNamespace]
    rfl
  have finalizes : c.finalize «namespace» images =
      (c.cleanup.mapFailure .cleanup).bind fun action =>
        ((Client.patch resource «namespace» c.name (removeFinalizer c.finalizerRank)).mapFailure
          .remove).bind fun _ => .done action := by
    rw [finalize, found, h.deleted]
    dsimp only
    rw [named]
    rfl
  rw [reconcileGuarded, addressed.namespaced]
  show Program.measure _ ((c.finalize «namespace» images).attempt.bind fun r =>
    .ofExcept (finalizeOutcome r)) = _
  rw [finalizes, cleans, Event.publish_eq addressed, Client.patch_eq (t := resource)
    addressed.cluster]
  -- both sides make the same requests, and go on in the same way after each answer
  refine congrArg (fun p => Program.measure _ (.measure _ (.clock p))) (funext fun now => ?_)
  refine congrArg (Program.request _) (funext fun told => ?_)
  have asked : ({ type := Event.type, format := Event.format } : Resource Json) = Event.resource :=
    rfl
  rw [asked]
  dsimp only
  cases told.decode Event.resource with
  | error e => rfl
  | ok _ =>
    refine congrArg (Program.request (c.releasing «namespace»)) (funext fun released => ?_)
    dsimp only
    cases released.decode resource with
    | error e => rfl
    | ok _ => rfl

/-! ### Runs -/

/-- How a reconciliation of a cluster that is to go away ends: with the cluster let go if the event
is told, and otherwise with a failure and nothing changed. -/
inductive Parts (c : Cluster) («namespace» : String) (s : Server) :
    List Exchange → Outcome Failure Action → Server → Prop
  | released {told : Exchange} {event object : Json} {s' : Server}
    (tells : told.request.type = Event.type)
    (heard : told.response.decode Event.resource = .ok event)
    (letsGo : s.LetsGo (c.ownKey «namespace») c.finalizerRank object s') :
    Parts c «namespace» s [told, s.exchange (c.releasing «namespace»)] (.done .awaitChange) s'
  | stuck {told : Exchange} {e : ClientError} (tells : told.request.type = Event.type)
    (refused : told.response.decode Event.resource = .error e) :
    Parts c «namespace» s [told]
      (.failed (.plain (.finalizer (.cleanup (.plain (.client e)))))) s

/-- Where no event can be told, a reconciliation fails and changes nothing. -/
theorem Leaving.refused {meets : Exchange → Prop} (leaving : c.Leaving)
    (addressed : c.Addressed «namespace»)
    (refuses : ∀ e, meets e → e.request.type = Event.type →
      e.after = e.before ∧ ∃ failure, e.response.decode Event.resource = .error failure) :
    (c.reconcileGuarded images).Ensures meets s fun _ o s' => s' = s ∧ ∃ f, o = .failed f := by
  rw [leaving.reconcile_eq addressed]
  refine .measure (.measure (.clock fun now _ => .request fun response after met => ?_))
  obtain ⟨same, failure, heard⟩ := refuses _ met rfl
  dsimp only at same heard
  rw [heard]
  exact .fail ⟨same, _, rfl⟩

/-- However often it is tried. -/
theorem Passes.stuck {meets : Exchange → Prop} {object : Json} {n : Nat} (leaving : c.Leaving)
    (addressed : c.Addressed «namespace»)
    (refuses : ∀ e, meets e → e.request.type = Event.type →
      e.after = e.before ∧ ∃ failure, e.response.decode Event.resource = .error failure)
    (there : s.objects.find? (c.ownKey «namespace») = some object)
    (read : format.read object = c)
    (passes : Passes meets (c.ownKey «namespace») images s n s') : s' = s := by
  induction passes with
  | start => rfl
  | next before pass ih =>
    obtain rfl := ih
    obtain ⟨object', there', run⟩ := pass
    obtain rfl := Option.some.inj (there.symm.trans there')
    rw [read] at run
    exact (leaving.refused addressed refuses _ _ _ run).1

/-- Whatever is answered to the event, the answer decides: if it is one, the finalizer is taken away
and nothing is left to be done, and if not, nothing happens. -/
theorem reconcileGuarded_parts {y : Cluster} (addressed : c.Addressed «namespace»)
    (leaving : c.Leaving)
    (accepts : (s.serve (c.releasing «namespace»)).2.decode resource = .ok y)
    (run : (c.reconcileGuarded images).Runs Exchange.ServedButEvents s es o s') :
    c.Parts «namespace» s es o s' := by
  refine (?_ : (c.reconcileGuarded images).Ensures _ s (c.Parts «namespace» s)) es o s' run
  rw [leaving.reconcile_eq addressed]
  refine .measure (.measure (.clock fun now _ => .request fun response after met => ?_))
  -- an event changes nothing, so that all depends on how it is answered
  obtain rfl : after = s := met.same rfl
  cases heard : response.decode Event.resource with
  | error e => exact .fail (.stuck rfl heard)
  | ok event =>
    refine .request fun response' after' met' => ?_
    -- the request to take the finalizer away is about no event, so that it is served
    have apart : Cluster.type ≠ Event.type := by decide
    have served : after.serve (c.releasing «namespace») = (after', response') := met'.served apart
    obtain ⟨object, letsGo⟩ := letsGo_releasing accepts
    rw [served] at accepts letsGo
    dsimp only at accepts letsGo ⊢
    rw [accepts]
    refine .done ?_
    have asked : (⟨after, c.releasing «namespace», response', after'⟩ : Exchange) =
        after.exchange (c.releasing «namespace») := by
      rw [Server.exchange, served]
    rw [asked]
    exact .released rfl heard letsGo

/-! ### The cluster of the example -/

/-- The cluster of the example is to go away. -/
theorem leaving_leaving : leaving.Leaving := ⟨by decide, rfl, rfl⟩

theorem addressed_leaving : leaving.Addressed "prod" :=
  ⟨rfl, addressed_joining.cluster, addressed_joining.document, addressed_joining.material,
    addressed_joining.service, addressed_joining.statefulSet⟩

/-- The cluster as it is stored. -/
def leavingObject : Json :=
  joiningObject.setAt ["metadata", "deletionTimestamp"] (.string "2024-05-01T12:00:00Z")

theorem find?_leavingServer :
    leavingServer.objects.find? (leaving.ownKey "prod") = some leavingObject := rfl

/-- The server would let it go. -/
theorem accepts_leaving :
    ∃ y, (leavingServer.serve (leaving.releasing "prod")).2.decode resource = .ok y := by
  have fits : (removeFinalizer leaving.finalizerRank).foldlM PatchOperation.apply? leavingObject =
      some (leavingObject.withoutFinalizer leaving.finalizerRank) :=
    Json.foldlM_removeFinalizer.2 ⟨rfl, rfl⟩
  have stored : Cluster.type.kind ≠ "Event" := by decide
  rw [releasing, Server.serve_patch_there find?_leavingServer fits stored]
  exact ⟨_, Response.decode_fine _ (by omega) (by rfl)⟩

/-- An event that is told lets the cluster go, which nothing else holds. -/
theorem reconcileGuarded_parts_leaving : ∃ es s',
    (leaving.reconcileGuarded {}).Runs Exchange.ServedButEvents leavingServer es
      (.done .awaitChange) s' ∧
    leaving.Parts "prod" leavingServer es (.done .awaitChange) s' ∧
    s'.objects.find? (leaving.ownKey "prod") = none := by
  obtain ⟨y, accepts⟩ := accepts_leaving
  obtain ⟨event, fine⟩ : ∃ event, Event.format.fault .value event = none := by
    have valid : Timestamp.Valid ⟨2024, 5, 1, 12, 0, 1⟩ := by decide
    exact ⟨_, Event.fault_body leaving.farewell leaving valid⟩
  have told : (Response.holding 201 event).decode Event.resource = .ok event :=
    Response.decode_fine Event.resource (by omega) fine
  obtain ⟨es, o, s', run⟩ := Program.exists_runs
    (Exchange.AnswersEvents.total (.holding 201 event)) (leaving.reconcileGuarded {}) leavingServer
  have run' := run.mono fun e => Exchange.AnswersEvents.servedButEvents
  have parts := reconcileGuarded_parts addressed_leaving leaving_leaving accepts run'
  -- the event has been answered, so that the reconciliation is not stuck
  cases parts with
  | stuck tells refused =>
    have answer := (run.met _ (.head _)).told tells
    rw [answer.1] at refused
    cases told.symm.trans refused
  | released tells heard letsGo =>
    refine ⟨_, _, run', .released tells heard letsGo, ?_⟩
    obtain rfl := Option.some.inj (letsGo.there.symm.trans find?_leavingServer)
    rw [letsGo.left]
    rfl

/-- The answer of a namespace that is going away to whoever wants to create something there. -/
def terminating : Response :=
  .failing 403 "Forbidden"
    "unable to create new content in namespace prod because it is being terminated"

/-- In a namespace that is going away the cluster keeps its finalizer, though it could be taken
away. -/
theorem exists_stuck : leaving.Leaving ∧ leaving.Addressed "prod" ∧
    (∃ y, (leavingServer.serve (leaving.releasing "prod")).2.decode resource = .ok y) ∧
    ∃ es failure object,
      (leaving.reconcileGuarded {}).Runs Exchange.ServedButEvents leavingServer es
        (.failed failure) leavingServer ∧
      leavingServer.objects.find? (leaving.ownKey "prod") = some object ∧
      Json.string finalizerName ∈ object.finalizers := by
  refine ⟨leaving_leaving, addressed_leaving, accepts_leaving, ?_⟩
  obtain ⟨es, o, s', run⟩ := Program.exists_runs (Exchange.AnswersEvents.total terminating)
    (leaving.reconcileGuarded {}) leavingServer
  have refuses (e : Exchange) (met : e.AnswersEvents terminating)
      (tells : e.request.type = Event.type) : e.after = e.before ∧
        ∃ failure, e.response.decode Event.resource = .error failure := by
    refine ⟨(met.told tells).2, .refused 403 "Forbidden", ?_⟩
    rw [(met.told tells).1, terminating]
    exact Response.decode_failing _ (by omega) _ _
  obtain ⟨rfl, failure, rfl⟩ := leaving_leaving.refused addressed_leaving refuses _ _ _ run
  exact ⟨es, failure, leavingObject, run.mono fun e => Exchange.AnswersEvents.servedButEvents,
    find?_leavingServer, .head _⟩

end Cluster

end ReplicaSetOperator
