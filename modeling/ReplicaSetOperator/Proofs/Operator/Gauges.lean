import ReplicaSetOperator.Operator.Metrics
import ReplicaSetOperator.Proofs.Operator.Preparation
import ReplicaSetOperator.Proofs.Operator.Reporting

/-!
# What a reconciliation counts

The gauge of TLS modes shows a number for every cluster (`Metrics.tlsMode?`), the one that has been
counted last (`Metrics.tlsMode?_record`).

A reconciliation counts nothing before the stateful set is answered (`Cluster.established_silent`).
From there on it counts the mode of the cluster, once, unless it sets the marker
(`Cluster.settled_counts`).
-/

namespace ReplicaSetOperator

/-! ### The gauge -/

namespace SeriesTable

/-- The number of the series of some label values, if there is one. -/
def value? (values : List String) : SeriesTable → Option Nat
  | [] => none
  | (known, n) :: rest => if key known = key values then some n else value? values rest

/-- What is altered is what is found; it begins with zero. -/
theorem value?_alter (values : List String) (f : Nat → Nat) (t : SeriesTable) :
    (t.alter values f).value? values = some (f ((t.value? values).getD 0)) := by
  induction t with
  | nil => exact if_pos rfl
  | cons entry rest ih =>
    obtain ⟨known, n⟩ := entry
    rw [alter, value?]
    by_cases same : key known = key values
    · rw [if_pos same, if_pos same]
      exact if_pos same
    · rw [if_neg same, if_neg same]
      exact (if_neg same).trans ih

/-- Other series stay when one is altered. -/
theorem value?_alter_of_ne {values other : List String} (apart : key other ≠ key values)
    (f : Nat → Nat) (t : SeriesTable) : (t.alter values f).value? other = t.value? other := by
  induction t with
  | nil => exact if_neg (Ne.symm apart)
  | cons entry rest ih =>
    obtain ⟨known, n⟩ := entry
    rw [alter]
    split
    · next same =>
      have others : key known ≠ key other := fun h => apart (h.symm.trans same)
      rw [value?, if_neg others, value?, if_neg others]
    · rw [value?, value?, ih]

/-- A series that is dropped is not there any more. -/
theorem value?_drop (values : List String) (t : SeriesTable) :
    (t.drop values).value? values = none := by
  induction t with
  | nil => rfl
  | cons entry rest ih =>
    rw [drop, List.filter_cons]
    split
    · next kept => exact (if_neg (bne_iff_ne.1 kept)).trans ih
    · exact ih

/-- Other series stay then as well. -/
theorem value?_drop_of_ne {values other : List String} (apart : key other ≠ key values)
    (t : SeriesTable) : (t.drop values).value? other = t.value? other := by
  -- the entries are kept or left out one by one
  induction t with
  | nil => rfl
  | cons entry rest ih =>
    obtain ⟨known, n⟩ := entry
    rw [drop, List.filter_cons]
    split
    · rw [value?, value?, ← ih]
      rfl
    · next dropped =>
      have same : key known = key values := by simpa using dropped
      rw [value?, if_neg fun h => apart (h.symm.trans same)]
      exact ih

/-- Label values with one key have one series. -/
theorem value?_congr {values other : List String} (same : key other = key values)
    (t : SeriesTable) : t.value? other = t.value? values := by
  induction t with
  | nil => rfl
  | cons entry rest ih => rw [value?, value?, same, ih]

end SeriesTable

/-- Zero stands for TLS that is disabled. -/
theorem TlsMode.number_eq_zero {mode : TlsMode} : mode.number = 0 ↔ mode = .disabled := by
  cases mode <;> decide

namespace Metrics

/-- The number of the mode that the gauge shows for a cluster, if it shows one. -/
def tlsMode? (m : Metrics) («namespace» cluster : String) : Option Nat :=
  m.tlsModes.value? [«namespace», cluster]

/-- What is counted last is what the gauge shows. -/
theorem tlsMode?_record (m : Metrics) («namespace» cluster : String) (mode : TlsMode) :
    (m.record (.tlsMode «namespace» cluster mode)).tlsMode? «namespace» cluster =
      some mode.number :=
  SeriesTable.value?_alter [«namespace», cluster] (fun _ => mode.number) m.tlsModes

end Metrics

/-! ### What counts nothing -/

variable {c : Cluster} {«namespace» : String} {images : Images}

theorem Program.exchange_silent {α : Type} {t : Resource α} {r? : Option Request} :
    (Client.exchange t r?).Silent :=
  does_exchange fun _ _ => rfl

theorem Status.patch_silent (members : List (String × Option Json)) : (patch c members).Silent :=
  .bind (.ofExcept _) fun _ => .bind (.mapFailure _ Program.exchange_silent) fun _ => trivial

theorem Status.setCondition_silent (type : String) (report : Report) :
    (setCondition c type report).Silent := by
  refine .bind (.ofExcept _) fun ns => .bind (.mapFailure _ Program.exchange_silent) fun current =>
    .bind (fun now => ⟨rfl, trivial⟩) fun now => ?_
  dsimp only
  split
  · exact patch_silent _
  · trivial

theorem Event.publish_silent (e : Event) : (e.publish c).Silent :=
  .bind (fun _ => ⟨rfl, trivial⟩) fun _ =>
    .bind (.mapFailure _ Program.exchange_silent) fun _ => trivial

theorem Deployment.apply_silent : (apply c images).Silent :=
  .bind (.ofExcept _) fun _ => .bind (.mapFailure _ Program.exchange_silent) fun _ =>
    .mapFailure _ Program.exchange_silent

namespace Cluster

theorem markRollout_silent (complete : Bool) : (c.markRollout complete).Silent :=
  .bind (.ofExcept _) fun _ => .bind (.mapFailure _ Program.exchange_silent) fun _ =>
    Event.publish_silent _

theorem announced_silent : c.announced.Silent := by
  unfold announced
  split
  · exact .bind (Status.patch_silent _) fun _ => Status.patch_silent _
  · trivial

theorem reportMissing_silent {α : Type} (failure : Failure) :
    (c.reportMissing failure : Program Failure α).Silent := by
  unfold reportMissing
  split
  · trivial
  · exact .bind (Status.setCondition_silent _ _) fun _ =>
      .bind (Status.patch_silent _) fun _ => trivial

theorem tlsChange_silent (d : TlsDescriptor) : (c.tlsChange d).Silent := by
  refine .bind (.attempt ((Material.change_quiet d).mono fun _ => Entry.Quiet.silent)) ?_
  rintro (failure | change)
  · exact reportMissing_silent failure
  · trivial

/-- Nothing is counted before the stateful set is answered. -/
theorem established_silent : (c.established «namespace» images).Silent := by
  refine .bind (.bind announced_silent fun _ => .bind (tlsChange_silent _) fun change => ?_)
    fun document => .bind Deployment.apply_silent fun statefulSet => trivial
  exact (Configuration.push_quiet c _).mono fun _ => Entry.Quiet.silent

/-! ### What is counted -/

variable {meets : Exchange → Prop} {s s' : Server} {js : List Entry} {action : Action}

/-- Progress is reported with the mode of the cluster. -/
theorem reportProgress_counts {d : TlsDescriptor} {rolledOut : Bool} {version : Int64}
    (h : (c.reportProgress d rolledOut version).Logs meets s js (.done action) s') :
    Entry.measurements js = [.tlsMode (c.metadata.namespace.getD "") c.name d.mode] := by
  -- the mode is counted between the report about TLS and those about the members
  have rest : (if rolledOut then
      (Status.recordMembers c c.spec.members version).bind fun _ =>
        (Status.setCondition c readyCondition .ready).bind fun _ =>
          (Status.updatePhase c .running none).bind fun _ => .done (.requeue idleRequeue)
    else
      (Status.setCondition c readyCondition .updating).bind fun _ =>
        (Status.updatePhase c .creating (some "members are being updated")).bind fun _ =>
          .done (.requeue rolloutRequeue) : Program Failure Action).Silent := by
    split
    · exact .bind (Status.patch_silent _) fun _ => .bind (Status.setCondition_silent _ _) fun _ =>
        .bind (Status.patch_silent _) fun _ => trivial
    · exact .bind (Status.setCondition_silent _ _) fun _ =>
        .bind (Status.patch_silent _) fun _ => trivial
  rcases h.of_bind with ⟨js₁, u, s₁, js₂, first, second, rfl⟩ | ⟨o', -, -, fails⟩
  · cases second with
    | measure last =>
      rw [Entry.measurements_append,
        first.measurements_of_silent (Status.setCondition_silent _ _)]
      exact congrArg (_ :: ·) (last.measurements_of_silent rest)
  · exact absurd rfl (fails action)

/-- Once the stateful set is answered, the mode of the cluster is counted, unless the marker is
set. -/
theorem settled_counts {d : TlsDescriptor} {document : Document} {a : StatefulSet}
    (h : (c.settled d document a).Logs meets s js (.done action) s') :
    Entry.measurements js =
      if MarkerTransition.decide d.enabled d.rolloutComplete
        (a.rolledOut c.spec.members && a.carriesTls) = .set then []
      else [.tlsMode (c.metadata.namespace.getD "") c.name d.mode] := by
  unfold settled at h
  dsimp only at h
  -- the marker is set, cleared, or left as it is
  split at h
  · next decided =>
    -- the marker is set, and nothing else is done
    rw [if_pos decided]
    exact h.measurements_of_silent (.bind (markRollout_silent true) fun _ => trivial)
  · next decided =>
    rw [if_neg (by rw [decided]; decide)]
    rcases h.of_bind with ⟨js₁, u, s₁, js₂, first, second, rfl⟩ | ⟨o', -, -, fails⟩
    · rw [Entry.measurements_append, first.measurements_of_silent (markRollout_silent false)]
      exact reportProgress_counts second
    · exact absurd rfl (fails action)
  · next decided =>
    rw [if_neg (by rw [decided]; decide)]
    exact reportProgress_counts h

/-- What a reconciliation counts comes after the answer to the stateful set. -/
theorem reconcile_counts {o : Outcome Failure Action} (addressed : c.Addressed «namespace»)
    (h : (c.reconcile images).Logs meets s js o s') :
    (∃ js₁ made s₁ js₂, (c.established «namespace» images).Logs meets s js₁ (.done made) s₁ ∧
      (c.settled (c.descriptor «namespace») made.1 made.2).Logs meets s₁ js₂ o s' ∧
      js = js₁ ++ js₂ ∧ Entry.measurements js = Entry.measurements js₂) ∨
    ∃ o', (c.established «namespace» images).Logs meets s js o' s' ∧ (∀ made, o' ≠ .done made) ∧
      (∀ action, o ≠ .done action) ∧ Entry.measurements js = [] := by
  rw [reconcile_eq_established addressed] at h
  rcases h.of_bind with ⟨js₁, made, s₁, js₂, first, second, rfl⟩ | ⟨o', first, fails, unended⟩
  · refine .inl ⟨js₁, made, s₁, js₂, first, second, rfl, ?_⟩
    rw [Entry.measurements_append, first.measurements_of_silent established_silent]
    rfl
  · exact .inr ⟨o', first, fails, unended, first.measurements_of_silent established_silent⟩

end Cluster

end ReplicaSetOperator
