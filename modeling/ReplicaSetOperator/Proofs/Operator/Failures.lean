import ReplicaSetOperator.Operator.Reconcile
import ReplicaSetOperator.Proofs.Operator.Material
import ReplicaSetOperator.Proofs.Server.Conduct

/-!
# Final failures

Only missing material makes a reconciliation ask to be tried again soon. Everything else that can
go wrong with the store, the document or the workload is final (`Failure.IsFinal`), whatever the
server answers.
-/

namespace ReplicaSetOperator

/-- A failure that neither says that material is missing nor asks for another try. -/
def Failure.IsFinal (f : Failure) : Prop :=
  ∃ cause, f = .plain cause ∧ ∀ what, cause ≠ .materialMissing what

namespace Failure.IsFinal

variable {f : Failure}

/-- A final failure names no missing material. -/
theorem missingMaterial?_eq_none (h : f.IsFinal) : f.missingMaterial? = none := by
  obtain ⟨cause, rfl, apart⟩ := h
  cases cause with
  | materialMissing what => exact absurd rfl (apart what)
  | _ => rfl

end Failure.IsFinal

namespace Program

variable {ε α : Type}

/-- Of a program of which nothing is asked. -/
theorem Conforms.any (p : Program ε α) :
    p.Conforms (fun _ _ => True) (fun _ => True) (fun _ => True) fun _ => True := by
  induction p with
  | done _ | fail _ | overflow => trivial
  | request r next ih => exact ⟨trivial, fun response _ => ih response⟩
  | clock next ih => exact ih
  | measure m next ih => exact ih

/-- A program whose failures are final, whatever it is answered. -/
abbrev FailsFinally (p : Program Failure α) : Prop :=
  p.Conforms (fun _ _ => True) (fun _ => True) (fun _ => True) Failure.IsFinal

/-- A program that fails finally does so in each of its runs. -/
theorem Runs.isFinal {p : Program Failure α} (h : p.FailsFinally) {meets : Exchange → Prop}
    {s s' : Server} {es : List Exchange} {f : Failure} (run : p.Runs meets s es (.failed f) s') :
    f.IsFinal :=
  (run.conforms h fun _ _ => trivial).2.2 f rfl

/-- What a failure is turned into decides whether it is final. -/
theorem failsFinally_mapFailure {p : Program ε α} {f : ε → Failure} (turns : ∀ e, (f e).IsFinal) :
    (p.mapFailure f).FailsFinally :=
  .mapFailure (.any p) fun e _ => turns e

theorem failsFinally_ofExcept {r : Except Failure α} (error : ∀ f, r = .error f → f.IsFinal) :
    (Program.ofExcept r).FailsFinally :=
  .ofExcept (fun _ _ => trivial) error

/-- Reading an object fails finally. -/
theorem read_failsFinally (t : Storable α) («namespace» name : String) :
    (Program.read t «namespace» name).FailsFinally :=
  failsFinally_mapFailure fun _ => ⟨_, rfl, by rintro _ ⟨⟩⟩

theorem writing_failsFinally (p : Program StoreError α) : p.writing.FailsFinally :=
  failsFinally_mapFailure fun _ => ⟨_, rfl, by rintro _ ⟨⟩⟩

theorem requesting_failsFinally (p : Program ClientError α) : p.requesting.FailsFinally :=
  failsFinally_mapFailure fun _ => ⟨_, rfl, by rintro _ ⟨⟩⟩

end Program

/-- A cluster without a namespace is no missing material. -/
theorem Cluster.namespaced_failsFinally (c : Cluster) :
    (Program.ofExcept c.namespaced).FailsFinally := by
  refine Program.failsFinally_ofExcept fun f isError => ?_
  unfold namespaced at isError
  split at isError
  · cases isError
  · cases isError
    exact ⟨_, rfl, by rintro _ ⟨⟩⟩

/-- Once the user's material has been read, nothing is missing any more. -/
theorem Material.synthesize_failsFinally («namespace» name : String) (owner : Option OwnerReference)
    (certificate key : Bytes) :
    (synthesize «namespace» name owner certificate key).FailsFinally := by
  rw [synthesize_eq]
  refine .bind (Program.read_failsFinally _ _ _) fun existing _ => ?_
  have updates (secret : Secret) : ((Store.update Secret.stored secret).writing.bind fun _ =>
      .done (Tls.fileName certificate key)).FailsFinally :=
    .bind (Program.writing_failsFinally _) fun _ _ => trivial
  -- a secret that is there is brought up to date, and without one another is made
  cases existing with
  | none =>
    refine .bind (.attempt (.any _)) ?_
    -- that another writer has been first is no failure
    rintro (e | a) -
    · dsimp only
      split
      · exact updates _
      · exact ⟨_, rfl, by rintro _ ⟨⟩⟩
    · trivial
  | some secret => exact updates _

namespace Configuration

/-- A document that cannot be read is final. -/
theorem stored_failsFinally (existing : Option Secret) :
    (Program.ofExcept (stored existing)).FailsFinally := by
  refine Program.failsFinally_ofExcept fun f isError => ?_
  unfold stored at isError
  split at isError
  · cases isError
  · split at isError
    · cases isError
    · cases isError
      exact ⟨_, rfl, by rintro _ ⟨⟩⟩

theorem built_failsFinally (b : Builder) : (built b).FailsFinally := by
  unfold built
  split
  · trivial
  · exact ⟨_, rfl, by rintro _ ⟨⟩⟩
  · trivial

/-- Writing the document fails finally. -/
theorem write_failsFinally (c : Cluster) («namespace» : String) (existing : Option Secret)
    (d : Document) : (write c «namespace» existing d).FailsFinally := by
  cases existing with
  | none => exact .bind (Program.writing_failsFinally _) fun _ _ => trivial
  | some secret => exact .bind (Program.writing_failsFinally _) fun _ _ => trivial

theorem push_failsFinally (c : Cluster) (modification : Document → Document) :
    (push c modification).FailsFinally := by
  refine .bind c.namespaced_failsFinally fun ns _ =>
    .bind (Program.read_failsFinally _ _ _) fun existing _ =>
      .bind (stored_failsFinally existing) fun previous _ =>
        .bind (built_failsFinally _) fun d _ => ?_
  split
  · trivial
  · exact .bind (write_failsFinally c ns existing d) fun _ _ => trivial

end Configuration

theorem Deployment.apply_failsFinally (c : Cluster) (images : Images) :
    (apply c images).FailsFinally :=
  .bind c.namespaced_failsFinally fun _ _ => .bind (Program.requesting_failsFinally _) fun _ _ =>
    Program.requesting_failsFinally _

end ReplicaSetOperator
