import ReplicaSetOperator.Proofs.Object.Sound
import ReplicaSetOperator.Proofs.Operator.Demands
import ReplicaSetOperator.Proofs.Server.Serving

/-!
# Telling events

An event of a cluster is sent without fault (`Event.fault_body`), so that a server that serves lets
it be told (`Event.publish_delivers`).
-/

namespace ReplicaSetOperator

variable {c : Cluster} {«namespace» : String}

/-- The reference to a cluster names objects by texts only. -/
theorem Cluster.fault_reference (c : Cluster) :
    (Passive.record Event.referenceFields).fault .value c.reference = none := by
  have always (s : String) : ∀ v ∈ some (Json.string s), Format.string.fault .value v = none :=
    (Format.string_faultless s).always
  refine Lenient.fault_record ?_ rfl
  refine Lenient.fits_cons rfl (always _) ?_
  refine Lenient.fits_cons rfl (always _) ?_
  refine Lenient.fits_cons rfl (Format.text_faultless _) ?_
  refine Lenient.fits_cons rfl (Format.text_faultless _) ?_
  exact Lenient.fits_cons rfl (Format.text_faultless _) Lenient.fits_nil

namespace Event

/-- An event is read as a record with members that are looked into and others. -/
theorem fault_eq (source : Source) (j : Json) :
    format.fault source j = Lenient.fault (type.rules ++ Passive.rules fields) source j := rfl

/-- An event that is told at a valid time can be read. -/
theorem fault_body (e : Event) (c : Cluster) {now : Timestamp} (valid : now.Valid) :
    format.fault .value (e.body c now) = none := by
  have always (s : String) : ∀ v ∈ some (Json.string s), Format.string.fault .value v = none :=
    (Format.string_faultless s).always
  have metadata : ObjectMeta.format.fault .value (Json.record
      [("name", some (.string (name c now))),
       ("namespace", c.metadata.namespace.map .string)]) = none := by
    refine Lenient.fault_record ?_ rfl
    refine Lenient.fits_cons rfl (always _) ?_
    exact Lenient.fits_cons rfl (Format.text_faultless _) Lenient.fits_nil
  rw [fault_eq, body]
  -- one line for each member, in their order
  refine Lenient.fault_record ?_ rfl
  refine Lenient.fits_cons rfl (by rintro v ⟨⟩; rfl) ?_
  refine Lenient.fits_cons rfl (by rintro v ⟨⟩; rfl) ?_
  refine Lenient.fits_cons rfl (by rintro v ⟨⟩; exact metadata) ?_
  refine Lenient.fits_cons rfl (always _) ?_
  refine Lenient.fits_cons rfl (Format.time_faultless valid).always ?_
  refine Lenient.fits_cons rfl (always _) ?_
  refine Lenient.fits_cons rfl (always _) ?_
  refine Lenient.fits_cons rfl (by rintro v ⟨⟩; exact c.fault_reference) ?_
  refine Lenient.fits_cons rfl (always _) ?_
  refine Lenient.fits_cons rfl (always _) ?_
  exact Lenient.fits_cons rfl (always _) Lenient.fits_nil

/-- Telling an event changes nothing. -/
theorem publish_delivers {meets : Exchange → Prop} (addressed : c.Addressed «namespace»)
    (events : ∀ e, meets e → e.request.type = type → e.Served) (e : Event) (s : Server) :
    (e.publish c).Delivers meets (fun r => r.type = type) s fun _ s' => s' = s := by
  rw [publish_eq addressed]
  refine .clock fun now valid => ?_
  have fine := e.fault_body c valid
  generalize e.body c now = body at fine ⊢
  refine .served rfl (fun response after met => events _ met rfl) ?_
  rw [Server.serve_event rfl]
  show Program.Delivers _ _ (((Program.ofExcept
    ((Response.holding 201 body).decode _)).requesting).bind _) s _
  rw [Response.decode_fine _ (by omega) fine]
  exact .done rfl

end Event

end ReplicaSetOperator
