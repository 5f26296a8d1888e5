import ReplicaSetOperator.Proofs.Server.Traces

/-!
# Programs that come to their result

A program delivers if each of its runs ends with a result (`Program.Delivers`). What is known then
is which requests it has made, and a property of the result and the server. All else on the server
is as before (`Program.Delivers.frame`), since an exchange changes nothing but the object that it
is about (`Exchange.Local`).
-/

namespace ReplicaSetOperator

namespace Exchange

/-- An exchange changes nothing but the object that it is about, and that not if it reads. -/
def Local (e : Exchange) : Prop :=
  ∀ k, e.request.verb = .get ∨ Server.key e.request ≠ k →
    e.after.objects.find? k = e.before.objects.find? k

theorem Answered.isLocal {e : Exchange} (h : e.Answered) : e.Local :=
  fun _ apart => (h.untouched (apart.imp_right .inl)).same

theorem Served.isLocal {e : Exchange} (h : e.Served) : e.Local := Answered.isLocal (.inl h)

end Exchange

namespace Program

variable {ε ε' α β : Type} {meets : Exchange → Prop} {s s' : Server} {es : List Exchange}

/-- An object that is only read in a run is as it was. -/
theorem Runs.frame {p : Program ε α} {o : Outcome ε α} (h : p.Runs meets s es o s')
    (locally : ∀ e, meets e → e.Local) {k : ObjectKey}
    (silent : ∀ e ∈ es, e.request.verb = .get ∨ Server.key e.request ≠ k) :
    s'.objects.find? k = s.objects.find? k := by
  induction h with
  | done _ _ => rfl
  | fail _ _ => rfl
  | overflow _ => rfl
  | request met _ ih =>
    obtain ⟨first, rest⟩ := List.forall_mem_cons.1 silent
    -- a request is the only step that may change an object
    exact (ih rest).trans (locally _ met k first)
  | clock _ _ _ ih => exact ih silent
  | measure _ ih => exact ih silent

/-- Every run of a program from a server makes only requests of a kind, and ends with a result of
which something holds. -/
def Delivers (meets : Exchange → Prop) (kind : Request → Prop) (p : Program ε α) (s : Server)
    (post : α → Server → Prop) : Prop :=
  p.Achieves meets s fun es a s' => (∀ e ∈ es, kind e.request) ∧ post a s'

namespace Delivers

variable {kind : Request → Prop} {p : Program ε α} {post : α → Server → Prop}

theorem done {a : α} (h : post a s) : (Program.done a : Program ε α).Delivers meets kind s post :=
  Achieves.done ⟨fun _ mem => absurd mem List.not_mem_nil, h⟩

/-- A request is delivered on whatever it is answered. -/
theorem request {r : Request} {next : Response → Program ε α} (asked : kind r)
    (h : ∀ response after, meets ⟨s, r, response, after⟩ →
      (next response).Delivers meets kind after post) :
    (Program.request r next).Delivers meets kind s post :=
  Achieves.request fun response after met => (h response after met).mono fun _ _ _ rest =>
    ⟨List.forall_mem_cons.2 ⟨asked, rest.1⟩, rest.2⟩

/-- A request that is served is answered as the server answers it. -/
theorem served {r : Request} {next : Response → Program ε α} (asked : kind r)
    (serves : ∀ response after, meets ⟨s, r, response, after⟩ →
      (Exchange.mk s r response after).Served)
    (h : (next (s.serve r).2).Delivers meets kind (s.serve r).1 post) :
    (Program.request r next).Delivers meets kind s post := by
  refine request asked fun response after met => ?_
  -- the server has no choice of its answer
  have answer : s.serve r = (after, response) := serves response after met
  rw [answer] at h
  exact h

theorem clock {next : Timestamp → Program ε α}
    (h : ∀ now : Timestamp, now.Valid → (next now).Delivers meets kind s post) :
    (Program.clock next).Delivers meets kind s post :=
  Achieves.clock h

theorem measure {m : Measurement} (h : p.Delivers meets kind s post) :
    (Program.measure m p).Delivers meets kind s post :=
  Achieves.measure h

theorem mono {post' : α → Server → Prop} (h : p.Delivers meets kind s post)
    (imp : ∀ a s', post a s' → post' a s') : p.Delivers meets kind s post' :=
  Achieves.mono h fun _ a s' holds => ⟨holds.1, imp a s' holds.2⟩

theorem widen {kind' : Request → Prop} (h : p.Delivers meets kind s post)
    (imp : ∀ r, kind r → kind' r) : p.Delivers meets kind' s post :=
  Achieves.mono h fun _ _ _ holds => ⟨fun e mem => imp _ (holds.1 e mem), holds.2⟩

/-- Two parts that deliver do so one after the other. -/
theorem bind {k : α → Program ε β} {result : β → Server → Prop}
    (first : p.Delivers meets kind s post)
    (next : ∀ a s₁, post a s₁ → (k a).Delivers meets kind s₁ result) :
    (p.bind k).Delivers meets kind s result := by
  refine Achieves.bind first fun es a s₁ h => ?_
  refine Achieves.mono (next a s₁ h.2) fun es' b s' rest => ?_
  exact ⟨List.forall_mem_append.2 ⟨h.1, rest.1⟩, rest.2⟩

theorem attempt (h : p.Delivers meets kind s post) :
    (p.attempt : Program ε' _).Delivers meets kind s fun r s' => ∃ a, r = .ok a ∧ post a s' :=
  (Achieves.attempt h).mono fun _ _ _ ⟨a, isResult, asked, holds⟩ => ⟨asked, a, isResult, holds⟩

/-- What no request changes is as before. -/
theorem frame (h : p.Delivers meets kind s post) (locally : ∀ e, meets e → e.Local) :
    p.Delivers meets kind s fun a s' => post a s' ∧
      ∀ k, (∀ r, kind r → r.verb = .get ∨ Server.key r ≠ k) →
        s'.objects.find? k = s.objects.find? k := by
  intro es o s' run
  obtain ⟨a, isResult, asked, holds⟩ := h es o s' run
  refine ⟨a, isResult, asked, holds, fun k silent => ?_⟩
  exact run.frame locally fun e mem => silent e.request (asked e mem)

/-- A program whose requests are about one object changes no other. -/
theorem around {about : ObjectKey}
    (h : p.Delivers meets (fun r => r.verb = .get ∨ Server.key r = about) s post)
    (locally : ∀ e, meets e → e.Local) :
    p.Delivers meets (fun r => r.verb = .get ∨ Server.key r = about) s fun a s' => post a s' ∧
      ∀ k, about ≠ k → s'.objects.find? k = s.objects.find? k := by
  refine (h.frame locally).mono fun a s' holds => ⟨holds.1, fun k apart => ?_⟩
  exact holds.2 k fun r asked => asked.imp_right fun same other => apart (same.symm.trans other)

end Delivers

end Program

end ReplicaSetOperator
