import ReplicaSetOperator.Proofs.Operator.Provision
import ReplicaSetOperator.Proofs.Operator.Pushes

/-!
# Keeping the document up to date

A push that is served leaves a document behind that another push of the same modification leaves as
it is (`Configuration.UpToDate`). The first may write (`Configuration.push_delivers`), the others
only read (`Configuration.push_repeats`).
-/

namespace ReplicaSetOperator

namespace Configuration

variable {c : Cluster} {«namespace» : String} {m : Document → Document} {previous : Option Document}
  {d : Document} {object : Option Json} {meets : Exchange → Prop} {s : Server}

/-- The document that is stored is the one that a modification makes of it. -/
def UpToDate (c : Cluster) («namespace» : String) (m : Document → Document)
    (object : Option Json) (d : Document) : Prop :=
  ∃ e, held object = .ok (some e) ∧ e.same d = true ∧
    (builder c «namespace» (some e) m).build = .ok d

/-- A document that has been built is built again from itself, if it is equal to itself. -/
theorem build_again (definite : d.isDefinite = true)
    (h : (builder c «namespace» previous m).build = .ok d) :
    (builder c «namespace» (some d) m).build = .ok d := by
  have shape := Builder.eq_of_build h
  -- the document that it is compared with is itself, so that it keeps its version
  have version : Builder.nextVersion (some d) (builder c «namespace» (some d) m).modified =
      .ok d.version := by
    have same : Document.same { (builder c «namespace» (some d) m).modified with
        version := d.version } d = true := by
      have isSame : ({ (builder c «namespace» (some d) m).modified with
        version := d.version } : Document) = d := shape.symm
      rw [isSame]
      exact Document.same_refl definite
    rw [Builder.nextVersion, if_pos same]
  rw [Builder.build, show (builder c «namespace» (some d) m).previous = some d from rfl, version]
  have isSame : ({ (builder c «namespace» (some d) m).modified with
    version := d.version } : Document) = d := shape.symm
  simp only [isSame, Builder.validate_of_build h]

/-- A document that is there already is up to date. -/
theorem upToDate_of_same {p : Document} (isHeld : held object = .ok (some p))
    (same : p.same d = true) (build : (builder c «namespace» (some p) m).build = .ok d) :
    UpToDate c «namespace» m object d :=
  ⟨p, isHeld, same, build⟩

/-- The stored document has the version of the one that is made, and all its processes have the mode
that was asked for. -/
theorem UpToDate.modes {mode : TlsMode} {file : String}
    (h : UpToDate c «namespace» (Change.apply (.tls mode file)) object d) :
    ∃ e, held object = .ok (some e) ∧ e.version = d.version ∧
      ∀ p ∈ e.processes, p.tls.mode = mode := by
  obtain ⟨e, isHeld, same, build⟩ := h
  refine ⟨e, isHeld, Document.version_of_same same, fun p mem => ?_⟩
  rw [Document.processes_of_same same] at mem
  rw [settings_of_build build p mem, TlsSettings.mode_running]

/-- A document can be built while there is another version, and then there is one less. -/
theorem build_of_room {mode : TlsMode} {file : String} {room : Nat}
    (small : room ≤ 0x7ffffffffffffffe)
    (versions : ∀ p ∈ previous, p.version.toInt + (room + 1) ≤ 0x7fffffffffffffff) :
    ∃ d, (tlsBuilder c «namespace» previous mode file).build = .ok d ∧
      d.version.toInt + room ≤ 0x7fffffffffffffff := by
  rw [build_eq]
  cases previous with
  | none =>
    refine ⟨_, rfl, ?_⟩
    -- the first document has the version 1
    show (1 : Int64).toInt + _ ≤ _
    have one : (1 : Int64).toInt = 1 := rfl
    omega
  | some p =>
    have bound := versions p rfl
    rw [Builder.nextVersion]
    split
    · exact ⟨_, rfl, by dsimp only; omega⟩
    · -- a changed one has the next version, which there is
      have room : p.version ≠ Int64.maxValue := by
        intro isMax
        rw [isMax] at bound
        have max : Int64.maxValue.toInt = 0x7fffffffffffffff := rfl
        omega
      rw [if_neg room]
      refine ⟨_, rfl, ?_⟩
      dsimp only
      rw [Int64.toInt_succ room]
      omega

section

variable (inNamespace : c.metadata.namespace = some «namespace»)
  (plain : Request.Addressable Secret.objectType «namespace» c.configSecretName)
  (serves : ∀ e, meets e → e.request.type = Secret.objectType → e.Served)
  (legible : Legible «namespace» c.configSecretName
    (s.objects.find? (secretKey «namespace» c.configSecretName)))

include inNamespace plain serves legible

/-- What a push delivers is decided once the document has been built. -/
theorem push_of_held (kind : Request → Prop)
    (reads : kind (reading «namespace» c.configSecretName))
    {post : Document → Server → Prop}
    (isHeld : held (s.objects.find? (secretKey «namespace» c.configSecretName)) = .ok previous)
    (build : (builder c «namespace» previous m).build = .ok d)
    (rest : ∀ existing,
      seen (s.objects.find? (secretKey «namespace» c.configSecretName)) = .ok existing →
      (if previous.any (·.same d) then .done d
        else (write c «namespace» existing d).bind fun _ => .done d :
          Program Failure Document).Delivers meets kind s post) :
    (push c m).Delivers meets kind s post := by
  rw [push_eq inNamespace plain]
  refine .served reads (fun response after met => serves _ met rfl) ?_
  obtain ⟨unchanged, found⟩ := serve_reading s «namespace» c.configSecretName
  have isSeen := legible.seen_eq
  rw [held, isSeen] at isHeld
  have isBuilt : built (builder c «namespace» previous m) = .done d := by rw [built, build]
  rw [unchanged, found, isSeen, continued_ok isHeld, isBuilt]
  exact rest _ isSeen

/-- A document that is up to date is only read. -/
theorem push_repeats (h : UpToDate c «namespace» m
      (s.objects.find? (secretKey «namespace» c.configSecretName)) d) :
    (push c m).Delivers meets (·.verb = .get) s fun a s' => a = d ∧ s' = s := by
  obtain ⟨p, isHeld, same, build⟩ := h
  refine push_of_held inNamespace plain serves legible (fun r => r.verb = .get) rfl isHeld build
    fun existing _ => ?_
  rw [if_pos (by simpa using same)]
  exact .done ⟨rfl, rfl⟩

/-- A push brings the document up to date. -/
theorem push_delivers
    (isHeld : held (s.objects.find? (secretKey «namespace» c.configSecretName)) = .ok previous)
    (build : (builder c «namespace» previous m).build = .ok d) (uniform : d.Uniform) :
    (push c m).Delivers meets
      (fun r => r.verb = .get ∨ Server.key r = secretKey «namespace» c.configSecretName) s
      fun a s' => a = d ∧
        Legible «namespace» c.configSecretName
          (s'.objects.find? (secretKey «namespace» c.configSecretName)) ∧
        UpToDate c «namespace» m
          (s'.objects.find? (secretKey «namespace» c.configSecretName)) d := by
  refine push_of_held inNamespace plain serves legible _ (.inl rfl) isHeld build ?_
  intro existing isSeen
  -- a document that is up to date is kept
  by_cases same : previous.any (·.same d) = true
  · rw [if_pos same]
    obtain ⟨p, rfl, same⟩ := (Option.any_eq_true _ _).1 same
    exact .done ⟨rfl, legible, upToDate_of_same isHeld same build⟩
  · rw [if_neg same]
    -- otherwise the new one is written over the object that was read
    have named := (names_of_seen legible.kept isSeen).1
    obtain ⟨refusal, writes⟩ := write_eq d plain named
    rw [writes]
    refine .request (.inr rfl) fun response after met => ?_
    -- nobody else has written, so that the write is accepted
    rcases serve_writing d rfl legible.kept isSeen with
      ⟨-, code, low, high, accepted⟩ | ⟨changed, -⟩
    · have served := accepted.symm.trans (serves _ met rfl)
      have legible' := legible_storedAs d named (sound_of_seen isSeen)
        (s.objects.find? (secretKey «namespace» c.configSecretName))
      have now := served ▸ Server.find?_accept s code
        (secretKey «namespace» c.configSecretName) (secretKey «namespace» c.configSecretName)
        (Client.sent Secret.stored.toResource (updated c «namespace» d existing))
      rw [if_pos rfl] at now
      have answer : response = .holding code (storedAs c «namespace» d existing
          (s.objects.find? (secretKey «namespace» c.configSecretName))) :=
        (congrArg Prod.snd served).symm
      rw [answer, concluded, Response.decode_fine Secret.stored.toResource ⟨low, high⟩
        (legible'.fine _ rfl)]
      have stored : after.objects.find? (secretKey «namespace» c.configSecretName) =
          some (storedAs c «namespace» d existing
            (s.objects.find? (secretKey «namespace» c.configSecretName))) := now
      rw [← stored] at legible'
      refine .done ⟨rfl, legible', d, ?_, Document.same_refl uniform.isDefinite,
        build_again uniform.isDefinite build⟩
      rw [stored] at legible' ⊢
      exact held_of_legible uniform legible'
    · exact absurd rfl changed

end

end Configuration

end ReplicaSetOperator
