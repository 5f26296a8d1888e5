import ReplicaSetOperator.Operator.Configuration
import ReplicaSetOperator.Proofs.Automation.Chains

/-!
# What consistency means

The validation of a document goes through its processes and stops at the first thing that is wrong.
`Document.Consistent` says without that order which documents it accepts: clients need no
certificate, and either each process has no TLS setting and there is no path of a CA file
(`TlsSettings.Off`), or each of them has all settings and there is one (`TlsSettings.On`).
`Document.Violates` says which violation is reported of any other document: that of the mode of
client certificates, or else that of the first process that does not fit.

`Document.validate_decides` is that the validation accepts and reports exactly this, and that a
builder with a version left makes a document exactly if the one that it has modified is accepted.
-/

namespace ReplicaSetOperator

/-! ### Settings and processes -/

namespace TlsSettings

/-- A process without TLS has no other setting either. -/
structure Off (s : TlsSettings) : Prop where
  mode : s.mode = .disabled
  pemKeyFile : s.pemKeyFile = ""
  caFile : s.caFile = ""
  certificates : s.allowConnectionsWithoutCertificates = false

/-- A process with TLS has all settings, and lets clients do without certificates. -/
structure On (s : TlsSettings) : Prop where
  mode : s.mode = .preferred ∨ s.mode = .required
  pemKeyFile : s.pemKeyFile ≠ ""
  caFile : s.caFile ≠ ""
  certificates : s.allowConnectionsWithoutCertificates = true

/-- The settings go together. -/
def Sound (s : TlsSettings) : Prop := s.Off ∨ s.On

variable {s : TlsSettings}

/-- Settings that are all there are those of a mode with TLS. -/
theorem On.ne_disabled (on : s.On) : s.mode ≠ .disabled := by
  intro disabled
  rcases on.mode with preferred | required
  · cases preferred.symm.trans disabled
  · cases required.symm.trans disabled

/-- Without TLS the check asks that nothing else is set. -/
theorem consistent_of_disabled (h : s.mode = .disabled) : s.consistent = true ↔ s.Off := by
  rw [consistent, h]
  simp only [Bool.and_eq_true, String.isEmpty_iff, Bool.not_eq_true']
  constructor
  · rintro ⟨⟨pemKeyFile, caFile⟩, certificates⟩
    exact ⟨h, pemKeyFile, caFile, certificates⟩
  · intro off
    exact ⟨⟨off.pemKeyFile, off.caFile⟩, off.certificates⟩

/-- With TLS it asks the same of both modes: that everything is set. -/
theorem consistent_of_enabled (h : s.mode = .preferred ∨ s.mode = .required) :
    s.consistent = true ↔ s.On := by
  have fields : s.consistent = (!s.pemKeyFile.isEmpty && !s.caFile.isEmpty &&
      s.allowConnectionsWithoutCertificates) := by
    -- both modes are checked alike
    rcases h with mode | mode <;> rw [consistent, mode]
  rw [fields]
  simp only [Bool.and_eq_true, Bool.not_eq_true', ← Bool.not_eq_true, String.isEmpty_iff]
  constructor
  · rintro ⟨⟨pemKeyFile, caFile⟩, certificates⟩
    exact ⟨h, pemKeyFile, caFile, certificates⟩
  · intro on
    exact ⟨⟨on.pemKeyFile, on.caFile⟩, on.certificates⟩

/-- The check of the settings of one process says that they go together. -/
theorem consistent_iff : s.consistent = true ↔ s.Sound := by
  by_cases disabled : s.mode = .disabled
  · rw [consistent_of_disabled disabled, Sound, or_iff_left]
    exact fun on => on.ne_disabled disabled
  · have enabled : s.mode = .preferred ∨ s.mode = .required := by
      cases mode : s.mode with
      | disabled => exact absurd mode disabled
      | preferred => exact .inl rfl
      | required => exact .inr rfl
    rw [consistent_of_enabled enabled, Sound, or_iff_right]
    exact fun off => disabled off.mode

end TlsSettings

namespace Process

variable {p : Process} {path : String}

/-- A process fits a path of the CA file: both are there for TLS, or neither is. -/
def Fits (p : Process) (caFilePath : String) : Prop :=
  p.tls.Off ∧ caFilePath = "" ∨ p.tls.On ∧ caFilePath ≠ ""

/-- A process fits a path if its settings go together and the path is there exactly if its mode
needs it. -/
theorem fits_iff : p.Fits path ↔ p.tls.Sound ∧ (p.tls.mode = .disabled ↔ path = "") := by
  constructor
  · rintro (⟨off, empty⟩ | ⟨on, given⟩)
    -- the settings are all there or none is, and the path goes with the mode
    · exact ⟨.inl off, iff_of_true off.mode empty⟩
    · exact ⟨.inr on, iff_of_false on.ne_disabled given⟩
  · rintro ⟨off | on, same⟩
    · exact .inl ⟨off, same.1 off.mode⟩
    · exact .inr ⟨on, fun empty => on.ne_disabled (same.2 empty)⟩

/-- Settings that do not go together are reported before the path is looked at. -/
theorem inconsistency?_of_unsound (unsound : ¬ p.tls.Sound) :
    p.inconsistency? path = some (.settings p.name p.tls) := by
  have inconsistent : p.tls.consistent = false :=
    Bool.eq_false_iff.2 fun consistent => unsound (TlsSettings.consistent_iff.1 consistent)
  rw [inconsistency?, inconsistent]
  rfl

/-- Of settings that go together it is the path that may be wrong. -/
theorem inconsistency?_of_sound (sound : p.tls.Sound) : p.inconsistency? path =
    if decide (p.tls.mode = .disabled) != path.isEmpty then
      some (.caFilePath p.name p.tls.mode path)
    else none := by
  rw [inconsistency?, TlsSettings.consistent_iff.2 sound]
  rfl

/-- Whether the path is there when it is needed. -/
theorem differs_iff (sound : p.tls.Sound) :
    (decide (p.tls.mode = .disabled) != path.isEmpty) = true ↔ ¬ p.Fits path := by
  rw [fits_iff, and_iff_right sound, bne_iff_ne, ne_eq, Bool.eq_iff_iff, decide_eq_true_eq,
    String.isEmpty_iff]

/-- Nothing is reported of a process that fits, and of no other one. -/
theorem inconsistency?_eq_none_iff : p.inconsistency? path = none ↔ p.Fits path := by
  by_cases sound : p.tls.Sound
  · rw [inconsistency?_of_sound sound, ite_eq_right_iff, differs_iff sound]
    simp only [Option.some_ne_none, imp_false, not_not]
  · rw [inconsistency?_of_unsound sound, fits_iff]
    simp only [sound, false_and, Option.some_ne_none]

/-- What is reported of a process that does not fit. -/
theorem inconsistency?_of_misfit (misfit : ¬ p.Fits path) (i : Inconsistency) :
    p.inconsistency? path = some i ↔
      ¬ p.tls.Sound ∧ i = .settings p.name p.tls ∨
      p.tls.Sound ∧ i = .caFilePath p.name p.tls.mode path := by
  by_cases sound : p.tls.Sound
  · rw [inconsistency?_of_sound sound, if_pos ((differs_iff sound).2 misfit), Option.some_inj]
    simp only [sound, not_true, false_and, true_and, false_or, eq_comm]
  · rw [inconsistency?_of_unsound sound, Option.some_inj]
    simp only [sound, not_false_iff, false_and, true_and, or_false, eq_comm]

end Process

namespace Document

variable {d : Document} {i : Inconsistency}

/-! ### Documents -/

/-- A consistent document lets clients do without certificates, and all its processes fit its path
of the CA file. -/
structure Consistent (d : Document) : Prop where
  certificates : d.tls.clientCertificateMode = .optional
  processes : ∀ p ∈ d.processes, p.Fits d.tls.caFilePath

/-- The first process of a document that does not fit. -/
def FirstMisfit (d : Document) (p : Process) : Prop :=
  ∃ before after, d.processes = before ++ p :: after ∧
    (∀ q ∈ before, q.Fits d.tls.caFilePath) ∧ ¬ p.Fits d.tls.caFilePath

/-- What is wrong first with a document: the mode of client certificates, or else something with the
first process that does not fit, and with that one the settings, or else the path. -/
inductive Violates (d : Document) : Inconsistency → Prop where
  | clientCertificates (required : d.tls.clientCertificateMode ≠ .optional) :
    d.Violates .clientCertificateMode
  | settings {p : Process} (certificates : d.tls.clientCertificateMode = .optional)
    (first : d.FirstMisfit p) (unsound : ¬ p.tls.Sound) : d.Violates (.settings p.name p.tls)
  | caFilePath {p : Process} (certificates : d.tls.clientCertificateMode = .optional)
    (first : d.FirstMisfit p) (sound : p.tls.Sound) :
    d.Violates (.caFilePath p.name p.tls.mode d.tls.caFilePath)

/-- Where one process runs without TLS, they all do. -/
theorem Consistent.disabled (h : d.Consistent) {p q : Process} (isProcess : p ∈ d.processes)
    (other : q ∈ d.processes) (disabled : p.tls.mode = .disabled) : q.tls.mode = .disabled := by
  have path := (Process.fits_iff.1 (h.processes p isProcess)).2.1 disabled
  exact (Process.fits_iff.1 (h.processes q other)).2.2 path

/-- Where clients need no certificate, the first process that is reported is the one that counts. -/
theorem inconsistency?_of_optional (certificates : d.tls.clientCertificateMode = .optional) :
    d.inconsistency? = d.processes.findSome? (Process.inconsistency? d.tls.caFilePath) :=
  if_neg fun required => required certificates

/-- A document about which nothing is reported is consistent. -/
theorem inconsistency?_eq_none_iff : d.inconsistency? = none ↔ d.Consistent := by
  by_cases certificates : d.tls.clientCertificateMode = .optional
  · rw [inconsistency?_of_optional certificates, List.findSome?_eq_none_iff]
    simp only [Process.inconsistency?_eq_none_iff]
    exact ⟨fun fits => ⟨certificates, fits⟩, fun consistent => consistent.processes⟩
  -- a document that asks clients for certificates is reported before its processes are looked at
  · rw [inconsistency?, if_pos certificates]
    simp only [Option.some_ne_none, false_iff]
    exact fun consistent => certificates consistent.certificates

/-- What is reported of a document is what it violates first. -/
theorem inconsistency?_eq_some_iff : d.inconsistency? = some i ↔ d.Violates i := by
  by_cases certificates : d.tls.clientCertificateMode = .optional
  · rw [inconsistency?_of_optional certificates, List.findSome?_eq_some_iff]
    simp only [Process.inconsistency?_eq_none_iff]
    constructor
    · -- what the search stops at is the first misfit
      rintro ⟨before, p, after, processes, found, fit⟩
      have misfit : ¬ p.Fits d.tls.caFilePath := fun fits =>
        absurd ((Process.inconsistency?_eq_none_iff.2 fits).symm.trans found) (by simp)
      have first : d.FirstMisfit p := ⟨before, after, processes, fit, misfit⟩
      rcases (Process.inconsistency?_of_misfit misfit i).1 found with
        ⟨unsound, rfl⟩ | ⟨sound, rfl⟩
      · exact .settings certificates first unsound
      · exact .caFilePath certificates first sound
    · -- and the first misfit is what it stops at, as everything before it fits
      rintro (required | ⟨-, ⟨before, after, processes, fit, misfit⟩, unsound⟩ |
        ⟨-, ⟨before, after, processes, fit, misfit⟩, sound⟩)
      · exact absurd certificates required
      · exact ⟨before, _, after, processes, Process.inconsistency?_of_unsound unsound, fit⟩
      · exact ⟨before, _, after, processes,
          (Process.inconsistency?_of_misfit misfit _).2 (.inr ⟨sound, rfl⟩), fit⟩
  · rw [inconsistency?, if_pos certificates]
    constructor
    · rintro ⟨⟩
      exact .clientCertificates certificates
    · rintro (required | ⟨optional, -, -⟩ | ⟨optional, -, -⟩)
      · rfl
      · exact absurd optional certificates
      · exact absurd optional certificates

/-- The validation accepts what is consistent. -/
theorem validate_eq_ok_iff : d.validate = .ok () ↔ d.Consistent := by
  rw [← inconsistency?_eq_none_iff, validate]
  cases d.inconsistency? <;> simp

/-- It reports what is violated first. -/
theorem validate_eq_error_iff : d.validate = .error i ↔ d.Violates i := by
  rw [← inconsistency?_eq_some_iff, validate]
  cases d.inconsistency? <;> simp

/-- The message names the mode of client certificates, or the first process that does not fit and
what does not. -/
theorem Violates.message (h : d.Violates i) :
    d.tls.clientCertificateMode ≠ .optional ∧
      i.message = "clientCertificateMode must be OPTIONAL" ∨
    d.tls.clientCertificateMode = .optional ∧ ∃ p, d.FirstMisfit p ∧
      (¬ p.tls.Sound ∧ i.message =
        "process " ++ p.name ++ " has inconsistent TLS settings: " ++ p.tls.label ∨
      p.tls.Sound ∧ i.message =
        "process " ++ p.name ++ " runs TLS mode " ++ p.tls.mode.label ++
          " but cluster CAFilePath is " ++ Quoted.text d.tls.caFilePath) := by
  cases h with
  | clientCertificates required => exact .inl ⟨required, rfl⟩
  | @settings p certificates first unsound =>
    refine .inr ⟨certificates, p, first, .inl ⟨unsound, ?_⟩⟩
    simp [Inconsistency.message, String.join]
  | @caFilePath p certificates first sound =>
    refine .inr ⟨certificates, p, first, .inr ⟨sound, ?_⟩⟩
    simp [Inconsistency.message, String.join]

end Document

namespace Builder

variable {b : Builder} {d : Document}

/-! ### Builders -/

/-- With a version left, a builder makes a document exactly if what it has modified is
consistent. -/
theorem exists_build_iff (room : ¬ b.Overflows) :
    (∃ d, b.build = .ok d) ↔ b.modified.Consistent := by
  rw [← Document.validate_eq_ok_iff]
  constructor
  -- what is built has passed the check, and its version plays no role in it
  · rintro ⟨d, build⟩
    have valid := validate_of_build build
    rw [eq_of_build build] at valid
    exact valid
  · exact exists_build room

/-- With a version left, a builder fails as the validation does, and in no other way. -/
theorem build_eq_error_iff (room : ¬ b.Overflows) (e : BuildError) :
    b.build = .error e ↔ ∃ i, e = .inconsistent i ∧ b.modified.validate = .error i := by
  cases valid : b.modified.validate with
  | ok =>
    obtain ⟨d, build⟩ := exists_build room valid
    rw [build]
    simp only [reduceCtorEq, and_false, exists_false]
  | error i =>
    -- the validation of the content is that of what has been modified
    rw [build_eq_inconsistent room valid]
    constructor
    · rintro ⟨⟩
      exact ⟨i, rfl, rfl⟩
    · rintro ⟨_, rfl, ⟨⟩⟩
      rfl

/-- The program that builds a document fails with the message of the violation. -/
theorem built_of_violates (room : ¬ b.Overflows) {i : Inconsistency} (h : b.modified.Violates i) :
    Configuration.built b = .fail (.plain (.invariant i.message)) := by
  have refused : b.modified.validate = .error i := Document.validate_eq_error_iff.2 h
  rw [Configuration.built, build_eq_inconsistent room refused]

end Builder

namespace Document

/-- The validation accepts the consistent documents, in which TLS is on everywhere or nowhere, and
says of every other one what is wrong first, with a message that names it. A builder with a version
left makes a document exactly if the one that it has modified is consistent, and fails otherwise
with the same violation. -/
theorem validate_decides (d : Document) :
    (d.validate = .ok () ↔ d.Consistent) ∧
    (d.validate = .ok () → ¬ ((∃ p ∈ d.processes, p.tls.mode = .disabled) ∧
      ∃ p ∈ d.processes, p.tls.mode ≠ .disabled)) ∧
    (∀ i, d.validate = .error i ↔ d.Violates i) ∧
    (∀ i, d.Violates i →
      d.tls.clientCertificateMode ≠ .optional ∧
        i.message = "clientCertificateMode must be OPTIONAL" ∨
      d.tls.clientCertificateMode = .optional ∧ ∃ p, d.FirstMisfit p ∧
        (¬ p.tls.Sound ∧ i.message =
          "process " ++ p.name ++ " has inconsistent TLS settings: " ++ p.tls.label ∨
        p.tls.Sound ∧ i.message =
          "process " ++ p.name ++ " runs TLS mode " ++ p.tls.mode.label ++
            " but cluster CAFilePath is " ++ Quoted.text d.tls.caFilePath)) ∧
    ∀ b : Builder, ¬ b.Overflows →
      ((∃ r, b.build = .ok r) ↔ b.modified.Consistent) ∧
      (∀ r, b.build = .ok r → r.Consistent ∧ r = { b.modified with version := r.version }) ∧
      (∀ e, b.build = .error e ↔ ∃ i, e = .inconsistent i ∧ b.modified.validate = .error i) ∧
      ∀ i, b.modified.Violates i →
        Configuration.built b = .fail (.plain (.invariant i.message)) := by
  refine ⟨validate_eq_ok_iff, ?_, fun i => validate_eq_error_iff, fun i h => h.message,
    fun b room => ⟨Builder.exists_build_iff room, fun r build => ?_,
      Builder.build_eq_error_iff room, fun i h => Builder.built_of_violates room h⟩⟩
  -- a process without TLS and one with TLS do not fit the same path
  · rintro valid ⟨⟨p, isProcess, off⟩, q, other, on⟩
    exact on ((validate_eq_ok_iff.1 valid).disabled isProcess other off)
  · exact ⟨validate_eq_ok_iff.1 (Builder.validate_of_build build), Builder.eq_of_build build⟩

/-! ### Two misfits -/

/-- A builder, in an example, of a document with three processes. The second one lacks settings,
and the third one has none. -/
def torn : Builder where
  name := "db"
  hosts := ["a", "b", "c"]
  databaseVersion := "6.0.5"
  previous := some { version := 7, processes := [], replicaSets := [] }
  modifications :=
    [Change.apply (.tls .required "new.pem"),
     Change.apply (.setProcessTls 1 { mode := .preferred, caFile := "/ca.crt" }),
     Change.apply (.setProcessTls 2 {})]

/-- The second process is the one that is reported. -/
theorem validate_decides_torn :
    ¬ torn.Overflows ∧
    torn.modified.Violates (.settings "db-1" { mode := .preferred, caFile := "/ca.crt" }) ∧
    ¬ torn.modified.Consistent ∧
    (¬ ∃ r, torn.build = .ok r) ∧
    torn.build =
      .error (.inconsistent (.settings "db-1" { mode := .preferred, caFile := "/ca.crt" })) := by
  -- the version 7 is not the greatest one
  have room : ¬ torn.Overflows := by
    rintro ⟨p, ⟨⟩, greatest, -⟩
    cases greatest
  have refused : torn.modified.validate =
      .error (.settings "db-1" { mode := .preferred, caFile := "/ca.crt" }) := rfl
  obtain ⟨accepts, -, reports, -, builds⟩ := validate_decides torn.modified
  obtain ⟨makes, -, fails, -⟩ := builds torn room
  have inconsistent : ¬ torn.modified.Consistent := fun consistent =>
    absurd (refused.symm.trans (accepts.2 consistent)) (by simp)
  exact ⟨room, (reports _).1 refused, inconsistent, fun built => inconsistent (makes.1 built),
    (fails _).2 ⟨_, rfl, refused⟩⟩

end Document

end ReplicaSetOperator
