import Mathlib.Data.List.Induction
import Mathlib.Data.List.InsertIdx
import ReplicaSetOperator.Automation.Builder
import ReplicaSetOperator.Automation.Change

/-!
# Switches of the TLS mode among other changes

A switch of the TLS mode writes every TLS setting and reads none. So it undoes an earlier switch
(`Document.switchTls_switchTls`), and it can change places with whatever leaves TLS alone, processes
that are dropped included (`Change.apply_switchTls`). Both together give
`Document.switchTls_changed`: in front of a switch the earlier ones may as well be left out.

The main statement is `Document.changed_of_last`. Of switches among changes that leave TLS alone
only the last one counts, wherever it stands:

* the document is the one that the other changes make, switched at the end;
* it is consistent, whatever it was before (`Document.validate_switchTls`);
* without its TLS settings it is the one that the other changes make;
* a builder makes the same of all of them and of the other changes with the last switch at any place
  among them.
-/

namespace ReplicaSetOperator

/-! ### Consistency -/

theorem Tls.isEmpty_pemKeyFilePath (file : String) : (pemKeyFilePath file).isEmpty = false := by
  rw [pemKeyFilePath, ← Bool.not_eq_true, String.isEmpty_iff]
  -- the path begins with its directory, whatever the file is called
  intro empty
  exact absurd (congrArg String.length empty) (by simp [secretMountPath])

/-- The settings of one mode go together. -/
theorem TlsSettings.consistent_running (mode : TlsMode) (file : String) :
    (running mode file).consistent = true := by
  have named := Tls.isEmpty_pemKeyFilePath file
  cases mode with
  | disabled => rfl
  | preferred =>
    simp only [consistent, running, named]
    rfl
  | required =>
    simp only [consistent, running, named]
    rfl

namespace Document

/-- The settings of one mode agree with each other, so that a switch makes any document
consistent. -/
theorem validate_switchTls (mode : TlsMode) (file : String) (d : Document) :
    (d.switchTls mode file).validate = .ok () := by
  have fine : ∀ p ∈ (d.switchTls mode file).processes,
      p.inconsistency? (ClusterTls.running mode).caFilePath = none := by
    intro p mem
    obtain ⟨q, -, rfl⟩ := List.mem_map.1 mem
    rw [Process.inconsistency?]
    -- a process with the settings of a mode has these settings, whichever it had
    have settings : (q.withTls (.running mode file)).tls = .running mode file := rfl
    rw [settings, TlsSettings.consistent_running]
    -- the path of the CA file is empty in the one mode that needs none
    cases mode <;> rfl
  have none : (d.switchTls mode file).inconsistency? = none := by
    show List.findSome? _ _ = none
    exact List.findSome?_eq_none_iff.2 fine
  rw [validate, none]

/-! ### One switch and one other change -/

/-- Of two switches the later one counts. -/
theorem switchTls_switchTls (mode mode' : TlsMode) (file file' : String) (d : Document) :
    (d.switchTls mode file).switchTls mode' file' = d.switchTls mode' file' := by
  simp only [switchTls, List.map_map, mk.injEq, true_and, and_true]
  -- each process gets the settings of the second switch, whichever it has from the first one
  exact List.map_congr_left fun p _ => rfl

/-- The document without its TLS settings. -/
def withoutTls (d : Document) : Document :=
  { d with tls := {}, processes := d.processes.map (·.withTls {}) }

/-- A switch changes nothing but TLS settings. -/
theorem withoutTls_switchTls (mode : TlsMode) (file : String) (d : Document) :
    (d.switchTls mode file).withoutTls = d.withoutTls := by
  simp only [switchTls, withoutTls, List.map_map, mk.injEq, true_and, and_true]
  exact List.map_congr_left fun p _ => rfl

/-- The last change is made after all others. -/
theorem changed_concat (d : Document) (changes : List Change) (change : Change) :
    d.changed (changes ++ [change]) = change.apply (d.changed changes) := by
  rw [changed, List.foldl_append]
  rfl

end Document

namespace Change

/-- Whether a change switches the TLS mode. -/
def isSwitch : Change → Bool
  | .tls _ _ => true
  | _ => false

/-- Whether a change neither reads nor writes a TLS setting. -/
def sparesTls : Change → Bool
  | .keep | .setDownloadBase _ | .appendDownloadBase _ | .setProcessVersion _ _ | .dropProcess _
  | .setVersion _ => true
  | .tls _ _ | .setClientCertificates _ | .setCaFilePath _ | .setProcessTls _ _ => false

/-- A switch has a mode and a file. -/
theorem exists_of_isSwitch {change : Change} (h : change.isSwitch = true) :
    ∃ mode file, change = .tls mode file := by
  cases change with
  | tls mode file => exact ⟨mode, file, rfl⟩
  | _ => cases h

/-- No change switches the mode and leaves TLS alone. -/
theorem not_isSwitch_of_sparesTls {change : Change} (h : change.sparesTls = true) :
    ¬ change.isSwitch = true := by
  intro switches
  obtain ⟨mode, file, rfl⟩ := exists_of_isSwitch switches
  cases h

/-- What leaves TLS alone can be done before a switch as well as after it. -/
theorem apply_switchTls {change : Change} (spares : change.sparesTls = true) (mode : TlsMode)
    (file : String) (d : Document) :
    change.apply (d.switchTls mode file) = (change.apply d).switchTls mode file := by
  cases change with
  | keep => rfl
  | setDownloadBase path => rfl
  | appendDownloadBase suffix => rfl
  | setVersion version => rfl
  | setProcessVersion index version =>
    simp only [apply, Document.switchTls, Document.mk.injEq, true_and, and_true]
    -- both touch the process of the index, but not the same part of it
    refine List.ext_getElem? fun i => ?_
    rw [List.getElem?_map, List.getElem?_modify, List.getElem?_modify, List.getElem?_map]
    by_cases same : index = i
    · simp only [same, if_true]
      cases d.processes[i]? <;> rfl
    · simp only [same, if_false]
      cases d.processes[i]? <;> rfl
  | dropProcess index =>
    simp only [apply, Document.switchTls, Document.mk.injEq, true_and, and_true]
    exact List.eraseIdx_map _ _ _
  | tls _ _ => cases spares
  | setClientCertificates _ => cases spares
  | setCaFilePath _ => cases spares
  | setProcessTls _ _ => cases spares

/-- Each of the changes switches the TLS mode or leaves TLS alone. -/
def Mixed (changes : List Change) : Prop :=
  ∀ change ∈ changes, change.isSwitch = true ∨ change.sparesTls = true

end Change

/-! ### Many of them -/

namespace Document

variable {changes : List Change} {switch : Change}

/-- A switch makes the same of a document if earlier ones are left out. -/
theorem switchTls_changed (mixed : Change.Mixed changes) (mode : TlsMode) (file : String)
    (d : Document) :
    (d.changed changes).switchTls mode file =
      (d.changed (changes.filter Change.sparesTls)).switchTls mode file := by
  induction changes using List.reverseRecOn with
  | nil => rfl
  | append_singleton changes change ih =>
    obtain ⟨earlier, latest⟩ := List.forall_mem_append.1 mixed
    specialize ih earlier
    rw [List.filter_append, changed_concat]
    rcases latest change (List.mem_singleton_self _) with switches | spares
    · -- the switch is undone by the next one
      rw [List.filter_cons_of_neg fun spares => Change.not_isSwitch_of_sparesTls spares switches,
        List.filter_nil, List.append_nil, ← ih]
      obtain ⟨mode', file', rfl⟩ := Change.exists_of_isSwitch switches
      exact switchTls_switchTls mode' mode file' file _
    · -- the next switch may as well come before the change
      rw [List.filter_cons_of_pos spares, List.filter_nil, changed_concat,
        ← Change.apply_switchTls spares, ih, Change.apply_switchTls spares]

/-- The other changes make the document, and the last switch sets its mode. -/
theorem changed_eq_switched (mixed : Change.Mixed changes)
    (last : (changes.filter Change.isSwitch).getLast? = some switch) (d : Document) :
    d.changed changes = switch.apply (d.changed (changes.filter Change.sparesTls)) := by
  induction changes using List.reverseRecOn with
  | nil => cases last
  | append_singleton changes change ih =>
    obtain ⟨earlier, latest⟩ := List.forall_mem_append.1 mixed
    rw [List.filter_append] at last
    rw [List.filter_append, changed_concat]
    rcases latest change (List.mem_singleton_self _) with switches | spares
    -- the last switch is the last change
    · rw [List.filter_cons_of_pos switches, List.filter_nil, List.getLast?_concat] at last
      obtain rfl := Option.some.inj last
      rw [List.filter_cons_of_neg fun spares => Change.not_isSwitch_of_sparesTls spares switches,
        List.filter_nil, List.append_nil]
      obtain ⟨mode, file, rfl⟩ := Change.exists_of_isSwitch switches
      exact switchTls_changed earlier mode file d
    · rw [List.filter_cons_of_neg (Change.not_isSwitch_of_sparesTls spares), List.filter_nil,
        List.append_nil] at last
      rw [List.filter_cons_of_pos spares, List.filter_nil, changed_concat, ih earlier last]
      -- what comes after the last switch leaves TLS alone
      obtain ⟨-, switches⟩ := List.mem_filter.1 (List.mem_of_getLast? last)
      obtain ⟨mode, file, rfl⟩ := Change.exists_of_isSwitch switches
      exact Change.apply_switchTls spares mode file _

/-- A single switch may stand at any place. -/
theorem changed_switch {before after : List Change}
    (spare : ∀ change ∈ before ++ after, change.sparesTls = true) (mode : TlsMode) (file : String)
    (d : Document) :
    d.changed (before ++ .tls mode file :: after) =
      (d.changed (before ++ after)).switchTls mode file := by
  obtain ⟨spareBefore, spareAfter⟩ := List.forall_mem_append.1 spare
  have mixed : Change.Mixed (before ++ .tls mode file :: after) :=
    List.forall_mem_append.2 ⟨fun change mem => .inr (spareBefore change mem),
      List.forall_mem_cons.2 ⟨.inl rfl, fun change mem => .inr (spareAfter change mem)⟩⟩
  have only : (before ++ .tls mode file :: after).filter Change.isSwitch = [.tls mode file] := by
    have unswitched {xs : List Change} (spare : ∀ change ∈ xs, change.sparesTls = true) :
        xs.filter Change.isSwitch = [] :=
      List.filter_eq_nil_iff.2 fun change mem =>
        Change.not_isSwitch_of_sparesTls (spare change mem)
    rw [List.filter_append, List.filter_cons_of_pos rfl, unswitched spareBefore,
      unswitched spareAfter, List.nil_append]
  have last : ((before ++ .tls mode file :: after).filter Change.isSwitch).getLast? =
      some (.tls mode file) := by
    rw [only]
    rfl
  have others : (before ++ .tls mode file :: after).filter Change.sparesTls = before ++ after := by
    rw [List.filter_append, List.filter_cons_of_neg Bool.false_ne_true,
      List.filter_eq_self.2 spareBefore, List.filter_eq_self.2 spareAfter]
  rw [changed_eq_switched mixed last, others]
  rfl

end Document

namespace Builder

/-- The builder with further modifications. -/
def adding (b : Builder) (changes : List Change) : Builder :=
  { b with modifications := b.modifications ++ changes.map Change.apply }

/-- Further modifications come after those that there are. -/
theorem modified_adding (b : Builder) (changes : List Change) :
    (b.adding changes).modified = b.modified.changed changes := by
  rw [modified, adding, List.foldl_append, List.foldl_map]
  rfl

/-- Changes that come to one document are built alike. -/
theorem build_adding_congr {changes changes' : List Change} (b : Builder)
    (same : b.modified.changed changes = b.modified.changed changes') :
    (b.adding changes).build = (b.adding changes').build := by
  have kept : (b.adding changes).previous = (b.adding changes').previous := rfl
  rw [build, build, modified_adding, modified_adding, same, kept]

end Builder

namespace Document

variable {changes : List Change} {switch : Change}

/-- Of the switches of the TLS mode among changes that leave TLS alone the last one counts, wherever
it stands: the document is that of the other changes, switched at the end; it is consistent; it
differs from that of the other changes in TLS settings only; and a builder makes the same if the
last switch stands at any place among the other changes. -/
theorem changed_of_last (mixed : Change.Mixed changes)
    (last : (changes.filter Change.isSwitch).getLast? = some switch) :
    (∀ d : Document,
      d.changed changes = switch.apply (d.changed (changes.filter Change.sparesTls)) ∧
      (d.changed changes).validate = .ok () ∧
      (d.changed changes).withoutTls = (d.changed (changes.filter Change.sparesTls)).withoutTls) ∧
    ∀ (b : Builder) (before after : List Change),
      changes.filter Change.sparesTls = before ++ after →
      (b.adding changes).build = (b.adding (before ++ switch :: after)).build := by
  have switches : switch.isSwitch = true := (List.mem_filter.1 (List.mem_of_getLast? last)).2
  obtain ⟨mode, file, rfl⟩ := Change.exists_of_isSwitch switches
  refine ⟨fun d => ?_, fun b before after others => ?_⟩
  · have whole := changed_eq_switched mixed last d
    refine ⟨whole, ?_, ?_⟩
    · rw [whole]
      exact validate_switchTls mode file _
    · rw [whole]
      exact withoutTls_switchTls mode file _
  · -- at any place the switch finds the same other changes
    have spare : ∀ change ∈ before ++ after, change.sparesTls = true := by
      intro change mem
      rw [← others] at mem
      exact (List.mem_filter.1 mem).2
    refine b.build_adding_congr ?_
    rw [changed_eq_switched mixed last, changed_switch spare, others]
    rfl

/-! ### Two switches -/

/-- A document, in an example, that is not consistent. -/
def unsettled : Document :=
  { (Builder.base { name := "db", hosts := ["db-0", "db-1"], databaseVersion := "6.0.5" }) with
    tls := { caFilePath := "/ca.crt", clientCertificateMode := .require } }

/-- Changes of it, with a switch before and a switch after others. -/
def unsettledChanges : List Change :=
  [.setVersion 7, .tls .required "old.pem", .appendDownloadBase "/new", .dropProcess 0,
   .tls .preferred "new.pem", .setProcessVersion 0 "7.0.2"]

/-- The second switch is the one that counts, for the process that is left. -/
theorem changed_of_last_unsettled :
    Change.Mixed unsettledChanges ∧
    (unsettledChanges.filter Change.isSwitch).getLast? = some (.tls .preferred "new.pem") ∧
    unsettled.validate = .error .clientCertificateMode ∧
    (unsettled.changed unsettledChanges).validate = .ok () ∧
    (unsettled.changed unsettledChanges).processes.map (·.tls) =
      [.running .preferred "new.pem"] := by
  have mixed : Change.Mixed unsettledChanges := by
    simp [Change.Mixed, unsettledChanges, Change.isSwitch, Change.sparesTls]
  have last : (unsettledChanges.filter Change.isSwitch).getLast? =
      some (.tls .preferred "new.pem") := rfl
  obtain ⟨whole, valid, -⟩ := (changed_of_last mixed last).1 unsettled
  refine ⟨mixed, last, rfl, valid, ?_⟩
  rw [whole]
  rfl

end Document

end ReplicaSetOperator
