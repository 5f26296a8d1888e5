import ReplicaSetOperator.Automation.DocumentFormat
import ReplicaSetOperator.Proofs.Json.FirstMember
import ReplicaSetOperator.Proofs.Json.Returns
import ReplicaSetOperator.Proofs.Text.Octets

/-!
# Documents and their texts

What is read from the octets that a document is written as: its version in any case
(`Document.version_ofBytes`), and the whole document if its members have the priority that a
builder gives them (`Document.ofBytes_ofText`). Other priorities may be read as a neighbour.
-/

namespace ReplicaSetOperator

open Format

/-! ### The parts of a document -/

/-- Every mode is read back from its name. -/
theorem TlsMode.returns (m : TlsMode) : TlsMode.format.Returns 0 m := by
  cases m <;> exact ⟨trivial, Nat.le_refl 0, by decide, by decide⟩

theorem ClientCertificates.returns (m : ClientCertificates) :
    ClientCertificates.format.Returns 0 m := by
  cases m <;> exact ⟨trivial, Nat.le_refl 0, by decide, by decide⟩

/-- A text that is left out if it is empty. -/
theorem Json.ofNonempty_returns {rules : List FieldRule} {r : FieldRule} {name : String}
    (s : String) (d : Nat) (rule : rules.find? (fun r => r.name == name) = some r)
    (fits : r.fault = Format.string.fault) : MemberReturns rules d (name, Json.ofNonempty s) := by
  unfold Json.ofNonempty
  split
  · exact memberReturns_none name
  · exact (string_returns s).member (Nat.zero_le d) rule fits

/-- A text that has been left out is read as the empty one. -/
theorem Json.read_ofNonempty (s : String) :
    (((Json.ofNonempty s).map Json.reread).map Format.string.read).getD "" = s := by
  unfold Json.ofNonempty
  split
  · next empty => exact (String.isEmpty_iff.1 empty).symm
  · rfl

namespace TlsSettings

/-- The members of the settings, as they are written. -/
def written (s : TlsSettings) : List (String × Option Json) :=
  [("mode", some (TlsMode.format.write s.mode)),
   ("PEMKeyFile", Json.ofNonempty s.pemKeyFile),
   ("CAFile", Json.ofNonempty s.caFile),
   ("allowConnectionsWithoutCertificates",
    if s.allowConnectionsWithoutCertificates then some (.bool true) else none)]

theorem nodup_written (s : TlsSettings) : (s.written.map Prod.fst).Nodup := by simp [written]

/-- Settings are read back, those that are left out with their default. -/
theorem returns (s : TlsSettings) : format.Returns 1 s := by
  refine record_returns rfl (l := s.written) rfl s.nodup_written ?_ ?_ ?_
  · simp only [written, List.forall_mem_cons]
    -- the four members, of which the last three may be left out
    refine ⟨s.mode.returns.member (Nat.zero_le 0) rfl rfl, Json.ofNonempty_returns _ 0 rfl rfl,
      Json.ofNonempty_returns _ 0 rfl rfl, ?_, List.forall_mem_nil _⟩
    split
    · exact (bool_returns true).member (Nat.zero_le 0) rfl rfl
    · exact memberReturns_none _
  · simp [Format.rule, written]
  -- what is left out is what would be read in its place
  · have mode : TlsMode.format.read (TlsMode.format.write s.mode).reread = s.mode :=
      s.mode.returns.read
    have allow : (((if s.allowConnectionsWithoutCertificates then some (Json.bool true)
        else none).map Json.reread).map Format.bool.read).getD false =
        s.allowConnectionsWithoutCertificates := by
      cases s.allowConnectionsWithoutCertificates <;> rfl
    simp only [format, readField_reread _ _ _ s.nodup_written]
    show (⟨TlsMode.format.read (TlsMode.format.write s.mode).reread,
      (((Json.ofNonempty s.pemKeyFile).map Json.reread).map Format.string.read).getD "",
      (((Json.ofNonempty s.caFile).map Json.reread).map Format.string.read).getD "",
      (((if s.allowConnectionsWithoutCertificates then some (Json.bool true)
        else none).map Json.reread).map Format.bool.read).getD false⟩ : TlsSettings) = s
    rw [mode, Json.read_ofNonempty, Json.read_ofNonempty, allow]

end TlsSettings

/-- The network settings are read back. -/
theorem Net.returns (n : Net) : format.Returns 2 n := by
  have port := int32_returns n.port
  have tls := n.tls.returns
  refine record_returns (l := [("port", some (Format.int32.write n.port)),
    ("tls", some (TlsSettings.format.write n.tls))]) rfl rfl (by simp) ?_ (by simp [Format.rule]) ?_
  · simp only [List.forall_mem_cons]
    exact ⟨port.member (Nat.zero_le 1) rfl rfl, tls.member (Nat.le_refl 1) rfl rfl,
      List.forall_mem_nil _⟩
  · show (⟨Format.int32.read (Format.int32.write n.port).reread,
      TlsSettings.format.read (TlsSettings.format.write n.tls).reread⟩ : Net) = n
    rw [port.read, tls.read]

theorem Replication.returns (r : Replication) : format.Returns 1 r := by
  refine record_returns (l := [("replSetName", some (.string r.replSetName))]) rfl rfl
    (by simp) ?_ (by simp [Format.rule]) rfl
  simp only [List.forall_mem_cons]
  exact ⟨(string_returns _).member (Nat.le_refl 0) rfl rfl,
    List.forall_mem_nil _⟩

theorem Storage.returns (s : Storage) : format.Returns 1 s := by
  refine record_returns (l := [("dbPath", some (.string s.dbPath))]) rfl rfl
    (by simp) ?_ (by simp [Format.rule]) rfl
  simp only [List.forall_mem_cons]
  exact ⟨(string_returns _).member (Nat.le_refl 0) rfl rfl,
    List.forall_mem_nil _⟩

/-- The arguments of a process are read back part by part. -/
theorem Arguments.returns (a : Arguments) : format.Returns 3 a := by
  have net := a.net.returns
  have replication := a.replication.returns
  have storage := a.storage.returns
  refine record_returns (l := [("net", some (Net.format.write a.net)),
    ("replication", some (Replication.format.write a.replication)),
    ("storage", some (Storage.format.write a.storage))]) rfl rfl
    (by simp) ?_ (by simp [Format.rule]) ?_
  · -- each part is read back on its own
    simp only [List.forall_mem_cons]
    exact ⟨net.member (by decide) rfl rfl, replication.member (by decide) rfl rfl,
      storage.member (by decide) rfl rfl, List.forall_mem_nil _⟩
  · show (⟨Net.format.read (Net.format.write a.net).reread,
      Replication.format.read (Replication.format.write a.replication).reread,
      Storage.format.read (Storage.format.write a.storage).reread⟩ : Arguments) = a
    rw [net.read, replication.read, storage.read]

namespace Process

/-- The members of a process, as they are written. -/
def written (p : Process) : List (String × Option Json) :=
  [("name", some (.string p.name)), ("hostname", some (.string p.hostName)),
   ("args2_6", some (Arguments.format.write p.arguments)),
   ("featureCompatibilityVersion", p.featureCompatibilityVersion.map .string),
   ("processType", some (.string p.processType)), ("version", some (.string p.version)),
   ("authSchemaVersion", some (Format.int32.write p.authSchemaVersion))]

theorem nodup_written (p : Process) : (p.written.map Prod.fst).Nodup := by simp [written]

/-- A process is read back. -/
theorem returns (p : Process) : format.Returns 4 p := by
  have arguments := p.arguments.returns
  have schema := int32_returns p.authSchemaVersion
  have text (s : String) := string_returns s
  refine record_returns rfl (l := p.written) rfl p.nodup_written ?_
    (by simp [Format.rule, written]) ?_
  · simp only [written, List.forall_mem_cons]
    refine ⟨(text _).member (by decide) rfl rfl, (text _).member (by decide) rfl rfl,
      arguments.member (by decide) rfl rfl, ?_, (text _).member (by decide) rfl rfl,
      (text _).member (by decide) rfl rfl, schema.member (by decide) rfl rfl,
      List.forall_mem_nil _⟩
    -- a compatibility version is written only if it is given
    cases p.featureCompatibilityVersion with
    | none => exact memberReturns_none _
    | some v =>
      have given : Format.string.option.Returns 0 (some v) :=
        ⟨trivial, Nat.le_refl 0, rfl, rfl⟩
      exact given.member (by decide) rfl rfl
  · -- a version that is not given is left out, and read as not given
    have compatibility : (((p.featureCompatibilityVersion.map Json.string).map Json.reread).map
        Format.string.option.read).getD none = p.featureCompatibilityVersion := by
      cases p.featureCompatibilityVersion <;> rfl
    simp only [format, readField_reread _ _ _ p.nodup_written]
    show (⟨p.name, p.hostName, Arguments.format.read (Arguments.format.write p.arguments).reread,
      (((p.featureCompatibilityVersion.map Json.string).map Json.reread).map
        Format.string.option.read).getD none, p.processType, p.version,
      Format.int32.read (Format.int32.write p.authSchemaVersion).reread⟩ : Process) = p
    rw [arguments.read, compatibility, schema.read]

end Process

/-- The priority that a builder gives to every member. -/
def Binary.one : Binary := .finite false 1 0

/-- The priority of a builder is read back as it is: its digits are those of one number only. -/
theorem Binary.one_returns : Format.single.Returns 0 one := by
  have text : (Number.single one).text = ['1', '.', '0'] := rfl
  have settled (frames : List Reader.Frame) (opened : Bool) :
      Reader.Settled (.number (.real one)) frames
        (Reader.run (.value frames opened) (Number.single one).text) := by
    rw [text]
    exact @Reader.Settled.number _ _ .fraction _ rfl rfl
  -- the digits are read as a number that is written with them again
  have same : (Format.single.write one).reread = .number (.real one) :=
    congrArg Json.number (Reader.reread_eq (settled [] false))
  refine ⟨Reader.readable_of_settled settled, Nat.le_refl 0, ?_, ?_⟩
  · rw [same]
    rfl
  · rw [same]
    rfl

/-- A member of a replica set is read back with that priority. With another one it might be read as
a neighbour of it. -/
theorem Member.returns {m : Member} (priority : m.priority = .one) : format.Returns 1 m := by
  have id := uint64_returns m.id
  have votes := int32_returns m.votes
  have one : Format.single.Returns 0 m.priority := priority ▸ Binary.one_returns
  refine record_returns (l := [("_id", some (Format.uint64.write m.id)),
    ("host", some (.string m.host)), ("priority", some (Format.single.write m.priority)),
    ("arbiterOnly", some (.bool m.arbiterOnly)), ("votes", some (Format.int32.write m.votes))])
    rfl rfl (by simp) ?_ (by simp [Format.rule]) ?_
  · simp only [List.forall_mem_cons]
    exact ⟨id.member (by decide) rfl rfl, (string_returns _).member (by decide) rfl rfl,
      one.member (by decide) rfl rfl, (bool_returns _).member (by decide) rfl rfl,
      votes.member (by decide) rfl rfl, List.forall_mem_nil _⟩
  · show (⟨Format.uint64.read (Format.uint64.write m.id).reread, m.host,
      Format.single.read (Format.single.write m.priority).reread, m.arbiterOnly,
      Format.int32.read (Format.int32.write m.votes).reread⟩ : Member) = m
    rw [id.read, one.read, votes.read]

/-- A replica set is read back if its members are. -/
theorem ReplicaSet.returns {r : ReplicaSet} (priorities : ∀ m ∈ r.members, m.priority = .one) :
    format.Returns 3 r := by
  have members : Member.format.list.Returns 2 r.members :=
    list_returns fun m mem => Member.returns (priorities m mem)
  refine record_returns (l := [("_id", some (.string r.id)),
    ("members", some (Member.format.list.write r.members)),
    ("protocolVersion", some (.string r.protocolVersion))]) rfl rfl
    (by simp) ?_ (by simp [Format.rule]) ?_
  · simp only [List.forall_mem_cons]
    exact ⟨(string_returns _).member (by decide) rfl rfl, members.member (by decide) rfl rfl,
      (string_returns _).member (by decide) rfl rfl, List.forall_mem_nil _⟩
  · show (⟨r.id, Member.format.list.read (Member.format.list.write r.members).reread,
      r.protocolVersion⟩ : ReplicaSet) = r
    rw [members.read]

/-- That authentication is off is read back. -/
theorem Auth.returns (a : Auth) : format.Returns 1 a := by
  refine record_returns (l := [("disabled", some (.bool a.disabled))]) rfl rfl
    (by simp) ?_ (by simp [Format.rule]) rfl
  simp only [List.forall_mem_cons]
  exact ⟨(bool_returns _).member (Nat.le_refl 0) rfl rfl,
    List.forall_mem_nil _⟩

theorem Options.returns (o : Options) : format.Returns 1 o := by
  refine record_returns (l := [("downloadBase", some (.string o.downloadBase))]) rfl rfl
    (by simp) ?_ (by simp [Format.rule]) rfl
  simp only [List.forall_mem_cons]
  exact ⟨(string_returns _).member (Nat.le_refl 0) rfl rfl,
    List.forall_mem_nil _⟩

/-- The TLS settings of the cluster are read back. -/
theorem ClusterTls.returns (t : ClusterTls) : format.Returns 1 t := by
  have mode := t.clientCertificateMode.returns
  refine record_returns (l := [("CAFilePath", some (.string t.caFilePath)),
    ("clientCertificateMode", some (ClientCertificates.format.write t.clientCertificateMode))])
    rfl rfl (by simp) ?_ (by simp [Format.rule]) ?_
  · simp only [List.forall_mem_cons]
    exact ⟨(string_returns _).member (by decide) rfl rfl, mode.member (by decide) rfl rfl,
      List.forall_mem_nil _⟩
  · show (⟨t.caFilePath, ClientCertificates.format.read
      (ClientCertificates.format.write t.clientCertificateMode).reread⟩ : ClusterTls) = t
    rw [mode.read]

/-! ### Whole documents -/

namespace Document

/-- Every member of the document has the priority that a builder gives. -/
def Uniform (d : Document) : Prop := ∀ r ∈ d.replicaSets, ∀ m ∈ r.members, m.priority = .one

/-- A uniform document is equal to itself, as it has no priority that is no number. -/
theorem Uniform.isDefinite {d : Document} (h : d.Uniform) : d.isDefinite = true := by
  refine List.all_eq_true.2 fun r mem => List.all_eq_true.2 fun m member => ?_
  rw [h r mem m member]
  rfl

/-- A uniform document is read back from what it is written as. -/
theorem Uniform.returns {d : Document} (h : d.Uniform) : format.Returns 6 d := by
  -- every member is read back, the replica sets only with the priorities as they are
  have version := int64_returns d.version
  have processes : Process.format.list.Returns 5 d.processes :=
    list_returns fun p _ => p.returns
  have replicaSets : ReplicaSet.format.list.Returns 4 d.replicaSets :=
    list_returns fun r mem => ReplicaSet.returns (h r mem)
  have auth := d.auth.returns
  have tls := d.tls.returns
  have options := d.options.returns
  refine record_returns (l := [("version", some (Format.int64.write d.version)),
    ("processes", some (Process.format.list.write d.processes)),
    ("replicaSets", some (ReplicaSet.format.list.write d.replicaSets)),
    ("auth", some (Auth.format.write d.auth)), ("tls", some (ClusterTls.format.write d.tls)),
    ("options", some (Options.format.write d.options))]) rfl rfl
    (by simp) ?_ (by simp [Format.rule]) ?_
  · simp only [List.forall_mem_cons]
    exact ⟨version.member (by decide) rfl rfl, processes.member (by decide) rfl rfl,
      replicaSets.member (by decide) rfl rfl, auth.member (by decide) rfl rfl,
      tls.member (by decide) rfl rfl, options.member (by decide) rfl rfl,
      List.forall_mem_nil _⟩
  · show (⟨Format.int64.read (Format.int64.write d.version).reread,
      Process.format.list.read (Process.format.list.write d.processes).reread,
      ReplicaSet.format.list.read (ReplicaSet.format.list.write d.replicaSets).reread,
      Auth.format.read (Auth.format.write d.auth).reread,
      ClusterTls.format.read (ClusterTls.format.write d.tls).reread,
      Options.format.read (Options.format.write d.options).reread⟩ : Document) = d
    rw [version.read, processes.read, replicaSets.read, auth.read, tls.read, options.read]

/-- Reading the octets of a document is reading what is printed. -/
theorem ofBytes_text (d : Document) :
    ofBytes (Bytes.ofText d.text) = ofRead (Json.read (format.write d).print) := by
  rw [ofBytes, Bytes.text?_ofText]
  show ofRead (Json.read (Json.text (format.write d)).toList) = _
  rw [Json.text, String.toList_ofList]

/-- A uniform document is read back from its octets. -/
theorem ofBytes_ofText {d : Document} (h : d.Uniform) : ofBytes (Bytes.ofText d.text) = .ok d := by
  have returns := h.returns
  -- the text is not nested more deeply than the reader goes
  have room : (format.write d).depth ≤ Reader.maxDepth :=
    Nat.le_trans returns.shallow (by decide)
  rw [ofBytes_text, Json.read_print returns.legible room, ofRead, Format.decode]
  dsimp only
  rw [returns.fault, returns.read]
  rfl

/-- Whatever else is in a document, its version is the one that is read from its text. -/
theorem version_ofBytes {d e : Document} (h : ofBytes (Bytes.ofText d.text) = .ok e) :
    e.version = d.version := by
  obtain ⟨others, first⟩ := Json.read_print_first "version" (int64_returns d.version).legible
    (Nat.le_of_ble_eq_true rfl) ("processes", Process.format.list.write d.processes)
    [("replicaSets", ReplicaSet.format.list.write d.replicaSets),
     ("auth", Auth.format.write d.auth), ("tls", ClusterTls.format.write d.tls),
     ("options", Options.format.write d.options)]
  -- the version is printed digit by digit, and read as the number that it was
  have bounds := int64_bounds d.version
  have same : (Format.int64.write d.version).reread = Format.int64.write d.version :=
    reread_ofInt bounds.1 (by omega)
  rw [same] at first
  have whole : (Json.read (format.write d).print).1 =
      .object (("version", Format.int64.write d.version) :: others) := first
  rw [ofBytes_text, ofRead, whole, Format.decode] at h
  -- whatever else is read, the first member is the version
  split at h
  · cases h
  · next same =>
    split at same
    · cases same
    · cases same
      split at h
      · cases h
      · cases h
        simp only [format, Format.readField, Record.field?, Json.find?_cons, if_true,
          Option.map_some, Option.getD_some]
        exact Int64.ofInt_toInt d.version

end Document

end ReplicaSetOperator
