import Mathlib.Data.List.Basic
import ReplicaSetOperator.Automation.Change
import ReplicaSetOperator.Proofs.Automation.Versions

/-!
# Chains of documents

A chain of builders, of which each follows the last document that has been built, numbers the
contents of its documents. What a builder makes depends on its content alone, that is on the
document of its modifications without the version they have left in it (`Builder.build_congr`). If
its content is consistent, it makes the document that succeeds the previous one
(`Builder.exists_build`): the same one, or another one with the next version
(`Document.Succeeds`). There is no next version of the greatest one
(`Builder.build_eq_overflow`).

The main statement is `Builder.chain_numbers`, about chains that begin with nothing: along the
documents each succeeds the one before, and the version of the last one is one more than the number
of changes of content. The steps that fail might as well not be there, and no modification has an
influence on the versions.
-/

namespace ReplicaSetOperator

namespace Document

variable {p d : Document} {ds : List Document}

/-- A document has the place after another one: it says the same, its version included, or it says
something else and has the next version. -/
def Succeeds (p d : Document) : Prop := p.same d = true ∨ d.Follows (some p)

/-- How often the content changes along a list of documents. One that is not equal to itself, for
a priority that is no number, counts as a change whatever is before it. -/
def changes : List Document → Nat
  | p :: d :: rest =>
    (if Document.same { d with version := p.version } p then 0 else 1) + changes (d :: rest)
  | _ => 0

/-- The version goes up exactly if the content changes. -/
theorem Succeeds.version (h : p.Succeeds d) : d.version.toInt =
    p.version.toInt + (if Document.same { d with version := p.version } p then 0 else 1 : Nat) := by
  rcases h with same | ⟨next, differs⟩
  · have version := version_of_same same
    have unchanged : Document.same { d with version := p.version } p = true := by
      rw [version, same_comm]
      exact same
    rw [if_pos unchanged, version]
    exact (Int.add_zero _).symm
  · rw [if_neg (by rw [differs]; exact Bool.false_ne_true), next]
    rfl

/-- Where each document succeeds the one before, the version counts the changes of content. -/
theorem version_getLast (h : List.IsChain Succeeds (p :: ds)) :
    ((p :: ds).getLast (List.cons_ne_nil p ds)).version.toInt =
      p.version.toInt + changes (p :: ds) := by
  induction ds generalizing p with
  | nil => exact (Int.add_zero _).symm
  | cons d rest ih =>
    obtain ⟨first, others⟩ := List.isChain_cons_cons.1 h
    rw [List.getLast_cons (List.cons_ne_nil d rest), ih others, first.version, changes]
    push_cast
    omega

/-- The number of a document among those of a chain; nothing has the number zero. -/
def number : Option Document → Int
  | none => 0
  | some p => p.version.toInt

end Document

namespace Builder

variable {b b' : Builder} {bs : List Builder} {p d : Document} {last : Option Document}

/-! ### One builder -/

/-- What a builder says, whatever version its modifications have left. -/
def content (b : Builder) : Document := { b.modified with version := 0 }

/-- Whether a builder that changes the content would need a version beyond the greatest one. -/
def Overflows (b : Builder) : Prop :=
  ∃ p, b.previous = some p ∧ p.version = Int64.maxValue ∧
    Document.same { b.content with version := p.version } p = false

/-- What is modified is given by the content and a version. -/
theorem modified_congr (content : b.content = b'.content) (version : Int64) :
    ({ b.modified with version := version } : Document) =
      { b'.modified with version := version } := by
  -- another version is put in place of the one that the contents leave out
  have same := congrArg (fun d : Document => { d with version := version }) content
  exact same

/-- Modifications count for the content that they make, and for nothing else. -/
theorem build_congr (previous : b.previous = b'.previous) (content : b.content = b'.content) :
    b.build = b'.build := by
  have versions : nextVersion b.previous b.modified = nextVersion b'.previous b'.modified := by
    -- the next version depends on what is modified only but for its version
    rw [previous]
    cases b'.previous with
    | none => rfl
    | some p => rw [nextVersion, nextVersion, modified_congr content]
  rw [build, build, versions]
  cases nextVersion b'.previous b'.modified with
  | error e => rfl
  | ok version => simp only [modified_congr content version]

/-- With another content than that of the greatest version there is no next version. -/
theorem nextVersion_eq_overflow (overflows : b.Overflows) :
    nextVersion b.previous b.modified = .error .versionOverflow := by
  obtain ⟨p, previous, greatest, differs⟩ := overflows
  have changed : ¬ Document.same { b.modified with version := p.version } p = true :=
    ne_true_of_eq_false differs
  rw [previous, nextVersion, if_neg changed, if_pos greatest]

/-- Short of that there is a next version. -/
theorem exists_nextVersion (room : ¬ b.Overflows) :
    ∃ version, nextVersion b.previous b.modified = .ok version := by
  -- a first document has the version 1, and an unchanged one keeps its version
  cases previous : b.previous with
  | none => exact ⟨1, rfl⟩
  | some p =>
    rw [nextVersion]
    by_cases unchanged : Document.same { b.modified with version := p.version } p = true
    · exact ⟨p.version, if_pos unchanged⟩
    · rw [if_neg unchanged]
      -- with another content there has to be room for one more version
      by_cases greatest : p.version = Int64.maxValue
      · exact absurd ⟨p, previous, greatest, eq_false_of_ne_true unchanged⟩ room
      · exact ⟨p.version + 1, if_neg greatest⟩

/-- No document has a version beyond the greatest one. -/
theorem build_eq_overflow (overflows : b.Overflows) : b.build = .error .versionOverflow := by
  rw [build, nextVersion_eq_overflow overflows]

/-- An inconsistent content becomes no document, and what is wrong with it is told. -/
theorem build_eq_inconsistent {i : Inconsistency} (room : ¬ b.Overflows)
    (invalid : b.content.validate = .error i) : b.build = .error (.inconsistent i) := by
  obtain ⟨version, isNext⟩ := exists_nextVersion room
  -- the version makes no difference to the consistency
  have result : ({ b.modified with version := version } : Document).validate = .error i := invalid
  rw [build, isNext]
  simp only [result]

/-- A consistent content becomes a document. -/
theorem exists_build (room : ¬ b.Overflows) (valid : b.content.validate = .ok ()) :
    ∃ d, b.build = .ok d := by
  obtain ⟨version, isNext⟩ := exists_nextVersion room
  have result : ({ b.modified with version := version } : Document).validate = .ok () := valid
  refine ⟨{ b.modified with version := version }, ?_⟩
  rw [build, isNext]
  simp only [result]

/-- A document succeeds the one that it has been built from. -/
theorem succeeds_of_build (previous : b.previous = some p) (h : b.build = .ok d) :
    p.Succeeds d := by
  rcases follows_of_build h with ⟨q, isPrevious, same⟩ | follows
  · obtain rfl := Option.some.inj (previous.symm.trans isPrevious)
    exact .inl same
  · rw [previous] at follows
    exact .inr follows

theorem version_of_first (previous : b.previous = none) (h : b.build = .ok d) : d.version = 1 := by
  rcases follows_of_build h with ⟨q, isPrevious, -⟩ | follows
  · cases previous.symm.trans isPrevious
  · rw [previous] at follows
    exact follows

/-- A document has the number of the previous one, or the next one. -/
theorem number_of_build (h : b.build = .ok d) :
    d.version.toInt ≤ Document.number b.previous + 1 := by
  cases previous : b.previous with
  | none =>
    rw [version_of_first previous h]
    exact Int.le_refl _
  | some p =>
    rw [(succeeds_of_build previous h).version, Document.number]
    split <;> omega

/-! ### Chains of builders -/

/-- The builders of a chain have no previous documents of their own. -/
def Unanchored (bs : List Builder) : Prop := ∀ b ∈ bs, b.previous = none

theorem previous_following (unanchored : b.previous = none) (last : Option Document) :
    (b.following last).previous = last := by
  rw [following, unanchored]
  rfl

theorem content_following (b : Builder) (last : Option Document) :
    (b.following last).content = b.content := by
  rw [following]
  split <;> rfl

/-- The documents among the results of a chain. -/
def documents (results : List (Except BuildError Document)) : List Document :=
  results.filterMap Except.toOption

theorem documents_cons_ok (d : Document) (results : List (Except BuildError Document)) :
    documents (.ok d :: results) = d :: documents results := rfl

theorem documents_cons_error (e : BuildError) (results : List (Except BuildError Document)) :
    documents (.error e :: results) = documents results := rfl

/-- The rest of a chain starts from the document of its first builder, or from the one before if
there is none. -/
theorem chain_cons_ok (h : (b.following last).build = .ok d) :
    chain last (b :: bs) = .ok d :: chain (some d) bs := by
  rw [chain, h]
  rfl

theorem chain_cons_error {e : BuildError} (h : (b.following last).build = .error e) :
    chain last (b :: bs) = .error e :: chain last bs := by
  rw [chain, h]
  rfl

/-- Each document of a chain succeeds the one before. -/
theorem isChain_documents (unanchored : Unanchored bs) (last : Option Document) :
    List.IsChain Document.Succeeds (last.toList ++ documents (chain last bs)) := by
  induction bs generalizing last with
  | nil => cases last <;> simp [chain, documents]
  | cons b rest ih =>
    obtain ⟨first, others⟩ := List.forall_mem_cons.1 unanchored
    cases result : (b.following last).build with
    | error e =>
      rw [chain_cons_error result, documents_cons_error]
      -- a step that fails leaves the document before to the next one
      exact ih others last
    | ok d =>
      rw [chain_cons_ok result, documents_cons_ok]
      have later : List.IsChain Document.Succeeds (d :: documents (chain (some d) rest)) :=
        ih others (some d)
      cases last with
      | none => exact later
      | some p =>
        have next := succeeds_of_build (previous_following first (some p)) result
        exact List.isChain_cons_cons.2 ⟨next, later⟩

/-- The first document of a chain that begins with nothing has the version 1. -/
theorem version_head (unanchored : Unanchored bs) :
    ∀ d ∈ (documents (chain none bs)).head?, d.version = 1 := by
  induction bs with
  | nil => rintro d ⟨⟩
  | cons b rest ih =>
    obtain ⟨first, others⟩ := List.forall_mem_cons.1 unanchored
    cases result : (b.following none).build with
    | error e =>
      rw [chain_cons_error result, documents_cons_error]
      exact ih others
    | ok d =>
      rw [chain_cons_ok result, documents_cons_ok]
      rintro _ ⟨⟩
      exact version_of_first (previous_following first none) result

/-- The last document of a chain that begins with nothing has counted the changes of content. -/
theorem version_last (unanchored : Unanchored bs) :
    ∀ d ∈ (documents (chain none bs)).getLast?,
      d.version.toInt = Document.changes (documents (chain none bs)) + 1 := by
  have succeeds := isChain_documents unanchored none
  have starts := version_head unanchored
  rw [Option.toList_none, List.nil_append] at succeeds
  -- from here on it does not matter where the sequence comes from
  generalize documents (chain none bs) = ds at succeeds starts
  cases ds with
  | nil => rintro d ⟨⟩
  | cons first others =>
    intro d isLast
    rw [List.getLast?_eq_some_getLast (List.cons_ne_nil first others)] at isLast
    obtain rfl := Option.some.inj isLast
    have one : first.version.toInt = 1 := by
      rw [starts first rfl]
      rfl
    rw [Document.version_getLast succeeds, one, Int.add_comm]

/-- A step that fails might as well not be there. -/
theorem chain_eraseIdx {i : Nat} {e : BuildError} (fails : (chain last bs)[i]? = some (.error e)) :
    chain last (bs.eraseIdx i) = (chain last bs).eraseIdx i := by
  induction bs generalizing last i with
  | nil => rfl
  | cons b rest ih =>
    cases i with
    | zero =>
      have result : (b.following last).build = .error e := Option.some.inj fails
      rw [chain_cons_error result]
      rfl
    | succ i => exact congrArg (_ :: ·) (ih fails)

/-- Only the contents count. -/
theorem chain_congr {bs' : List Builder} (unanchored : Unanchored bs) (unanchored' : Unanchored bs')
    (contents : bs'.map content = bs.map content) (last : Option Document) :
    chain last bs' = chain last bs := by
  induction bs generalizing bs' last with
  | nil => rw [List.map_eq_nil_iff.1 contents]
  | cons b rest ih =>
    obtain ⟨b', rest', rfl, first, others⟩ := List.map_eq_cons_iff.1 contents
    obtain ⟨free, frees⟩ := List.forall_mem_cons.1 unanchored
    obtain ⟨free', frees'⟩ := List.forall_mem_cons.1 unanchored'
    -- both steps follow the same document, as neither has one of its own
    have result : (b'.following last).build = (b.following last).build := by
      refine build_congr ?_ ?_
      · rw [previous_following free', previous_following free]
      · rw [content_following, content_following, first]
    rw [chain, chain, result, ih frees frees' others]

/-- A step of a chain follows a document that is not far from the start. -/
theorem exists_following {i : Nat} (unanchored : Unanchored bs) (there : bs[i]? = some b) :
    ∃ before, (chain last bs)[i]? = some (b.following before).build ∧
      Document.number before ≤ Document.number last + i := by
  induction bs generalizing last i with
  | nil => cases there
  | cons first rest ih =>
    obtain ⟨free, others⟩ := List.forall_mem_cons.1 unanchored
    cases i with
    | zero =>
      obtain rfl : first = b := Option.some.inj there
      exact ⟨last, rfl, by omega⟩
    | succ i =>
      push_cast
      cases result : (first.following last).build with
      | error e =>
        rw [chain_cons_error result]
        -- the document before is still the same one
        obtain ⟨before, isResult, near⟩ := @ih last i others there
        exact ⟨before, isResult, by omega⟩
      | ok d =>
        -- the document before is now this one, whose number is one more at most
        have next := number_of_build result
        rw [previous_following free] at next
        rw [chain_cons_ok result]
        obtain ⟨before, isResult, near⟩ := @ih (some d) i others there
        have one : Document.number (some d) = d.version.toInt := rfl
        exact ⟨before, isResult, by omega⟩

/-- As long as there are versions, a step of a chain makes a document of a consistent content, and
fails for another one. -/
theorem chain_getElem? {i : Nat} (unanchored : Unanchored bs) (there : bs[i]? = some b)
    (room : i < 0x7fffffffffffffff) :
    (b.content.validate = .ok () → ∃ d, (chain none bs)[i]? = some (.ok d) ∧
      d = { b.content with version := d.version }) ∧
    ∀ x, b.content.validate = .error x →
      (chain none bs)[i]? = some (.error (.inconsistent x)) := by
  obtain ⟨before, result, near⟩ : ∃ before, (chain none bs)[i]? = some (b.following before).build ∧
      Document.number before ≤ Document.number none + i := exists_following unanchored there
  have free : b.previous = none := unanchored b (List.mem_of_getElem? there)
  -- the document before has a version of at most `i`, which leaves room for the next one
  have fits : ¬ (b.following before).Overflows := by
    rintro ⟨p, previous, greatest, -⟩
    obtain rfl := (previous_following free before).symm.trans previous
    have isMax : p.version.toInt = 0x7fffffffffffffff := by
      rw [greatest]
      rfl
    rw [Document.number, Document.number, isMax] at near
    omega
  rw [result, ← content_following b before]
  refine ⟨fun valid => ?_, fun x invalid => ?_⟩
  · obtain ⟨d, build⟩ := exists_build fits valid
    exact ⟨d, congrArg some build, eq_of_build build⟩
  · exact congrArg some (build_eq_inconsistent fits invalid)

/-- A chain of builders that begins with nothing. Its first document has the version 1, each later
one succeeds the one before, and the last one has counted the changes of content. A step makes a
document exactly if its content is consistent, as long as there are versions; one that fails might
as well not be there; and what modifications do to versions counts for nothing. Whatever is built
succeeds the previous document in the same way, wherever that comes from, and nothing is built with
a version beyond the greatest. -/
theorem chain_numbers (unanchored : Unanchored bs) :
    (∀ d ∈ (documents (chain none bs)).head?, d.version = 1) ∧
    List.IsChain Document.Succeeds (documents (chain none bs)) ∧
    (∀ d ∈ (documents (chain none bs)).getLast?,
      d.version.toInt = Document.changes (documents (chain none bs)) + 1) ∧
    (∀ i b, bs[i]? = some b → i < 0x7fffffffffffffff →
      (b.content.validate = .ok () → ∃ d, (chain none bs)[i]? = some (.ok d) ∧
        d = { b.content with version := d.version }) ∧
      ∀ x, b.content.validate = .error x →
        (chain none bs)[i]? = some (.error (.inconsistent x))) ∧
    (∀ i e, (chain none bs)[i]? = some (.error e) →
      chain none (bs.eraseIdx i) = (chain none bs).eraseIdx i) ∧
    (∀ bs', Unanchored bs' → bs'.map content = bs.map content → chain none bs' = chain none bs) ∧
    ∀ (b : Builder) (p : Document), b.previous = some p →
      (∀ d, b.build = .ok d → p.Succeeds d ∧ d = { b.content with version := d.version }) ∧
      (p.version ≠ Int64.maxValue → b.content.validate = .ok () →
        ∃ d, b.build = .ok d ∧ p.Succeeds d ∧ d = { b.content with version := d.version }) ∧
      (p.version = Int64.maxValue →
        Document.same { b.content with version := p.version } p = false →
        b.build = .error .versionOverflow) := by
  have succeeds := isChain_documents unanchored none
  rw [Option.toList_none, List.nil_append] at succeeds
  refine ⟨version_head unanchored, succeeds, version_last unanchored,
    fun i b there room => chain_getElem? unanchored there room, fun i e => chain_eraseIdx,
    fun bs' unanchored' contents => chain_congr unanchored unanchored' contents none,
    fun b p previous => ⟨fun d build => ⟨succeeds_of_build previous build, eq_of_build build⟩,
      fun small valid => ?_, fun greatest differs => ?_⟩⟩
  · have fits : ¬ b.Overflows := by
      rintro ⟨q, isPrevious, greatest, -⟩
      obtain rfl := Option.some.inj (previous.symm.trans isPrevious)
      exact small greatest
    obtain ⟨d, build⟩ := exists_build fits valid
    exact ⟨d, build, succeeds_of_build previous build, eq_of_build build⟩
  · exact build_eq_overflow ⟨p, previous, greatest, differs⟩

/-! ### A chain with a failure -/

/-- A builder, in an example, for a version of the database. -/
def release (databaseVersion : String) (changes : List Change) : Builder where
  name := "db"
  hosts := ["db-0"]
  databaseVersion := databaseVersion
  modifications := changes.map Change.apply

/-- A chain of four, of which the second one fails and the third one changes something; the others
try to set the version. -/
def releases : List Builder :=
  [release "6.0.5" [.setVersion 41], release "6.0.5" [.setCaFilePath "/ca.crt"],
   release "7.0.2" [.setVersion 1], release "7.0.2" [.setVersion 9]]

/-- The versions count the one change. -/
theorem chain_numbers_releases :
    Unanchored releases ∧
    (documents (chain none releases)).map (·.version) = [1, 2, 2] ∧
    (∀ d ∈ (documents (chain none releases)).getLast?, d.version.toInt = 1 + 1) ∧
    (chain none releases)[1]? =
      some (.error (.inconsistent (.caFilePath "db-0" .disabled "/ca.crt"))) ∧
    chain none (releases.eraseIdx 1) = (chain none releases).eraseIdx 1 := by
  have unanchored : Unanchored releases := by simp [Unanchored, releases, release]
  obtain ⟨-, -, counts, -, fails, -⟩ := chain_numbers unanchored
  have second : (chain none releases)[1]? =
      some (.error (.inconsistent (.caFilePath "db-0" .disabled "/ca.crt"))) := rfl
  have once : Document.changes (documents (chain none releases)) = 1 := rfl
  rw [once] at counts
  exact ⟨unanchored, rfl, counts, second, fails 1 _ second⟩

end Builder

end ReplicaSetOperator
