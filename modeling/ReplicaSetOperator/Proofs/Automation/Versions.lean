import ReplicaSetOperator.Automation.Builder

/-!
# Versions of documents

A builder gives its document the version of the previous one if nothing else differs, and the next
one otherwise (`Builder.follows_of_build`).
-/

namespace ReplicaSetOperator

namespace Document

/-- The sign of a zero does not make it a number or none. -/
theorem isDefinite_unsigned (d : Document) : d.unsigned.isDefinite = d.isDefinite := by
  have isNumber (x : Binary) : x.unsigned.isNumber = x.isNumber := by
    unfold Binary.unsigned
    split <;> rfl
  simp only [isDefinite, unsigned, List.all_map, Function.comp_def, isNumber]

/-- Whether two documents say the same does not depend on which of them is asked. -/
theorem same_comm (d e : Document) : d.same e = e.same d := by
  rw [same, same]
  by_cases unsigned : d.unsigned = e.unsigned
  -- to be equal to oneself does not depend on the sign of a zero
  · rw [← isDefinite_unsigned d, ← isDefinite_unsigned e, unsigned]
  · rw [decide_eq_false unsigned, decide_eq_false (Ne.symm unsigned), Bool.and_false,
      Bool.and_false]

/-- A document whose priorities are all numbers says the same as itself. -/
theorem same_refl {d : Document} (definite : d.isDefinite = true) : d.same d = true := by
  rw [same, definite, Bool.true_and]
  exact decide_eq_true rfl

/-- Documents that say the same differ in the signs of zeros at most. -/
theorem unsigned_of_same {p d : Document} (h : p.same d = true) : p.unsigned = d.unsigned :=
  of_decide_eq_true (Bool.and_eq_true_iff.1 h).2

/-- Documents that say the same have the same processes. -/
theorem processes_of_same {p d : Document} (h : p.same d = true) : p.processes = d.processes := by
  have same := congrArg Document.processes (unsigned_of_same h)
  exact same

/-- Documents that say the same have the same version. -/
theorem version_of_same {p d : Document} (h : p.same d = true) : p.version = d.version := by
  have same := congrArg Document.version (unsigned_of_same h)
  exact same

/-- A document counts as a change of a previous one, or of none: it has the next version, and it
says something else. -/
def Follows (d : Document) : Option Document → Prop
  | none => d.version = 1
  | some p =>
    d.version.toInt = p.version.toInt + 1 ∧ Document.same { d with version := p.version } p = false

end Document

/-- Below the greatest version, the next one is one more. -/
theorem Int64.toInt_succ {v : Int64} (h : v ≠ Int64.maxValue) :
    (v + 1).toInt = v.toInt + 1 := by
  -- below the greatest version there is no overflow
  have bound : v.toInt ≠ Int64.maxValue.toInt := fun same => h (Int64.toInt_inj.1 same)
  have most : Int64.maxValue.toInt = 0x7fffffffffffffff := by decide
  have least := v.le_toInt
  have greatest := v.toInt_lt
  rw [Int64.toInt_add]
  have one : (1 : Int64).toInt = 1 := by decide
  rw [one]
  apply Int.bmod_eq_of_le
  · omega
  · omega

namespace Builder

variable {b : Builder} {d : Document}

/-- A document that has been built says what the builder says. -/
theorem eq_of_build (h : b.build = .ok d) : d = { b.modified with version := d.version } := by
  unfold build at h
  split at h
  · cases h
  · dsimp only at h
    split at h
    · cases h
    · cases h
      rfl

/-- A document that has been built has the next version. -/
theorem nextVersion_of_build (h : b.build = .ok d) :
    nextVersion b.previous b.modified = .ok d.version := by
  unfold build at h
  split at h
  · cases h
  · next version same =>
    dsimp only at h
    split at h
    · cases h
    · cases h
      exact same

/-- A document that has been built has been found consistent. -/
theorem validate_of_build (h : b.build = .ok d) : d.validate = .ok () := by
  unfold build at h
  split at h
  · cases h
  · dsimp only at h
    split at h
    · cases h
    · next valid =>
      cases h
      exact valid

/-- A document that has been built is the previous one, or a change of it. -/
theorem follows_of_build (h : b.build = .ok d) :
    (∃ p, b.previous = some p ∧ p.same d = true) ∨ d.Follows b.previous := by
  have version := nextVersion_of_build h
  have content := eq_of_build h
  -- the version tells which of the two it is
  unfold nextVersion at version
  split at version
  · next none =>
    rw [none]
    exact .inr (Except.ok.inj version).symm
  · next p previous =>
    split at version
    · next unchanged =>
      refine .inl ⟨p, previous, ?_⟩
      rw [Document.same_comm, content, ← Except.ok.inj version]
      exact unchanged
    · next changed =>
      split at version
      · cases version
      · next small =>
        rw [previous]
        refine .inr ⟨?_, ?_⟩
        · rw [← Except.ok.inj version, Int64.toInt_succ small]
        · rw [content]
          simpa using changed

end Builder

end ReplicaSetOperator
