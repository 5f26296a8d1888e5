import ReplicaSetOperator.Tls.FileName
import ReplicaSetOperator.Tls.Paths

/-!
# Names of certificate files

The name of a certificate file is the digest of two digests in hexadecimal digits. Everything but
the digests can be read back (`Bytes.ofHex?_hex`), and a digest tells what it is of unless there is
a collision (`Sha256.digest_eq_iff`). So two pairs of a certificate and a key that have one name are
equal, or they show two different messages with one digest: the certificates, the keys, or what is
put together of their digests. Nothing is assumed of the digest, and no collision is said to be out
of reach; which messages collide is part of the statement, as there are always some that do.

The main statement is `Tls.fileName_binds`. It also says which names there are, and that each of
them can be an entry of a secret and the last component of a path.
-/

namespace ReplicaSetOperator

/-! ### Hexadecimal digits -/

namespace Bytes

/-- The hexadecimal digits in lower case. -/
def hexDigits : List Char := "0123456789abcdef".toList

/-- Every digit below sixteen is one of them. -/
theorem hexDigit_mem_hexDigits : ∀ n < 16, hexDigit n ∈ hexDigits := by decide

theorem hexValue?_hexDigit : ∀ n < 16, hexValue? (hexDigit n) = some n := by decide

/-- The digits of an octet are those of two numbers below 16. -/
theorem hex_cons (x : UInt8) (b : Bytes) :
    hex (x :: b) = hexDigit (x.toNat / 16) :: hexDigit (x.toNat % 16) :: hex b := rfl

/-- Every octet is written as two digits. -/
theorem length_hex (b : Bytes) : b.hex.length = 2 * b.length := by
  induction b with
  | nil => rfl
  | cons x b ih =>
    rw [hex_cons, List.length_cons, List.length_cons, List.length_cons, ih]
    omega

/-- Nothing but such digits is written. -/
theorem mem_hexDigits_of_mem_hex {c : Char} {b : Bytes} (h : c ∈ b.hex) : c ∈ hexDigits := by
  obtain ⟨x, -, mem⟩ := List.mem_flatMap.1 h
  have bound := x.toNat_lt
  simp only [List.mem_cons, List.not_mem_nil, or_false] at mem
  rcases mem with rfl | rfl
  · exact hexDigit_mem_hexDigits _ (by omega)
  · exact hexDigit_mem_hexDigits _ (by omega)

/-- What has been written in digits can be read back. -/
theorem ofHex?_hex (b : Bytes) : ofHex? b.hex = some b := by
  induction b with
  | nil => rfl
  | cons x b ih =>
    have bound := x.toNat_lt
    have whole : UInt8.ofNat (x.toNat / 16 * 16 + x.toNat % 16) = x := by
      rw [Nat.div_add_mod', UInt8.ofNat_toNat]
    rw [hex_cons, ofHex?, hexValue?_hexDigit _ (by omega), hexValue?_hexDigit _ (by omega), ih]
    exact congrArg (fun x => some (x :: b)) whole

/-- Different octets are written differently. -/
theorem hex_inj {b b' : Bytes} : b.hex = b'.hex ↔ b = b' := by
  constructor
  · intro same
    have read := ofHex?_hex b
    rw [same, ofHex?_hex] at read
    exact (Option.some.inj read).symm
  · exact congrArg hex

end Bytes

/-! ### Collisions -/

namespace Sha256

/-- Two messages collide if they are different and have one digest. -/
def Collide (message message' : Bytes) : Prop :=
  message ≠ message' ∧ digest message = digest message'

/-- A digest tells its message unless there is a collision. -/
theorem digest_eq_iff (message message' : Bytes) :
    digest message = digest message' ↔ message = message' ∨ Collide message message' := by
  constructor
  · intro same
    by_cases equal : message = message'
    · exact .inl equal
    · exact .inr ⟨equal, same⟩
  · rintro (rfl | ⟨-, same⟩)
    · rfl
    · exact same

end Sha256

/-- What may be the name of an entry of a secret: up to 253 letters, digits, dashes, underscores and
dots, but not one dot alone, and not two of them in front. -/
structure Secret.IsEntryName (name : String) : Prop where
  nonempty : name ≠ ""
  short : name.length ≤ 253
  plain : ∀ c ∈ name.toList, c.isAlphanum = true ∨ c ∈ ['-', '_', '.']
  notDot : name ≠ "."
  noDots : ¬ "..".toList <+: name.toList

namespace Tls

open Sha256 (Collide digest)

/-! ### Paths -/

/-- What can be one component of a path: a name without slashes that does not stand for a
directory. -/
structure IsComponent (name : String) : Prop where
  nonempty : name ≠ ""
  whole : '/' ∉ name.toList
  printable : Char.ofNat 0 ∉ name.toList
  notHere : name ≠ "."
  notAbove : name ≠ ".."

/-- The part of a path after its last slash. -/
def fileOf (path : String) : String :=
  String.ofList (path.toList.reverse.takeWhile (· ≠ '/')).reverse

/-- The file of a path that was made from its name. -/
theorem fileOf_pemKeyFilePath {file : String} (plain : '/' ∉ file.toList) :
    fileOf (pemKeyFilePath file) = file := by
  have directory : secretMountPath.toList = "/mongodb-automation/tls".toList ++ ['/'] := by decide
  have inside : ∀ c ∈ file.toList.reverse, decide (c ≠ '/') = true := by
    intro c mem
    exact decide_eq_true fun same => plain (same ▸ List.mem_reverse.1 mem)
  rw [fileOf, pemKeyFilePath, String.toList_append, directory, List.reverse_append,
    List.reverse_append, List.reverse_singleton, List.singleton_append,
    List.takeWhile_append_of_pos inside, List.takeWhile_cons_of_neg (by simp), List.append_nil,
    List.reverse_reverse, String.ofList_toList]

/-! ### Names -/

variable (certificate key certificate' key' : Bytes)

/-- What the name of a file is the digest of: the digests of the certificate and of the key, one
after the other. -/
def digests : Bytes := digest certificate ++ digest key

/-- There are two digests of 32 octets. -/
theorem length_digests : (digests certificate key).length = 64 := by
  rw [digests, List.length_append, Sha256.length_digest, Sha256.length_digest]

/-- Both digests have one length, so it is known where the second one begins. -/
theorem digests_eq_iff : digests certificate key = digests certificate' key' ↔
    digest certificate = digest certificate' ∧ digest key = digest key' := by
  constructor
  · intro same
    refine List.append_inj same ?_
    rw [Sha256.length_digest, Sha256.length_digest]
  · rintro ⟨certificates, keys⟩
    rw [digests, digests, certificates, keys]

/-- The characters of a file name: the digits of a digest and the suffix. -/
theorem toList_fileName : (fileName certificate key).toList =
    (digest (digests certificate key)).hex ++ ".pem".toList := by
  rw [fileName, String.toList_append, String.toList_ofList]
  rfl

/-- The digits of a name, and with them the digest, are what is before its extension. -/
theorem fileName_eq_iff_digest : fileName certificate key = fileName certificate' key' ↔
    digest (digests certificate key) = digest (digests certificate' key') := by
  rw [← String.toList_inj, toList_fileName, toList_fileName, List.append_left_inj, Bytes.hex_inj]

/-- Names are equal for equal pairs, and for pairs that show a collision. -/
theorem fileName_eq_iff : fileName certificate key = fileName certificate' key' ↔
    (certificate = certificate' ∨ Collide certificate certificate') ∧
        (key = key' ∨ Collide key key') ∨
      Collide (digests certificate key) (digests certificate' key') := by
  rw [fileName_eq_iff_digest, Sha256.digest_eq_iff, digests_eq_iff, Sha256.digest_eq_iff,
    Sha256.digest_eq_iff]

/-- There is nothing in the name of a certificate file but digits and its extension. -/
theorem mem_fileName {c : Char} (h : c ∈ (fileName certificate key).toList) :
    c ∈ Bytes.hexDigits ++ ".pem".toList := by
  rw [toList_fileName] at h
  rcases List.mem_append.1 h with digit | extension
  · exact List.mem_append_left _ (Bytes.mem_hexDigits_of_mem_hex digit)
  · exact List.mem_append_right _ extension

/-- There are 64 digits and the four characters of the suffix. -/
theorem length_fileName : (fileName certificate key).length = 68 := by
  rw [← String.length_toList, toList_fileName, List.length_append, Bytes.length_hex,
    Sha256.length_digest]
  rfl

variable {certificate key certificate' key'}

/-- A character that is neither a digit nor in the suffix is not in the name. -/
theorem notMem_fileName {c : Char} (strange : c ∉ Bytes.hexDigits ++ ".pem".toList) :
    c ∉ (fileName certificate key).toList :=
  fun mem => strange (mem_fileName certificate key mem)

variable (certificate key certificate' key')

theorem slash_notMem_fileName : '/' ∉ (fileName certificate key).toList :=
  notMem_fileName (by decide)

/-- A shorter name is another one. -/
theorem fileName_ne_of_length {name : String} (short : name.length < 68) :
    fileName certificate key ≠ name := by
  rintro rfl
  rw [length_fileName] at short
  exact Nat.lt_irrefl _ short

/-- A name begins with a digit. -/
theorem dots_not_isPrefix_fileName : ¬ "..".toList <+: (fileName certificate key).toList := by
  rintro ⟨rest, same⟩
  rw [toList_fileName] at same
  have length := Bytes.length_hex (digest (digests certificate key))
  rw [Sha256.length_digest] at length
  -- there are 64 digits, and so there is a first one
  cases digits : (digest (digests certificate key)).hex with
  | nil =>
    rw [digits] at length
    cases length
  | cons c cs =>
    have first : c ∈ Bytes.hexDigits := by
      refine Bytes.mem_hexDigits_of_mem_hex (b := digest (digests certificate key)) ?_
      rw [digits]
      exact List.mem_cons_self
    rw [digits] at same
    obtain rfl : '.' = c := (List.cons.inj same).1
    exact absurd first (by decide)

/-- The name of the file can name an entry of a secret. -/
theorem isEntryName_fileName : Secret.IsEntryName (fileName certificate key) where
  nonempty := fileName_ne_of_length certificate key (by decide)
  short := by
    rw [length_fileName]
    decide
  plain c mem := by
    have plain : (Bytes.hexDigits ++ ".pem".toList).all
        (fun c => c.isAlphanum || ['-', '_', '.'].contains c) = true := by decide
    have inside := List.all_eq_true.1 plain c (mem_fileName certificate key mem)
    rw [Bool.or_eq_true, List.contains_iff_mem] at inside
    exact inside
  notDot := fileName_ne_of_length certificate key (by decide)
  noDots := dots_not_isPrefix_fileName certificate key

/-- And it is one component of a path. -/
theorem isComponent_fileName : IsComponent (fileName certificate key) where
  nonempty := fileName_ne_of_length certificate key (by decide)
  whole := slash_notMem_fileName certificate key
  printable := notMem_fileName (by decide)
  notHere := fileName_ne_of_length certificate key (by decide)
  notAbove := fileName_ne_of_length certificate key (by decide)

/-- Two pairs of a certificate and a key have one name exactly if they are equal part by part or
collide there, or if what is put together of their digests collides, which are 64 octets for each
pair. If bytes have moved from the certificate to the key, both parts have to collide, or what is
put together. A name is 64 hexadecimal digits in lower case and an extension; it can be an entry of
a secret, and it is all that a path with it names behind the directory. -/
theorem fileName_binds :
    (fileName certificate key = fileName certificate' key' ↔
      (certificate = certificate' ∨ Collide certificate certificate') ∧
          (key = key' ∨ Collide key key') ∨
        Collide (digests certificate key) (digests certificate' key')) ∧
    (digests certificate key).length = 64 ∧
    (certificate ++ key = certificate' ++ key' → certificate ≠ certificate' →
      fileName certificate key = fileName certificate' key' →
        Collide certificate certificate' ∧ Collide key key' ∨
        Collide (digests certificate key) (digests certificate' key')) ∧
    (∃ digits : List Char, (fileName certificate key).toList = digits ++ ".pem".toList ∧
      digits.length = 64 ∧ ∀ c ∈ digits, c ∈ "0123456789abcdef".toList) ∧
    Secret.IsEntryName (fileName certificate key) ∧ IsComponent (fileName certificate key) ∧
    fileOf (pemKeyFilePath (fileName certificate key)) = fileName certificate key := by
  refine ⟨fileName_eq_iff certificate key certificate' key', length_digests certificate key, ?_,
    ⟨_, toList_fileName certificate key, ?_, fun c => Bytes.mem_hexDigits_of_mem_hex⟩,
    isEntryName_fileName certificate key, isComponent_fileName certificate key,
    fileOf_pemKeyFilePath (slash_notMem_fileName certificate key)⟩
  · intro whole moved same
    -- what the certificate has lost the key has gained, so that neither part is the same
    have keys : key ≠ key' := by
      rintro rfl
      exact moved (List.append_cancel_right whole)
    rcases (fileName_eq_iff certificate key certificate' key').1 same with parts | together
    · exact .inl ⟨parts.1.resolve_left moved, parts.2.resolve_left keys⟩
    · exact .inr together
  · rw [Bytes.length_hex, Sha256.length_digest]

/-- An octet that moves from the certificate to the key changes the name. -/
theorem fileName_binds_moved :
    ([1, 2] ++ [3] : Bytes) = [1] ++ [2, 3] ∧ ([1, 2] : Bytes) ≠ [1] ∧
    fileName [1, 2] [3] ≠ fileName [1] [2, 3] := by
  obtain ⟨-, -, moved, -⟩ := fileName_binds [1, 2] [3] [1] [2, 3]
  have whole : ([1, 2] ++ [3] : Bytes) = [1] ++ [2, 3] := rfl
  have changed : ([1, 2] : Bytes) ≠ [1] := by decide
  -- neither are the certificates a collision, nor what is put together of the digests
  have certificates : ¬ Collide [1, 2] [1] := fun collide =>
    absurd collide.2 (by decide +kernel)
  have together : ¬ Collide (digests [1, 2] [3]) (digests [1] [2, 3]) := fun collide =>
    absurd collide.2 (by decide +kernel)
  refine ⟨whole, changed, fun same => ?_⟩
  rcases moved whole changed same with ⟨collide, -⟩ | collide
  · exact certificates collide
  · exact together collide

end Tls

end ReplicaSetOperator
