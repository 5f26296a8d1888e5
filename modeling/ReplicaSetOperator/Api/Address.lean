import ReplicaSetOperator.Object.Basic

/-!
# Addresses

A request goes to the address of an object, or to that of the collection in which an object is
created. An address is a text in which namespace, collection and name stand one after another as
they are, so that not every name arrives as it was meant: the path ends at the first `?`, and
everything ends at the first `#`; a `/` begins the next step of the path, so that what follows it
in a namespace is taken for the collection, and what follows it in a name for a part of the object.
A text with a character that has no place there is no address, and neither is one that is too long.

`Address.ofText?_eq` says that plain steps arrive one by one.
-/

namespace ReplicaSetOperator

/-- What arrives of an address: the first steps of its path, as far as there are any, and the
parameters. -/
structure Address where
  «namespace» : String
  collection : String
  name : Option String
  part : Option String
  query : Option String
deriving DecidableEq, Inhabited

/-- The kinds of objects, each with the name of its collection. -/
def collections : List (String × String) :=
  [("ConfigMap", "configmaps"), ("Event", "events"), ("MongoDBCluster", "mongodbclusters"),
   ("Secret", "secrets"), ("Service", "services"), ("StatefulSet", "statefulsets")]

namespace ObjectType

/-- The name of the collection of the objects of a type. -/
def collection (t : ObjectType) : String := (collections.lookup t.kind).getD t.kind

/-- What stands before the namespace in the addresses of a type. -/
def root (t : ObjectType) : String :=
  (if t.apiVersion = "v1" then "/api/" else "/apis/") ++ t.apiVersion ++ "/namespaces/"

/-- The text, after the root, of the collection of a type in a namespace. -/
def place (t : ObjectType) («namespace» : String) : String :=
  «namespace» ++ "/" ++ t.collection

end ObjectType

namespace Address

/-- The kind of the objects in a collection; one that is not known is its own kind. -/
def kindIn (collection : String) : String :=
  ((collections.find? fun entry => entry.2 = collection).map (·.1)).getD collection

/-! ### Reading -/

/-- Whether a character may stand in a path: those after the blank may, but for five marks and the
last one of ASCII. -/
def inPath (c : Char) : Bool :=
  '!' ≤ c && c != '\x7f' && !(['#', '<', '>', '?', '\x60'].contains c)

/-- Whether a character may stand among the parameters: those after the blank may, but for four
marks and the last one of ASCII. -/
def inQuery (c : Char) : Bool :=
  '!' ≤ c && c != '\x7f' && !(['"', '#', '<', '>'].contains c)

/-- Whether a text stands in a path as it is and is one step of it. -/
def isPlain (step : String) : Bool := step.toList.all fun c => inPath c && c != '/'

/-- The parameters of an address from a place after the `?`, up to the end or a `#`; none if a
character may not stand there. -/
def readQuery : List Char → Option (List Char)
  | [] => some []
  | c :: rest =>
    if c = '#' then some []
    else if inQuery c then (readQuery rest).map (c :: ·)
    else none

/-- The path of an address from a place in it, and the parameters; none if a character may not
stand where it does. -/
def readPath : List Char → Option (List Char × List Char)
  | [] => some ([], [])
  | c :: rest =>
    if c = '#' then some ([], [])
    else if c = '?' then (readQuery rest).map ([], ·)
    else if inPath c then (readPath rest).map fun p => (c :: p.1, p.2)
    else none

/-- What arrives of parameters, if there are any: they begin after any `&`. -/
def query? (query : List Char) : Option String :=
  if query.isEmpty then none else some (String.ofList (query.dropWhile (· == '&')))

/-- What arrives of a path after the root and of parameters. -/
def ofParts (path query : List Char) : Address :=
  let steps := (path.splitOn '/').map String.ofList
  { «namespace» := steps.headD ""
    collection := steps[1]?.getD ""
    name := steps[2]?
    part := steps[3]?
    query := query? query }

/-- How many octets an address may have. -/
def maxLength : Nat := 65534

/-- Whether there is room for a number of octets after the root. -/
def hasRoom (t : ObjectType) (size : Nat) : Bool := t.root.utf8ByteSize + size ≤ maxLength

/-- What arrives of the address with a text after the root, if that is an address. -/
def ofText? (t : ObjectType) (text : String) : Option Address :=
  if hasRoom t text.utf8ByteSize then (readPath text.toList).map fun p => ofParts p.1 p.2 else none

/-! ### Plain steps -/

/-- A shorter address has room if a longer one has. -/
theorem hasRoom_of_le {t : ObjectType} {m n : Nat} (le : m ≤ n) (room : hasRoom t n) :
    hasRoom t m := by
  simp only [hasRoom, decide_eq_true_eq] at room ⊢
  omega

/-- Reading goes past what stands in a path as it is. -/
theorem readPath_append {l : List Char} (r : List Char) (h : l.all inPath) :
    readPath (l ++ r) = (readPath r).map fun p => (l ++ p.1, p.2) := by
  induction l with
  | nil => simp
  | cons c l ih =>
    obtain ⟨hc, hl⟩ : inPath c = true ∧ l.all inPath = true := by simpa using h
    have hash : c ≠ '#' := by rintro rfl; simp [inPath] at hc
    have mark : c ≠ '?' := by rintro rfl; simp [inPath] at hc
    simp [readPath, hash, mark, hc, ih hl, Function.comp_def]

/-- A plain step stands in a path as it is. -/
theorem all_inPath_of_isPlain {step : String} (plain : isPlain step) :
    step.toList.all inPath := by
  simp only [isPlain, List.all_eq_true, Bool.and_eq_true] at plain ⊢
  exact fun c hc => (plain c hc).1

/-- A plain step is not divided. -/
theorem slash_notMem_of_isPlain {step : String} (plain : isPlain step) : '/' ∉ step.toList := by
  simp only [isPlain, List.all_eq_true, Bool.and_eq_true] at plain
  exact fun h => by simpa using (plain _ h).2

/-- The path that steps make. -/
def pathOf (steps : List String) : List Char := ['/'].intercalate (steps.map String.toList)

/-- A path of plain steps stands in a path as it is. -/
theorem all_inPath_pathOf {steps : List String} (plain : ∀ step ∈ steps, isPlain step) :
    (pathOf steps).all inPath := by
  induction steps with
  | nil => rfl
  | cons step steps ih =>
    obtain ⟨first, others⟩ := List.forall_mem_cons.1 plain
    cases steps with
    | nil => simpa [pathOf, List.intercalate] using all_inPath_of_isPlain first
    | cons next steps =>
      have slash : inPath '/' = true := by decide
      have apart : pathOf (step :: next :: steps) =
          step.toList ++ '/' :: pathOf (next :: steps) := by
        simp [pathOf, List.intercalate]
      rw [apart, List.all_append, List.all_cons, slash, ih others, all_inPath_of_isPlain first]
      rfl

/-- Plain steps arrive one by one. -/
theorem ofParts_pathOf {steps : List String} (query : List Char)
    (plain : ∀ step ∈ steps, isPlain step) (filled : steps ≠ []) :
    ofParts (pathOf steps) query =
      ⟨steps.headD "", steps[1]?.getD "", steps[2]?, steps[3]?, query? query⟩ := by
  have whole : ((pathOf steps).splitOn '/').map String.ofList = steps := by
    rw [pathOf, List.splitOn_intercalate]
    · simp [Function.comp_def]
    · simpa using fun step h => slash_notMem_of_isPlain (plain step h)
    · simpa using filled
  simp only [ofParts, whole]

/-- A text that begins with plain steps leads there if what follows them is no path. -/
theorem ofText?_eq {t : ObjectType} {text : String} (steps : List String) {tail query : List Char}
    (room : hasRoom t text.utf8ByteSize) (plain : ∀ step ∈ steps, isPlain step)
    (filled : steps ≠ []) (apart : text.toList = pathOf steps ++ tail)
    (ending : readPath tail = some ([], query)) :
    ofText? t text =
      some ⟨steps.headD "", steps[1]?.getD "", steps[2]?, steps[3]?, query? query⟩ := by
  rw [ofText?, if_pos room, apart, readPath_append _ (all_inPath_pathOf plain), ending]
  simp [ofParts_pathOf query plain filled]

end Address

end ReplicaSetOperator
