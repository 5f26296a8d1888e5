import ReplicaSetOperator.Proofs.Json.ReadPrint

/-!
# The first member of an object

Once the reader has the first member of the outermost object, nothing that follows changes it,
whether the rest of the text is readable or not (`Reader.Opens.step`, `Reader.Opens.run`). So the
first member of an object that is printed is there when its text is read, even if the text of a
later member is none (`Json.read_print_first`).
-/

namespace ReplicaSetOperator

namespace Reader

variable {m : String × Json}

/-- The outermost of some frames is an object with a given first member. -/
def Rooted (m : String × Json) : List Frame → Prop
  | [] => False
  | [.member ms _] => ms.getLast? = some m
  | [.array _] => False
  | _ :: frame :: rest => Rooted m (frame :: rest)

/-- The object that is read outermost has a given first member. -/
def Opens (m : String × Json) : State → Prop
  | .value frames _ | .number frames _ _ | .word frames _ _ | .text frames none _ _
  | .afterItem _ frames => Rooted m frames
  | .text frames (some ms) _ _ | .key ms frames _ | .colon ms _ frames | .afterMember ms frames =>
    Rooted m (.member ms "" :: frames)
  | .ended j _ | .stopped j => ∃ rest, j = .object (m :: rest)

/-! ### Frames -/

/-- Inside other frames only those count. -/
theorem rooted_cons_cons {frame inner : Frame} {rest : List Frame} :
    Rooted m (frame :: inner :: rest) ↔ Rooted m (inner :: rest) := by
  cases frame <;> rfl

/-- What stands inside a rooted frame does not count. -/
theorem Rooted.cons {frames : List Frame} (h : Rooted m frames) (frame : Frame) :
    Rooted m (frame :: frames) := by
  cases frames with
  | nil => exact h.elim
  | cons inner rest => exact rooted_cons_cons.2 h

/-- More members of the outermost object, or another name for the next, leave the first one. -/
theorem Rooted.member {ms : Json.Members} {key : String} {frames : List Frame}
    (h : Rooted m (.member ms key :: frames)) (more : Json.Members) (name : String) :
    Rooted m (.member (more ++ ms) name :: frames) := by
  -- if this object is the outermost one, its first member is at the end of what has been read
  cases frames with
  | nil =>
    have last : ms.getLast? = some m := h
    show (more ++ ms).getLast? = some m
    rw [List.getLast?_append, last]
    rfl
  | cons inner rest => exact h

/-- The members that have been read stand in reverse order. -/
theorem reverse_of_getLast? {ms : Json.Members} (h : ms.getLast? = some m) :
    ∃ rest, ms.reverse = m :: rest := by
  obtain ⟨before, rfl⟩ := List.getLast?_eq_some_iff.1 h
  exact ⟨before.reverse, by simp⟩

/-- What is read as far as a rooted place is an object with the first member. -/
theorem Rooted.wrap {frames : List Frame} (h : Rooted m frames) (j : Json) :
    ∃ rest, wrap frames j = .object (m :: rest) := by
  induction frames generalizing j with
  | nil => exact h.elim
  | cons frame frames ih =>
    -- the innermost value goes into the frame around it, until the outermost one is left
    cases frames with
    | nil =>
      cases frame with
      | array items => exact h.elim
      | member ms key =>
        obtain ⟨rest, same⟩ := reverse_of_getLast? (h.member [(key, j)] key : _)
        exact ⟨rest, congrArg Json.object same⟩
    | cons inner rest =>
      cases frame with
      | array items => exact ih (rooted_cons_cons.1 h) _
      | member ms key => exact ih (rooted_cons_cons.1 h) _

/-- A value that is complete inside rooted frames leaves the first member. -/
theorem Rooted.close {frames : List Frame} (h : Rooted m frames) (j : Json) :
    Opens m (close j frames) := by
  cases frames with
  | nil => exact h.elim
  | cons frame rest =>
    cases frame with
    | array items =>
      cases rest with
      | nil => exact h.elim
      | cons inner rest => exact (rooted_cons_cons.1 h)
    | member ms key => exact h.member [(key, j)] ""

/-- An array that is complete inside its frames leaves the first member. -/
theorem Rooted.closeArray {items : List Json} {frames : List Frame}
    (h : Rooted m (.array items :: frames)) (j : Json) : Opens m (Reader.close j frames) := by
  cases frames with
  | nil => exact h.elim
  | cons inner rest => exact (rooted_cons_cons.1 h).close j

/-- An object that is complete inside its frames leaves the first member. -/
theorem Rooted.closeObject {ms : Json.Members} {key : String} {frames : List Frame}
    (h : Rooted m (.member ms key :: frames)) :
    Opens m (Reader.close (.object ms.reverse) frames) := by
  cases frames with
  | nil =>
    obtain ⟨rest, same⟩ := reverse_of_getLast? (h : ms.getLast? = some m)
    exact ⟨rest, congrArg Json.object same⟩
  | cons inner rest => exact (rooted_cons_cons.1 h).close _

/-- A text that goes wrong inside rooted frames leaves the first member in what has been read. -/
theorem Rooted.stop {frames : List Frame} (h : Rooted m frames) (place : Place) :
    Opens m (stop frames place) := h.wrap _

/-! ### Steps -/

/-- Where a value is due, no character changes the first member. -/
theorem opens_stepValue {frames : List Frame} (h : Rooted m frames) (opened : Bool) (c : Char) :
    Opens m (stepValue frames opened c) := by
  -- a list opens a frame and an empty one closes it; all else keeps the frames, or stops
  unfold stepValue
  split
  · exact h
  split
  · exact h
  split
  · exact h.cons _
  split
  · cases frames with
    | nil => exact h.elim
    | cons frame rest => exact h
  split
  · exact h
  split
  · exact h
  split
  · exact h
  split
  · exact h
  split
  · exact h
  split
  · exact h.closeArray _
  · exact h.stop _

theorem opens_stepAfter {s : State} (h : Opens m s) (c : Char) : Opens m (stepAfter s c) := by
  unfold stepAfter
  split
  · next items frames =>
    have rooted : Rooted m frames := h
    split
    · exact h
    split
    · exact rooted.cons _
    split
    · exact rooted.close _
    · exact (rooted.cons _).stop _
  · next ms frames =>
    -- another member is opened, or the object ends with the ones that it has
    have rooted : Rooted m (.member ms "" :: frames) := h
    split
    · exact h
    split
    · exact rooted
    split
    · exact rooted.closeObject
    · exact rooted.stop _
  · exact h
  · exact h

/-- Inside a string: rooted frames, with the object whose name is read as the innermost. -/
def textFrames (frames : List Frame) : Option Json.Members → List Frame
  | none => frames
  | some ms => .member ms "" :: frames

/-- Inside a string the frames are what they were. -/
theorem opens_text {frames : List Frame} {name : Option Json.Members}
    (h : Rooted m (textFrames frames name)) (b : Buffer) (escape : Escape) :
    Opens m (.text frames name b escape) := by
  cases name with
  | none => exact h
  | some ms => exact h

/-- A string that is cut off leaves the first member as well. -/
theorem opens_cutText {frames : List Frame} {name : Option Json.Members}
    (h : Rooted m (textFrames frames name)) (e : DecodeError) :
    ∃ rest, cutText frames name e = .object (m :: rest) := by
  cases name with
  | none => exact h.wrap _
  | some ms => exact h.wrap _

/-- So does one that has come to its end, as a value or as a name. -/
theorem opens_closeText {frames : List Frame} {name : Option Json.Members}
    (h : Rooted m (textFrames frames name)) (b : Buffer) :
    Opens m (closeText frames name b) := by
  unfold closeText
  split
  · exact Rooted.close h _
  · exact Rooted.close h _
  · exact h
  · exact Rooted.member h [("", .broken .oddName)] ""

/-- No character inside a string changes the first member. -/
theorem opens_stepText {frames : List Frame} {name : Option Json.Members}
    (h : Rooted m (textFrames frames name)) (b : Buffer) (escape : Escape) (c : Char) :
    Opens m (stepText frames name b escape c) := by
  unfold stepText
  -- a character stands for itself, begins an escape, or continues one
  split
  · split
    · exact opens_closeText h b
    split
    · exact opens_text h _ _
    split
    · exact opens_cutText h _
    · exact opens_text h _ _
  · split
    · exact opens_text h _ _
    split
    · exact opens_text h _ _
    · exact opens_cutText h _
  · split
    · exact opens_text h _ _
    split
    · exact opens_text h _ _
    · exact opens_cutText h _

/-- No character changes the first member. -/
theorem Opens.step {s : State} (h : Opens m s) (c : Char) : Opens m (step s c) := by
  -- one case for each state: whatever is open in it, the first member is below
  cases s with
  | value frames opened => exact opens_stepValue h opened c
  | text frames name b escape =>
    have rooted : Rooted m (textFrames frames name) := by
      cases name with
      | none => exact h
      | some ms => exact h
    exact opens_stepText rooted b escape c
  | number frames phase l =>
    have rooted : Rooted m frames := h
    -- a digit goes on, and anything else ends the number or the text
    rw [Reader.step]
    split
    · exact rooted
    split
    · exact opens_stepAfter (rooted.close _) c
    · exact rooted.stop _
  | word frames due result =>
    have rooted : Rooted m frames := h
    -- a letter that is not due stops the reading, and the last one completes the word
    rcases due with _ | ⟨d, _ | ⟨d', due⟩⟩
    · exact opens_stepAfter (rooted.close _) c
    · change Opens m (if c = d then close result frames else stop frames .word)
      split
      · exact rooted.close _
      · exact rooted.stop _
    · change Opens m (if c = d then .word frames (d' :: due) result else stop frames .word)
      split
      · exact rooted
      · exact rooted.stop _
  | key ms frames opened =>
    have rooted : Rooted m (.member ms "" :: frames) := h
    rw [Reader.step]
    split
    · exact rooted
    split
    · exact rooted
    split
    · exact rooted.closeObject
    · exact rooted.stop _
  | colon ms name frames =>
    have rooted : Rooted m (.member ms "" :: frames) := h
    rw [Reader.step]
    split
    · exact rooted
    split
    · exact rooted.member [] name
    · exact (rooted.member [] name).stop _
  | afterItem items frames => exact opens_stepAfter h c
  | afterMember ms frames => exact opens_stepAfter h c
  | ended j trailing => exact opens_stepAfter h c
  | stopped j => exact h

/-- No text changes the first member. -/
theorem Opens.run {s : State} (h : Opens m s) (cs : List Char) : Opens m (run s cs) := by
  induction cs generalizing s with
  | nil => exact h
  | cons c cs ih => exact ih (h.step c)

/-- What is read to its end inside rooted frames leaves the first member when the text ends. -/
theorem opens_finishAfter {s : State} (h : Opens m s) (complete : ∃ j frames, s = close j frames) :
    ∃ rest, finishAfter s = .object (m :: rest) := by
  obtain ⟨j, frames, rfl⟩ := complete
  cases frames with
  | nil => exact h
  | cons frame frames =>
    cases frame with
    | array items => exact Rooted.wrap (Rooted.cons h _) _
    | member ms key => exact Rooted.wrap h _

/-- What has been read when the text ends has the first member. -/
theorem Opens.finish {s : State} (h : Opens m s) :
    ∃ rest, (finish s).1 = .object (m :: rest) := by
  -- what is still open is closed, and the first member is below all of it
  cases s with
  | value frames opened => exact Rooted.wrap h _
  | text frames name b escape =>
    change ∃ rest, finishText frames name b = .object (m :: rest)
    unfold finishText
    cases b.odd with
    | false =>
      cases name with
      | none => exact Rooted.wrap h _
      | some ms => exact Rooted.wrap h _
    | true =>
      cases name with
      | none => exact opens_finishAfter (Rooted.close h _) ⟨_, _, rfl⟩
      | some ms => exact Rooted.wrap (Rooted.member h [("", .broken .oddName)] "") _
  | number frames phase l =>
    have rooted : Rooted m frames := h
    rw [Reader.finish]
    dsimp only
    split
    · exact opens_finishAfter (rooted.close _) ⟨_, _, rfl⟩
    · exact rooted.wrap _
  | word frames due result => exact Rooted.wrap h _
  | key ms frames opened => exact Rooted.wrap h _
  | colon ms name frames => exact Rooted.wrap (Rooted.member h [] name) _
  | afterItem items frames => exact Rooted.wrap (Rooted.cons h _) _
  | afterMember ms frames => exact Rooted.wrap h _
  | ended j trailing => exact h
  | stopped j => exact h

end Reader

namespace Json

/-- The first of several members of an object that is printed is there when the text is read, if
its own text can be read. -/
theorem read_print_first (key : String) {j : Json} (legible : j.Legible)
    (room : j.depth + 1 ≤ Reader.maxDepth) (next : String × Json) (rest : Members) :
    ∃ others, (read (print (.object ((key, j) :: next :: rest)))).1 =
      .object ((key, j.reread) :: others) := by
  have brace : Reader.step (.value [] false) '{' = .key [] [] true := rfl
  have name : Reader.run (.key [] [] true) (printString key) = .colon [] key [] :=
    Reader.run_quoted [] (some []) key
  have colon : Reader.step (.colon [] key []) ':' = .value [.member [] key] false := rfl
  have value :=
    Reader.run_print legible [.member [] key] false (by rw [List.length_singleton]; omega)
  have comma : Reader.stepAfter (Reader.close j.reread [.member [] key]) ',' =
      .key [(key, j.reread)] [] false := rfl
  have opens : Reader.Opens (key, j.reread) (.key [(key, j.reread)] [] false) := rfl
  -- from here on the first member is open, whatever the text of the others is
  obtain ⟨others, same⟩ := ((opens.run (printMembers (next :: rest))).step '}').finish
  refine ⟨others, ?_⟩
  rw [← same, read, print, printMembers]
  · change (Reader.finish (Reader.run _ _)).1 = _
    simp only [List.cons_append, List.append_assoc, Reader.run_cons, Reader.run_append, brace, name,
      colon, value.step (c := ',') rfl, comma, Reader.run_nil]
  · exact List.cons_ne_nil _ _

end Json

end ReplicaSetOperator
