import InfraReview.Json.Document
import InfraReview.Proofs.Number.Length
import InfraReview.Proofs.Success

/-!
# What the reader of documents keeps

A document that was read from a text is put together from values without brackets, by closing
arrays and by writing members into objects. Whatever holds of those values and is kept by these two
steps holds of the document. What the reader has in its hands on the way, the containers that are
still open and what it has just read, is made of the same parts.
-/

namespace InfraReview.Json

/-- What holds of a document because of how the reader makes it. -/
structure KeptByReader (Holds : Json → Prop) : Prop where
  null : Holds .null
  bool (value : Bool) : Holds (.bool value)
  int {value : Int} (short : isLong value = false) : Holds (.int value)
  double (value : Double) : Holds (.double value)
  string (content : String) : Holds (.string content)
  array {items : List Json} (inner : ∀ item ∈ items, Holds item) : Holds (.array items)
  noMembers : Holds (.object [])
  setMember {members : List (String × Json)} (before : Holds (.object members)) (name : String)
    {value : Json} (written : Holds value) : Holds (.object (setMember members name value))

variable {Holds : Json → Prop}

/-- A token whose value, if it has one, is as it should be. -/
def Token.Gives (Holds : Json → Prop) : Token → Prop
  | .scalar value => Holds value
  | _ => True

/-- A container that is still open, all of which is as it should be. -/
def Open.Carries (Holds : Json → Prop) : Open → Prop
  | .array items => ∀ item ∈ items, Holds item
  | .object members _ => Holds (.object members)

/-- What the reader has just read is as it should be. -/
def Expected.Carries (Holds : Json → Prop) : Expected → Prop
  | .value _ => True
  | .name members _ => Holds (.object members)
  | .colon members _ => Holds (.object members)
  | .afterValue found => Holds found

namespace KeptByReader

/-! ### Tokens -/

/-- An integer that is not too long is as it should be. -/
theorem integerToken (kept : KeptByReader Holds) (isNegative : Bool) (digits : List Char) :
    (integerToken isNegative digits).Gives Holds := by
  unfold Json.integerToken
  split_ifs with tooLong
  · trivial
  all_goals have short := isLong_digitsValue (Nat.le_of_not_lt tooLong)
  · exact kept.int ((isLong_neg _).trans short)
  · exact kept.int short

/-- A number is as it should be. -/
theorem readNumber (kept : KeptByReader Holds) {text after : List Char} {token : Token}
    {length : Nat} (read : readNumber? text = some (token, length, after)) :
    token.Gives Holds := by
  unfold readNumber? at read
  dsimp only at read
  split_ifs at read
  all_goals obtain ⟨rfl, _⟩ := Prod.mk.inj (Option.some.inj read)
  · exact kept.integerToken _ _
  · exact kept.double _

/-- A value without brackets is as it should be. -/
theorem readScalar (kept : KeptByReader Holds) {text after : List Char} {token : Token}
    {length : Nat} (read : readScalar? text = some (token, length, after)) :
    token.Gives Holds := by
  unfold readScalar? at read
  split at read
  · rename_i word value found
    obtain ⟨rfl, _⟩ := Prod.mk.inj (Option.some.inj read)
    have listed := List.mem_of_find?_eq_some found
    simp only [valueWords, List.mem_cons, Prod.mk.injEq, List.not_mem_nil, or_false] at listed
    rcases listed with ⟨_, rfl⟩ | ⟨_, rfl⟩ | ⟨_, rfl⟩ | ⟨_, rfl⟩ | ⟨_, rfl⟩ | ⟨_, rfl⟩
    · exact kept.null
    · exact kept.bool true
    · exact kept.bool false
    all_goals exact kept.double _
  · exact kept.readNumber read

/-- The values of the tokens of a text are as they should be. -/
theorem tokensFrom (kept : KeptByReader Holds) (fuel offset : Nat) (text : List Char) :
    ∀ placed ∈ tokensFrom fuel offset text, placed.token.Gives Holds := by
  fun_induction Json.tokensFrom fuel offset text with
  | case1 => simp
  | case2 | case10 => simp [Token.Gives]
  | case3 _ _ _ _ _ later => exact later
  -- a bracket, a comma or a colon
  | case4 _ _ _ _ _ later | case5 _ _ _ _ _ later | case6 _ _ _ _ _ later
  | case7 _ _ _ _ _ later | case8 _ _ _ _ _ later | case9 _ _ _ _ _ later =>
    exact List.forall_mem_cons.mpr ⟨trivial, later⟩
  | case11 _ _ _ _ _ _ _ _ _ later => exact List.forall_mem_cons.mpr ⟨trivial, later⟩
  | case12 _ _ _ _ _ _ _ _ read _ _ _ _ _ _ _ _ later =>
    rw [read]
    exact List.forall_mem_cons.mpr ⟨kept.readScalar read, later⟩
  | case13 _ _ _ _ _ read =>
    rw [read]
    simp [Token.Gives]

/-! ### The reader -/

/-- From parts that are as they should be, the reader makes a document that is. Proof: by induction
along the tokens; a container is closed with what it holds, and a member is written into its
object. -/
theorem readTokens (kept : KeptByReader Holds) {expected : Expected} {stack : List Open}
    {tokens : List Placed} {document : Json} (current : expected.Carries Holds)
    (held : ∀ container ∈ stack, container.Carries Holds)
    (given : ∀ placed ∈ tokens, placed.token.Gives Holds)
    (done : readTokens expected stack tokens = .ok document) : Holds document := by
  fun_induction Json.readTokens expected stack tokens with
  -- a fault gives no document
  | case1 | case3 | case7 | case9 | case10 | case12 | case14 | case15 | case17 | case19 | case22
  | case25 => cases done
  -- a value without brackets, or a string
  | case2 _ _ _ _ _ inductionHypothesis =>
    obtain ⟨scalar, later⟩ := List.forall_mem_cons.mp given
    exact inductionHypothesis scalar held later done
  | case4 _ _ _ _ content inductionHypothesis =>
    exact inductionHypothesis (kept.string content) held (List.forall_mem_cons.mp given).2 done
  -- a container is opened
  | case5 _ _ _ _ inductionHypothesis =>
    have opened : (Open.array []).Carries Holds := List.forall_mem_nil _
    exact inductionHypothesis trivial (List.forall_mem_cons.mpr ⟨opened, held⟩)
      (List.forall_mem_cons.mp given).2 done
  | case6 _ _ _ _ inductionHypothesis =>
    exact inductionHypothesis kept.noMembers held (List.forall_mem_cons.mp given).2 done
  -- an array is closed right after it was opened
  | case8 _ _ _ _ inductionHypothesis =>
    obtain ⟨items, outer⟩ := List.forall_mem_cons.mp held
    have closed := kept.array fun item member => items item (List.mem_reverse.mp member)
    exact inductionHypothesis closed outer (List.forall_mem_cons.mp given).2 done
  -- a name, and the end of an object right after it was opened
  | case11 _ _ _ _ _ _ inductionHypothesis | case13 _ _ _ _ inductionHypothesis =>
    exact inductionHypothesis current held (List.forall_mem_cons.mp given).2 done
  | case16 _ _ _ _ _ inductionHypothesis =>
    exact inductionHypothesis trivial (List.forall_mem_cons.mpr ⟨current, held⟩)
      (List.forall_mem_cons.mp given).2 done
  -- the end of the text
  | case18 =>
    cases done
    exact current
  -- an item is done
  | case20 _ _ _ _ _ inductionHypothesis =>
    obtain ⟨items, outer⟩ := List.forall_mem_cons.mp held
    exact inductionHypothesis trivial
      (List.forall_mem_cons.mpr ⟨List.forall_mem_cons.mpr ⟨current, items⟩, outer⟩)
      (List.forall_mem_cons.mp given).2 done
  | case21 value items _ _ _ inductionHypothesis =>
    obtain ⟨before, outer⟩ := List.forall_mem_cons.mp held
    have all : ∀ item ∈ value :: items, Holds item := List.forall_mem_cons.mpr ⟨current, before⟩
    have closed := kept.array fun item member => all item (List.mem_reverse.mp member)
    exact inductionHypothesis closed outer (List.forall_mem_cons.mp given).2 done
  -- a member is done
  | case23 _ _ name _ _ _ inductionHypothesis | case24 _ _ name _ _ _ inductionHypothesis =>
    obtain ⟨members, outer⟩ := List.forall_mem_cons.mp held
    exact inductionHypothesis (kept.setMember members name current) outer
      (List.forall_mem_cons.mp given).2 done

/-- A document in a text that was decoded is as it should be. -/
theorem readDecoded (kept : KeptByReader Holds) {text : List Char} {document : Json}
    (read : readDecoded text = .ok document) : Holds document := by
  have start : (Expected.value false).Carries Holds := trivial
  exact kept.readTokens start (List.forall_mem_nil _) (kept.tokensFrom _ 0 text) read

/-- A document in a text is as it should be. -/
theorem read (kept : KeptByReader Holds) {text : List Char} {document : Json}
    (read : Json.read text = .ok document) : Holds document := by
  unfold Json.read at read
  split at read
  · cases read
  · exact kept.readDecoded read

/-- A document that is read from a text is as it should be. -/
theorem readText (kept : KeptByReader Holds) {text : List Char} {document : Json}
    (read : readText text = .ok document) : Holds document :=
  kept.read (ok_of_mapError read)

/-- A document that is read from bytes is as it should be. -/
theorem readBytes (kept : KeptByReader Holds) {bytes : List UInt8} {document : Json}
    (read : readBytes bytes = .ok document) : Holds document := by
  unfold Json.readBytes at read
  split at read
  · cases read
  · exact kept.readDecoded (ok_of_mapError read)

end KeptByReader

end InfraReview.Json
