import InfraReview.Proofs.Json.Names
import InfraReview.Proofs.Json.Spelling

/-!
# Documents that are written are read back

The text that is laid out for a document is read as the document, if the document could have come
from a text at all: its integers can be written, and its objects have each name once.

The reader goes from stage to stage. At each it expects something, has some containers open and has
a text left, and the text of a value takes it from the stage at which the value is expected to the
one behind it. So the documents in a container are gone through one after the other, with the line
breaks between them.
-/

namespace InfraReview.Json

/-- A stage of reading: what is expected next, the containers that are open, the innermost first,
and the text that is left. -/
structure Stage where
  expected : Expected
  stack : List Open
  text : List Char

/-- What comes of reading on from a stage. -/
def Stage.outcome (stage : Stage) (fuel offset : Nat) : Except Fault Json :=
  readTokens stage.expected stage.stack (tokensFrom fuel offset stage.text)

/-- Reading gets from one stage to another, and has steps enough left. -/
def Leads (start finish : Stage) : Prop :=
  ∀ fuel offset, start.text.length < fuel → ∃ left later, finish.text.length < left ∧
    start.outcome fuel offset = finish.outcome left later

/-- Reading goes on from where it got. -/
theorem Leads.trans {start middle finish : Stage} (first : Leads start middle)
    (second : Leads middle finish) : Leads start finish := by
  intro fuel offset enough
  obtain ⟨left, later, some, same⟩ := first fuel offset enough
  obtain ⟨last, latest, more, equal⟩ := second left later some
  exact ⟨last, latest, more, same.trans equal⟩

section

variable {expected next : Expected} {stack behind : List Open} {text rest : List Char}

/-- White space is left out. -/
theorem leads_blanks {blanks : List Char} (skipped : ∀ c ∈ blanks, isSkipped c = true) :
    Leads ⟨expected, stack, blanks ++ rest⟩ ⟨expected, stack, rest⟩ := by
  induction blanks with
  | nil => exact fun fuel offset enough => ⟨fuel, offset, enough, rfl⟩
  | cons c blanks inductionHypothesis =>
    obtain ⟨blank, others⟩ := List.forall_mem_cons.mp skipped
    intro fuel offset enough
    obtain ⟨fuel, rfl⟩ : ∃ less, fuel = less + 1 := ⟨fuel - 1, by omega⟩
    obtain ⟨left, later, some, same⟩ :=
      inductionHypothesis others fuel (offset + 1) (Nat.lt_of_succ_lt_succ enough)
    refine ⟨left, later, some, Eq.trans ?_ same⟩
    simp [Stage.outcome, tokensFrom, blank]

/-- A token is taken. -/
theorem leads_token {token : Token} (cut : CutsTo text token rest)
    (taken : ∀ offset tokens, readTokens expected stack (⟨offset, token⟩ :: tokens) =
      readTokens next behind tokens) :
    Leads ⟨expected, stack, text⟩ ⟨next, behind, rest⟩ := by
  obtain ⟨shorter, cut⟩ := cut
  intro fuel offset enough
  obtain ⟨fuel, rfl⟩ : ∃ less, fuel = less + 1 := ⟨fuel - 1, by omega⟩
  obtain ⟨later, split⟩ := cut fuel offset
  refine ⟨fuel, later, Nat.lt_of_lt_of_le shorter (Nat.le_of_lt_succ enough), ?_⟩
  simp only [Stage.outcome, split, taken]

/-- A bracket, a comma or a colon is taken. -/
theorem leads_mark (c : Char) (token : Token)
    (single : ∀ fuel offset, tokensFrom (fuel + 1) offset (c :: rest) =
      ⟨offset, token⟩ :: tokensFrom fuel (offset + 1) rest)
    (taken : ∀ offset tokens, readTokens expected stack (⟨offset, token⟩ :: tokens) =
      readTokens next behind tokens) :
    Leads ⟨expected, stack, c :: rest⟩ ⟨next, behind, rest⟩ :=
  leads_token ⟨Nat.lt_succ_self _, fun fuel offset => ⟨offset + 1, single fuel offset⟩⟩ taken

/-- A line break is left out. -/
theorem leads_lineBreak (level : Nat) :
    Leads ⟨expected, stack, (lineBreak level).toList ++ rest⟩ ⟨expected, stack, rest⟩ := by
  refine leads_blanks fun c member => ?_
  simp only [lineBreak, String.toList_ofList, List.mem_cons, List.mem_replicate] at member
  rcases member with rfl | ⟨_, rfl⟩ <;> rfl

end

/-- Members with another one behind them, whose name they do not have. -/
theorem setMember_absent {members : List (String × Json)} {name : String}
    (absent : name ∉ members.map Prod.fst) (value : Json) :
    setMember members name value = members ++ [(name, value)] := by
  induction members with
  | nil => rfl
  | cons first members inductionHypothesis =>
    obtain ⟨other, current⟩ := first
    simp only [List.map_cons, List.mem_cons, not_or] at absent
    rw [setMember, if_neg (Ne.symm absent.1), inductionHypothesis absent.2, List.cons_append]

/-- A name that stands between others is not before itself. -/
theorem absent_of_nodup {before members : List (String × Json)} {name : String} {value : Json}
    (names : ((before ++ (name, value) :: members).map Prod.fst).Nodup) :
    name ∉ before.map Prod.fst := by
  rw [List.map_append, List.map_cons, List.nodup_append] at names
  exact fun listed => names.2.2 name listed name List.mem_cons_self rfl

/-- A name is taken with its colon and the blank behind it. -/
theorem leads_name (name : String) (members : List (String × Json)) (mayClose : Bool)
    (stack : List Open) (rest : List Char) :
    Leads ⟨.name members mayClose, stack, (writeString name).toList ++ ':' :: ' ' :: rest⟩
      ⟨.value false, .object members name :: stack, rest⟩ := by
  have blank : ∀ c ∈ [' '], isSkipped c = true := List.forall_mem_singleton.mpr rfl
  refine .trans (leads_token (cutsTo_string name _) fun _ _ => rfl) ?_
  exact .trans (leads_mark ':' .colon (fun _ _ => rfl) fun _ _ => rfl) (leads_blanks blank)

/-- A line break is no part of a number. -/
theorem stops_lineBreak (level : Nat) (rest : List Char) :
    Stops ((lineBreak level).toList ++ rest) := by
  intro c first
  simp [lineBreak] at first
  subst first
  decide

/-- Neither is the comma before further items. -/
theorem stops_items (level : Nat) (items : List Json) {rest : List Char} (stops : Stops rest) :
    Stops ((layOutItems level items).toList ++ rest) := by
  cases items with
  | nil => simpa [layOutItems] using stops
  | cons item items =>
    intro c first
    simp [layOutItems] at first
    subst first
    decide

/-- Nor the one before further members. -/
theorem stops_members (level : Nat) (members : List (String × Json)) {rest : List Char}
    (stops : Stops rest) : Stops ((layOutMembers level members).toList ++ rest) := by
  cases members with
  | nil => simpa [layOutMembers] using stops
  | cons member members =>
    intro c first
    simp [layOutMembers] at first
    subst first
    decide

mutual

/-- The text of a document takes the reader from where it expects a value to behind it. -/
theorem leads_layOut : ∀ (document : Json), Short document → NamesOnce document →
    ∀ (level : Nat) (mayClose : Bool) (stack : List Open) (rest : List Char), Stops rest →
    Leads ⟨.value mayClose, stack, (layOutAt level document).toList ++ rest⟩
      ⟨.afterValue document, stack, rest⟩
  | .null, _, _, _, _, _, rest, _ => by
    have known : ("null".toList, .null) ∈ valueWords := by simp [valueWords]
    exact leads_token (cutsTo_word known rest) fun _ _ => rfl
  | .bool true, _, _, _, _, _, rest, _ => by
    have known : ("true".toList, .bool true) ∈ valueWords := by simp [valueWords]
    exact leads_token (cutsTo_word known rest) fun _ _ => rfl
  | .bool false, _, _, _, _, _, rest, _ => by
    have known : ("false".toList, .bool false) ∈ valueWords := by simp [valueWords]
    exact leads_token (cutsTo_word known rest) fun _ _ => rfl
  | .int value, short, _, _, _, _, _, stops =>
    leads_token (cutsTo_int (short_int_iff.mp short) stops) fun _ _ => rfl
  | .double value, _, _, _, _, _, _, stops => leads_token (cutsTo_double value stops) fun _ _ => rfl
  | .string text, _, _, _, _, _, rest, _ => leads_token (cutsTo_string text rest) fun _ _ => rfl
  | .array [], _, _, _, mayClose, stack, rest, _ => by
    have opened : Leads ⟨.value mayClose, stack, '[' :: ']' :: rest⟩
        ⟨.value true, .array [] :: stack, ']' :: rest⟩ :=
      leads_mark '[' .openArray (fun _ _ => rfl) fun _ _ => rfl
    have closed : Leads ⟨.value true, .array [] :: stack, ']' :: rest⟩
        ⟨.afterValue (.array []), stack, rest⟩ :=
      leads_mark ']' .closeArray (fun _ _ => rfl) fun _ _ => rfl
    simpa [layOutAt] using opened.trans closed
  | .array (item :: items), short, once, level, mayClose, stack, rest, _ => by
    obtain ⟨own, others⟩ := List.forall_mem_cons.mp (short_array_iff.mp short)
    obtain ⟨ownOnce, othersOnce⟩ := List.forall_mem_cons.mp once.items
    have text : (layOutAt level (.array (item :: items))).toList ++ rest =
        '[' :: ((lineBreak (level + 1)).toList ++ ((layOutAt (level + 1) item).toList ++
          ((layOutItems (level + 1) items).toList ++
            ((lineBreak level).toList ++ ']' :: rest)))) := by
      simp [layOutAt]
    rw [text]
    refine .trans (leads_mark '[' .openArray (fun _ _ => rfl) fun _ _ => rfl) ?_
    refine .trans (leads_lineBreak (level + 1)) ?_
    refine .trans (leads_layOut item own ownOnce (level + 1) true (.array [] :: stack) _ ?_)
      (leads_items items others othersOnce (level + 1) level [] item stack rest)
    exact stops_items (level + 1) items (stops_lineBreak level _)
  | .object [], _, _, _, mayClose, stack, rest, _ => by
    have opened : Leads ⟨.value mayClose, stack, '\x7b' :: '\x7d' :: rest⟩
        ⟨.name [] true, stack, '\x7d' :: rest⟩ :=
      leads_mark '\x7b' .openObject (fun _ _ => rfl) fun _ _ => rfl
    have closed : Leads ⟨.name [] true, stack, '\x7d' :: rest⟩
        ⟨.afterValue (.object []), stack, rest⟩ :=
      leads_mark '\x7d' .closeObject (fun _ _ => rfl) fun _ _ => rfl
    simpa [layOutAt] using opened.trans closed
  | .object ((name, value) :: members), short, once, level, mayClose, stack, rest, _ => by
    obtain ⟨own, others⟩ := List.forall_mem_cons.mp (short_object_iff.mp short)
    obtain ⟨ownOnce, othersOnce⟩ := List.forall_mem_cons.mp once.values
    have text : (layOutAt level (.object ((name, value) :: members))).toList ++ rest =
        '\x7b' :: ((lineBreak (level + 1)).toList ++ ((writeString name).toList ++
          ':' :: ' ' :: ((layOutAt (level + 1) value).toList ++
            ((layOutMembers (level + 1) members).toList ++
              ((lineBreak level).toList ++ '\x7d' :: rest))))) := by
      simp [layOutAt]
    rw [text]
    refine .trans (leads_mark '\x7b' .openObject (fun _ _ => rfl) fun _ _ => rfl) ?_
    refine .trans (leads_lineBreak (level + 1)) ?_
    refine .trans (leads_name name [] true stack _) ?_
    refine .trans (leads_layOut value own ownOnce (level + 1) false (.object [] name :: stack) _ ?_)
      (leads_members members others othersOnce (level + 1) level [] name value stack rest
        once.names)
    exact stops_members (level + 1) members (stops_lineBreak level _)

/-- The texts of further items take the reader from behind an item to behind the array. -/
theorem leads_items : ∀ (items : List Json), (∀ item ∈ items, Short item) →
    (∀ item ∈ items, NamesOnce item) →
    ∀ (level outer : Nat) (before : List Json) (last : Json) (stack : List Open)
      (rest : List Char),
    Leads ⟨.afterValue last, .array before :: stack,
        (layOutItems level items).toList ++ ((lineBreak outer).toList ++ ']' :: rest)⟩
      ⟨.afterValue (.array (before.reverse ++ last :: items)), stack, rest⟩
  | [], _, _, level, outer, before, last, stack, rest => by
    have closed : Leads ⟨.afterValue last, .array before :: stack, ']' :: rest⟩
        ⟨.afterValue (.array (last :: before).reverse), stack, rest⟩ :=
      leads_mark ']' .closeArray (fun _ _ => rfl) fun _ _ => rfl
    rw [List.reverse_cons] at closed
    simpa [layOutItems] using (leads_lineBreak outer).trans closed
  | item :: items, short, once, level, outer, before, last, stack, rest => by
    obtain ⟨own, others⟩ := List.forall_mem_cons.mp short
    obtain ⟨ownOnce, othersOnce⟩ := List.forall_mem_cons.mp once
    have text : (layOutItems level (item :: items)).toList ++
          ((lineBreak outer).toList ++ ']' :: rest) =
        ',' :: ((lineBreak level).toList ++ ((layOutAt level item).toList ++
          ((layOutItems level items).toList ++ ((lineBreak outer).toList ++ ']' :: rest)))) := by
      simp [layOutItems]
    have further := leads_items items others othersOnce level outer (last :: before) item stack rest
    rw [List.reverse_cons, List.append_assoc, List.singleton_append] at further
    rw [text]
    refine .trans (leads_mark ',' .comma (fun _ _ => rfl) fun _ _ => rfl) ?_
    refine .trans (leads_lineBreak level) (.trans (leads_layOut item own ownOnce level false
      (.array (last :: before) :: stack) _ ?_) further)
    exact stops_items level items (stops_lineBreak outer _)

/-- The texts of further members take the reader from behind a member to behind the object. -/
theorem leads_members : ∀ (members : List (String × Json)), (∀ member ∈ members, Short member.2) →
    (∀ member ∈ members, NamesOnce member.2) →
    ∀ (level outer : Nat) (before : List (String × Json)) (name : String) (last : Json)
      (stack : List Open) (rest : List Char),
    ((before ++ (name, last) :: members).map Prod.fst).Nodup →
    Leads ⟨.afterValue last, .object before name :: stack,
        (layOutMembers level members).toList ++ ((lineBreak outer).toList ++ '\x7d' :: rest)⟩
      ⟨.afterValue (.object (before ++ (name, last) :: members)), stack, rest⟩
  | [], _, _, level, outer, before, name, last, stack, rest, names => by
    have closed : Leads ⟨.afterValue last, .object before name :: stack, '\x7d' :: rest⟩
        ⟨.afterValue (.object (setMember before name last)), stack, rest⟩ :=
      leads_mark '\x7d' .closeObject (fun _ _ => rfl) fun _ _ => rfl
    rw [setMember_absent (absent_of_nodup names)] at closed
    simpa [layOutMembers] using (leads_lineBreak outer).trans closed
  | (further, value) :: members, short, once, level, outer, before, name, last, stack, rest,
      names => by
    obtain ⟨own, others⟩ := List.forall_mem_cons.mp short
    obtain ⟨ownOnce, othersOnce⟩ := List.forall_mem_cons.mp once
    have text : (layOutMembers level ((further, value) :: members)).toList ++
          ((lineBreak outer).toList ++ '\x7d' :: rest) =
        ',' :: ((lineBreak level).toList ++ ((writeString further).toList ++
          ':' :: ' ' :: ((layOutAt level value).toList ++
            ((layOutMembers level members).toList ++
              ((lineBreak outer).toList ++ '\x7d' :: rest))))) := by
      simp [layOutMembers]
    have later := leads_members members others othersOnce level outer (before ++ [(name, last)])
      further value stack rest (by simpa using names)
    rw [List.append_assoc, List.singleton_append] at later
    have taken (rest : List Char) :
        Leads ⟨.afterValue last, .object before name :: stack, ',' :: rest⟩
          ⟨.name (setMember before name last) false, stack, rest⟩ :=
      leads_mark ',' .comma (fun _ _ => rfl) fun _ _ => rfl
    rw [setMember_absent (absent_of_nodup names)] at taken
    rw [text]
    refine .trans (taken _) (.trans (leads_lineBreak level) ?_)
    refine .trans (leads_name further _ false stack _) ?_
    refine .trans (leads_layOut value own ownOnce level false _ _ ?_) later
    exact stops_members level members (stops_lineBreak outer _)

end

/-- What is laid out for a document is read as the document, if its integers can be written and its
objects have their names once. -/
theorem read_layOut {document : Json} (short : Short document) (once : NamesOnce document) :
    Json.read document.layOut.toList = .ok document := by
  have decoded : readDecoded document.layOut.toList = .ok document := by
    have reaches := leads_layOut document short once 0 false [] [] (by simp [Stops])
    rw [List.append_nil] at reaches
    obtain ⟨left, later, some, same⟩ := reaches _ 0 (Nat.lt_succ_self _)
    obtain ⟨left, rfl⟩ : ∃ less, left = less + 1 := ⟨left - 1, by omega⟩
    exact same
  unfold Json.read
  split
  · rename_i rest marked
    rw [marked] at decoded
    cases decoded
  · exact decoded

end InfraReview.Json
