import InfraReview.GitHub.Annotation
import InfraReview.Proofs.Text.Split

/-!
# Workflow commands

A workflow command is one line. After two colons comes its head, which ends at the next two colons,
and then the message. The head is a level, a blank and properties with commas between them, each a
key, an equals sign and a value. In values and in the message, a percent sign and two characters
stand for a character that would end them; the percent sign itself is decoded last.

What is written for a character has one of three shapes: nothing, the character, or a percent sign
and two more characters that are none. A replacement never takes parts of two such pieces for one,
so it works on each of them alone, and what reading gives can be seen character by character.
-/

namespace InfraReview.GitHub

/-- A workflow command as it is read. -/
structure Command where
  level : String
  properties : List (String × String)
  body : String
  deriving DecidableEq, Repr

namespace Command

/-- A text with a character in place of a percent sign and two given characters, wherever they
stand from left to right. -/
def replaceCode (first second meant : Char) : List Char → List Char
  | [] => []
  | '%' :: a :: b :: rest =>
    if a = first ∧ b = second then meant :: replaceCode first second meant rest
    else '%' :: replaceCode first second meant (a :: b :: rest)
  | c :: rest => c :: replaceCode first second meant rest

/-- The meaning of a message. -/
def unescapeMessage (text : List Char) : List Char :=
  replaceCode '2' '5' '%' (replaceCode '0' 'A' '\n' text)

/-- The meaning of the value of a property. -/
def unescapeValue (text : List Char) : List Char :=
  unescapeMessage (replaceCode '2' 'C' ',' (replaceCode '3' 'A' ':' text))

/-- A text before and after the first occurrence of a character. -/
def cutAt? (separator : Char) : List Char → Option (List Char × List Char)
  | [] => none
  | c :: rest =>
    if c = separator then some ([], rest)
    else (cutAt? separator rest).map fun (before, after) => (c :: before, after)

/-- A text before and after the first two colons that follow each other. -/
def cutAtColons? : List Char → Option (List Char × List Char)
  | [] => none
  | ':' :: ':' :: rest => some ([], rest)
  | c :: rest => (cutAtColons? rest).map fun (before, after) => (c :: before, after)

/-- The key and the value of a property. -/
def readProperty? (text : List Char) : Option (String × String) :=
  (cutAt? '=' text).map fun (key, value) =>
    (String.ofList key, String.ofList (unescapeValue value))

/-- The level and the properties in the head of a command. -/
def readHead? (head : List Char) : Option (String × List (String × String)) := do
  let (level, listed) ← cutAt? ' ' head
  let properties ← (Text.splitChars ',' listed).mapM readProperty?
  some (String.ofList level, properties)

/-- The command that a line gives. -/
def read? (line : String) : Option Command :=
  match line.toList with
  | ':' :: ':' :: rest => do
    let (head, message) ← cutAtColons? rest
    let (level, properties) ← readHead? head
    some ⟨level, properties, String.ofList (unescapeMessage message)⟩
  | _ => none

/-! ### Characters -/

/-- What a character is written as: nothing, itself, or a percent sign and two characters. -/
inductive IsPiece : List Char → Prop where
  | nothing : IsPiece []
  | plain {c : Char} (other : c ≠ '%') : IsPiece [c]
  | code {a b : Char} (first : a ≠ '%') (second : b ≠ '%') : IsPiece ['%', a, b]

/-- A replacement passes over a character other than the percent sign. -/
theorem replaceCode_plain (first second meant : Char) {c : Char} (other : c ≠ '%')
    (rest : List Char) :
    replaceCode first second meant (c :: rest) = c :: replaceCode first second meant rest := by
  rw [replaceCode.eq_def]
  split <;> simp_all

/-- A replacement works on a piece apart from what follows it. -/
theorem replaceCode_piece (first second meant : Char) {piece : List Char} (shape : IsPiece piece)
    (rest : List Char) :
    replaceCode first second meant (piece ++ rest) =
      replaceCode first second meant piece ++ replaceCode first second meant rest := by
  cases shape with
  | nothing => rfl
  | plain other =>
    rw [List.singleton_append, replaceCode_plain first second meant other,
      replaceCode_plain first second meant other]
    rfl
  | @code a b firstOther secondOther =>
    have whole (more : List Char) : replaceCode first second meant ('%' :: a :: b :: more) =
        if a = first ∧ b = second then meant :: replaceCode first second meant more
        else '%' :: a :: b :: replaceCode first second meant more := by
      rw [replaceCode, replaceCode_plain first second meant firstOther,
        replaceCode_plain first second meant secondOther]
    rw [List.cons_append, List.cons_append, List.cons_append, whole, whole]
    split <;> rfl

/-- A replacement by a character other than the percent sign leaves a piece. -/
theorem IsPiece.replaceCode {first second meant : Char} (other : meant ≠ '%') {piece : List Char}
    (shape : IsPiece piece) : IsPiece (replaceCode first second meant piece) := by
  cases shape with
  | nothing => exact .nothing
  | plain otherChar =>
    rw [replaceCode_plain first second meant otherChar]
    exact .plain otherChar
  | @code a b firstOther secondOther =>
    rw [Command.replaceCode, replaceCode_plain first second meant firstOther,
      replaceCode_plain first second meant secondOther]
    split
    · exact .plain other
    · exact .code firstOther secondOther

/-- A replacement works on what each character is written as. -/
theorem replaceCode_flatMap (first second meant : Char) {write : Char → List Char}
    (shape : ∀ c, IsPiece (write c)) (text : List Char) :
    replaceCode first second meant (text.flatMap write) =
      text.flatMap fun c => replaceCode first second meant (write c) := by
  induction text with
  | nil => rfl
  | cons c rest inductionHypothesis =>
    rw [List.flatMap_cons, List.flatMap_cons, replaceCode_piece first second meant (shape c),
      inductionHypothesis]

/-- The meaning of a message is that of its characters. -/
theorem unescapeMessage_flatMap {write : Char → List Char} (shape : ∀ c, IsPiece (write c))
    (text : List Char) :
    unescapeMessage (text.flatMap write) = text.flatMap fun c => unescapeMessage (write c) := by
  unfold unescapeMessage
  rw [replaceCode_flatMap _ _ _ shape, replaceCode_flatMap]
  intro c
  exact (shape c).replaceCode (by decide)

/-- The meaning of a value is that of its characters. -/
theorem unescapeValue_flatMap {write : Char → List Char} (shape : ∀ c, IsPiece (write c))
    (text : List Char) :
    unescapeValue (text.flatMap write) = text.flatMap fun c => unescapeValue (write c) := by
  have colons (c : Char) : IsPiece (replaceCode '3' 'A' ':' (write c)) :=
    (shape c).replaceCode (by decide)
  have commas (c : Char) :
      IsPiece (replaceCode '2' 'C' ',' (replaceCode '3' 'A' ':' (write c))) :=
    (colons c).replaceCode (by decide)
  unfold unescapeValue
  rw [replaceCode_flatMap _ _ _ shape, replaceCode_flatMap _ _ _ colons,
    unescapeMessage_flatMap commas]

/-- A character of a message is written as a piece. -/
theorem messageChar_piece (c : Char) : IsPiece (messageChar c) := by
  unfold messageChar
  split
  · exact .code (by decide) (by decide)
  · rename_i other
    split
    · exact .nothing
    · split
      · exact .code (by decide) (by decide)
      · exact .plain other

/-- A character of a property is written as a piece. -/
theorem propertyChar_piece (c : Char) : IsPiece (propertyChar c) := by
  unfold propertyChar
  split
  · exact .code (by decide) (by decide)
  · split
    · exact .code (by decide) (by decide)
    · exact messageChar_piece c

/-- A character of a message is read back, apart from a carriage return. -/
theorem unescapeMessage_messageChar (c : Char) :
    unescapeMessage (messageChar c) = if c = '\r' then [] else [c] := by
  by_cases percent : c = '%'
  · subst percent
    rfl
  by_cases ret : c = '\r'
  · subst ret
    rfl
  by_cases feed : c = '\n'
  · subst feed
    rfl
  simp only [messageChar, percent, ret, feed, if_false, unescapeMessage]
  rw [replaceCode_plain _ _ _ percent, replaceCode_plain _ _ _ percent]
  rfl

/-- A character of a property is read back, apart from a carriage return. -/
theorem unescapeValue_propertyChar (c : Char) :
    unescapeValue (propertyChar c) = if c = '\r' then [] else [c] := by
  by_cases colon : c = ':'
  · subst colon
    rfl
  by_cases comma : c = ','
  · subst comma
    rfl
  by_cases percent : c = '%'
  · subst percent
    rfl
  by_cases feed : c = '\n'
  · subst feed
    rfl
  by_cases ret : c = '\r'
  · subst ret
    rfl
  simp only [propertyChar, messageChar, colon, comma, percent, ret, feed, if_false, unescapeValue,
    unescapeMessage]
  rw [replaceCode_plain _ _ _ percent, replaceCode_plain _ _ _ percent,
    replaceCode_plain _ _ _ percent, replaceCode_plain _ _ _ percent]
  rfl

/-! ### Texts -/

/-- A text without its carriage returns. -/
def withoutReturns (text : String) : String := String.ofList (text.toList.filter (· ≠ '\r'))

/-- The characters that are kept, one by one, are the text without its carriage returns. -/
theorem flatMap_kept (text : List Char) :
    (text.flatMap fun c => if c = '\r' then [] else [c]) = text.filter (· ≠ '\r') := by
  induction text with
  | nil => rfl
  | cons c rest inductionHypothesis =>
    rw [List.flatMap_cons, inductionHypothesis]
    by_cases ret : c = '\r' <;> simp [ret]

/-- A message is read back without its carriage returns. -/
theorem unescapeMessage_message (text : String) :
    String.ofList (unescapeMessage (message text).toList) = withoutReturns text := by
  rw [message, String.toList_ofList, unescapeMessage_flatMap messageChar_piece]
  simp only [unescapeMessage_messageChar, flatMap_kept, withoutReturns]

/-- The value of a property is read back without its carriage returns. -/
theorem unescapeValue_property (text : String) :
    String.ofList (unescapeValue (property text).toList) = withoutReturns text := by
  rw [property, String.toList_ofList, unescapeValue_flatMap propertyChar_piece]
  simp only [unescapeValue_propertyChar, flatMap_kept, withoutReturns]

/-- A message as it is written holds no line end. -/
theorem mem_message {c : Char} {text : String} (member : c ∈ (message text).toList) :
    c ≠ '\n' ∧ c ≠ '\r' := by
  rw [message, String.toList_ofList] at member
  obtain ⟨d, _, written⟩ := List.mem_flatMap.mp member
  unfold messageChar at written
  constructor
  all_goals
    rintro rfl
    split_ifs at written <;> grind

/-- The value of a property as it is written holds no line end, no colon and no comma. -/
theorem mem_property {c : Char} {text : String} (member : c ∈ (property text).toList) :
    (c ≠ '\n' ∧ c ≠ '\r') ∧ c ≠ ':' ∧ c ≠ ',' := by
  rw [property, String.toList_ofList] at member
  obtain ⟨d, _, written⟩ := List.mem_flatMap.mp member
  unfold propertyChar messageChar at written
  refine ⟨⟨?_, ?_⟩, ?_, ?_⟩
  all_goals
    rintro rfl
    split_ifs at written <;> grind

/-! ### Lines -/

/-- A text is cut at a character that it holds only there. -/
theorem cutAt_append {separator : Char} {before : List Char} (free : separator ∉ before)
    (after : List Char) :
    cutAt? separator (before ++ separator :: after) = some (before, after) := by
  induction before with
  | nil => simp [cutAt?]
  | cons c rest inductionHypothesis =>
    obtain ⟨other, restFree⟩ := List.ne_and_not_mem_of_not_mem_cons free
    rw [List.cons_append, cutAt?, if_neg (Ne.symm other), inductionHypothesis restFree]
    rfl

/-- A text is cut at two colons when no colon stands before them. -/
theorem cutAtColons_append {before : List Char} (free : ':' ∉ before) (after : List Char) :
    cutAtColons? (before ++ ':' :: ':' :: after) = some (before, after) := by
  induction before with
  | nil => rfl
  | cons c rest inductionHypothesis =>
    obtain ⟨other, restFree⟩ := List.ne_and_not_mem_of_not_mem_cons free
    have step (more : List Char) : cutAtColons? (c :: more) =
        (cutAtColons? more).map fun (before, after) => (c :: before, after) := by
      rw [cutAtColons?.eq_def]
      split <;> simp_all
    rw [List.cons_append, step, inductionHypothesis restFree]
    rfl

/-- A word of small letters, such as a level or the key of a property. -/
def IsWord (text : String) : Prop := ∀ c ∈ text.toList, c.isLower = true

instance (text : String) : Decidable (IsWord text) :=
  decidable_of_iff (text.toList.all Char.isLower = true) List.all_eq_true

/-- A character that is no small letter is in no word. -/
theorem IsWord.not_mem {text : String} (word : IsWord text) {c : Char}
    (other : c.isLower = false) : c ∉ text.toList := by
  intro member
  rw [word c member] at other
  cases other

/-- A property as it is written. -/
def written (entry : String × String) : String := entry.1 ++ "=" ++ property entry.2

/-- What reading should give for a property. -/
def meant (entry : String × String) : String × String := (entry.1, withoutReturns entry.2)

/-- A line with a level, properties and a message. -/
def line (level : String) (entries : List (String × String)) (text : String) : String :=
  "::" ++ level ++ " " ++ ",".intercalate (entries.map written) ++ "::" ++ message text

/-- A property is read back. -/
theorem readProperty_written {entry : String × String} (word : IsWord entry.1) :
    readProperty? (written entry).toList = some (meant entry) := by
  have parts : (written entry).toList = entry.1.toList ++ '=' :: (property entry.2).toList := by
    simp [written]
  rw [readProperty?, parts, cutAt_append (word.not_mem (by decide))]
  simp only [Option.map_some, String.ofList_toList, unescapeValue_property, meant]

/-- What stands in a property as it is written: neither a line end nor a colon nor a comma. -/
theorem mem_written {entry : String × String} (word : IsWord entry.1) {c : Char}
    (member : c ∈ (written entry).toList) : (c ≠ '\n' ∧ c ≠ '\r') ∧ c ≠ ':' ∧ c ≠ ',' := by
  simp only [written, String.toList_append, List.mem_append] at member
  rcases member with (key | equals) | value
  · refine ⟨⟨?_, ?_⟩, ?_, ?_⟩ <;> rintro rfl <;> exact word.not_mem (by decide) key
  · obtain rfl : c = '=' := by simpa using equals
    decide
  · exact mem_property value

section

variable {level : String} {entries : List (String × String)} (levelWord : IsWord level)
  (keyWords : ∀ entry ∈ entries, IsWord entry.1)

include keyWords in
/-- Properties are read back one by one. -/
theorem mapM_readProperty :
    (entries.map fun entry => (written entry).toList).mapM readProperty? =
      some (entries.map meant) := by
  induction entries with
  | nil => rfl
  | cons entry others inductionHypothesis =>
    have own := readProperty_written (keyWords entry List.mem_cons_self)
    have rest :=
      inductionHypothesis fun other later => keyWords other (List.mem_cons_of_mem _ later)
    rw [List.map_cons, List.mapM_cons, own, rest]
    rfl

include keyWords in
/-- What stands in a list of properties: neither a line end nor a colon. -/
theorem mem_listed {c : Char} (member : c ∈ (",".intercalate (entries.map written)).toList) :
    (c ≠ '\n' ∧ c ≠ '\r') ∧ c ≠ ':' := by
  rw [String.toList_intercalate, List.map_map] at member
  rcases Text.mem_of_intercalate member with rfl | ⟨piece, inside, held⟩
  · decide
  · obtain ⟨entry, given, rfl⟩ := List.mem_map.mp inside
    obtain ⟨noEnd, noColon, _⟩ := mem_written (keyWords entry given) held
    exact ⟨noEnd, noColon⟩

include levelWord keyWords in
/-- The head of a command is read back. -/
theorem readHead_written (nonempty : entries ≠ []) :
    readHead? (level.toList ++ ' ' :: (",".intercalate (entries.map written)).toList) =
      some (level, entries.map meant) := by
  have pieces : Text.splitChars ',' (",".intercalate (entries.map written)).toList =
      entries.map fun entry => (written entry).toList := by
    rw [String.toList_intercalate, List.map_map]
    apply Text.splitChars_intercalate
    · intro piece inside
      obtain ⟨entry, given, rfl⟩ := List.mem_map.mp inside
      intro comma
      exact (mem_written (keyWords entry given) comma).2.2 rfl
    · simpa using nonempty
  rw [readHead?, cutAt_append (levelWord.not_mem (by decide))]
  simp only [Option.bind_eq_bind, Option.bind_some, pieces, mapM_readProperty keyWords,
    String.ofList_toList]

include levelWord keyWords in
/-- A line holds no line end. -/
theorem mem_line {text : String} {c : Char} (member : c ∈ (line level entries text).toList) :
    c ≠ '\n' ∧ c ≠ '\r' := by
  simp only [line, String.toList_append, List.mem_append] at member
  rcases member with ((((colons | named) | blank) | listed) | colons) | said
  · obtain rfl : c = ':' := by simpa using colons
    decide
  · constructor <;> rintro rfl <;> exact levelWord.not_mem (by decide) named
  · obtain rfl : c = ' ' := by simpa using blank
    decide
  · exact (mem_listed keyWords listed).1
  · obtain rfl : c = ':' := by simpa using colons
    decide
  · exact mem_message said

include levelWord keyWords in
/-- A line is read back: its level, its properties and its message, without carriage returns. What
stands in a value or in the message never ends the part of the line that it stands in. -/
theorem read_line (nonempty : entries ≠ []) (text : String) :
    read? (line level entries text) = some ⟨level, entries.map meant, withoutReturns text⟩ := by
  have parts : (line level entries text).toList = ':' :: ':' ::
      ((level.toList ++ ' ' :: (",".intercalate (entries.map written)).toList) ++
        ':' :: ':' :: (message text).toList) := by
    simp [line]
  have free : ':' ∉ level.toList ++ ' ' :: (",".intercalate (entries.map written)).toList := by
    intro member
    rcases List.mem_append.mp member with named | listed
    · exact levelWord.not_mem (by decide) named
    · rcases List.mem_cons.mp listed with blank | listed
      · cases blank
      · exact (mem_listed keyWords listed).2 rfl
  rw [read?, parts]
  simp only [cutAtColons_append free, Option.bind_eq_bind, Option.bind_some,
    readHead_written levelWord keyWords nonempty, unescapeMessage_message]

end

end Command

end InfraReview.GitHub
