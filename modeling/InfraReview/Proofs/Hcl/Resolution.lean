import InfraReview.Proofs.Hcl.Escape
import InfraReview.Proofs.Hcl.Layout
import InfraReview.Proofs.Hcl.Wrapping

/-!
# What a source value resolves to

A source value that can be read has one of three outcomes: it is no literal, it is null, or it is a
value. Which of them it is depends on its texts alone. One expression anywhere in it, however deep,
makes the whole of it no literal; without any, it is the same tree over again, with its texts
decoded and its numbers turned to doubles, and without the nulls in its lists and maps.

In a body this concerns one attribute and nothing else: a setting whose value is replaced by
another one is read as what the other value is, and all that stands around it as before.
-/

namespace InfraReview.Hcl

open Resource (setAttribute_fresh)
open Resource.Constant (setLiteral_fresh)

/-- The names that the keys of entries stand for, without quotes. -/
def shownNames (entries : List (Key × Tree)) : List String :=
  entries.map fun entry => unquote entry.1.shown

mutual

/-- A value all of which can be read: its integers are in the range of doubles, the escapes of its
texts name code points, no key is too long an integer, and its maps have no name twice when quotes
are taken away. -/
def Readable : Tree → Prop
  | .int whole => Double.ofInt? whole ≠ none
  | .text content => ¬ WildEscape content.toList
  | .list items => ItemsReadable items
  | .map entries => (shownNames entries).Nodup ∧ EntriesReadable entries
  | .null | .bool _ | .double _ => True

/-- Every item can be read. -/
def ItemsReadable : List Tree → Prop
  | [] => True
  | item :: items => Readable item ∧ ItemsReadable items

/-- The key and the value of every entry can be read. -/
def EntriesReadable : List (Key × Tree) → Prop
  | [] => True
  | (key, tree) :: entries => key.isLong = false ∧ Readable tree ∧ EntriesReadable entries

end

/-- A value with an expression in it: a text that opens an interpolation or a directive and does
not wrap a literal. The keys of maps do not matter. -/
inductive HoldsExpression : Tree → Prop where
  | text {content : String} (opens : Opens content.toList)
      (bare : ∀ found, ¬ Wraps content.toList found) : HoldsExpression (.text content)
  | item {items : List Tree} {item : Tree} (member : item ∈ items)
      (holds : HoldsExpression item) : HoldsExpression (.list items)
  | entry {entries : List (Key × Tree)} {key : Key} {inner : Tree}
      (member : (key, inner) ∈ entries) (holds : HoldsExpression inner) :
      HoldsExpression (.map entries)

mutual

/-- What a value without expressions stands for: nothing when it is null, and otherwise the same
value decoded. No character stands for half of a surrogate pair: where an escape writes one, it
is left open which text it is. -/
inductive Decodes : Tree → Option Value → Prop where
  | null : Decodes .null none
  | bool (truth : Bool) : Decodes (.bool truth) (some (.bool truth))
  | int {whole : Int} {nearest : Double} (rounded : Double.ofInt? whole = some nearest) :
      Decodes (.int whole) (some (.number nearest))
  | double (number : Double) : Decodes (.double number) (some (.number number))
  | wrapped {content : String} {found : Option Value} (wraps : Wraps content.toList found) :
      Decodes (.text content) found
  | text {content : String} {decoded : List Char} (bare : ∀ found, ¬ Wraps content.toList found)
      (closed : ¬ Opens content.toList) (whole : ¬ HalfEscape content.toList)
      (escapes : unescape content.toList = .ok decoded) :
      Decodes (.text content) (some (.text (String.ofList (halve '%' (halve '$' decoded)))))
  | torn {content other : String} (bare : ∀ found, ¬ Wraps content.toList found)
      (closed : ¬ Opens content.toList) (half : HalfEscape content.toList) :
      Decodes (.text content) (some (.text other))
  | list {items : List Tree} {values : List Value} (each : ItemsDecode items values) :
      Decodes (.list items) (some (.list values))
  | map {entries : List (Key × Tree)} {values : List (String × Value)}
      (each : EntriesDecode entries values) : Decodes (.map entries) (some (.map values))

/-- What items stand for, in order and without the nulls. -/
inductive ItemsDecode : List Tree → List Value → Prop where
  | nil : ItemsDecode [] []
  | erased {item : Tree} {items : List Tree} {values : List Value} (first : Decodes item none)
      (others : ItemsDecode items values) : ItemsDecode (item :: items) values
  | kept {item : Tree} {items : List Tree} {value : Value} {values : List Value}
      (first : Decodes item (some value)) (others : ItemsDecode items values) :
      ItemsDecode (item :: items) (value :: values)

/-- What entries stand for under their names, in order and without the nulls. -/
inductive EntriesDecode : List (Key × Tree) → List (String × Value) → Prop where
  | nil : EntriesDecode [] []
  | erased {key : Key} {tree : Tree} {entries : List (Key × Tree)}
      {values : List (String × Value)} (first : Decodes tree none)
      (others : EntriesDecode entries values) : EntriesDecode ((key, tree) :: entries) values
  | kept {key : Key} {tree : Tree} {entries : List (Key × Tree)} {value : Value}
      {values : List (String × Value)} (first : Decodes tree (some value))
      (others : EntriesDecode entries values) :
      EntriesDecode ((key, tree) :: entries) ((unquote key.shown, value) :: values)

end

/-- A value is read as what it is: no literal when it has an expression in it, and what it stands
for otherwise. -/
inductive Resolves (tree : Tree) : Prop where
  | expression (holds : HoldsExpression tree) (read : literal tree = .ok .unresolved)
  | literal {found : Option Value} (free : ¬ HoldsExpression tree) (decodes : Decodes tree found)
      (read : literal tree = .ok (.known found))

/-! ### Texts -/

/-- A text holds an expression exactly when it opens one and wraps no literal. -/
theorem holdsExpression_text (content : String) :
    HoldsExpression (.text content) ↔
      Opens content.toList ∧ ∀ found, ¬ Wraps content.toList found := by
  constructor
  · intro holds
    cases holds with
    | text opens bare => exact ⟨opens, bare⟩
  · rintro ⟨opens, bare⟩
    exact .text opens bare

/-- A text is read as the literal that it wraps, as an expression when it opens one, and otherwise
as what its escapes decode to. -/
theorem resolves_text {content : String} (readable : Readable (.text content)) :
    Resolves (.text content) := by
  cases wrapped : wrapped? content.toList with
  | some literal =>
    obtain ⟨found, rfl, wraps⟩ := wraps_of_wrapped wrapped
    have free : ¬ HoldsExpression (.text content) := by
      rw [holdsExpression_text]
      rintro ⟨_, bare⟩
      exact bare found wraps
    exact .literal free (.wrapped wraps) (by simp [literal, stringLiteral, wrapped])
  | none =>
    have bare : ∀ found, ¬ Wraps content.toList found := by
      intro found wraps
      rw [wrapped_of_wraps wraps] at wrapped
      cases wrapped
    by_cases opens : Opens content.toList
    · have opened := (hasOpener_iff_opens content.toList).mpr opens
      exact .expression (.text opens bare) (by simp [literal, stringLiteral, wrapped, opened])
    · have closed : hasOpener none content.toList = false := by
        rwa [Bool.eq_false_iff, Ne, hasOpener_iff_opens]
      obtain ⟨decoded, escapes⟩ := ok_of_not_fails
        (mt (unescape_fails_iff content.toList).mp readable)
      have decodes : Decodes (.text content)
          (some (.text (String.ofList (halve '%' (halve '$' decoded))))) := by
        by_cases half : HalfEscape content.toList
        · exact .torn bare opens half
        · exact .text bare opens half escapes
      refine .literal ?_ decodes ?_
      · rw [holdsExpression_text]
        rintro ⟨opened, _⟩
        exact opens opened
      · simp [literal, stringLiteral, wrapped, closed, escapes, Except.map, Literal.known]

/-! ### Lists and maps -/

/-- The values among literals of which the first one is known. -/
theorem resolved_known (found : Option Value) (read : List Literal) :
    resolved? (.known found :: read) = (resolved? read).map (found.toList ++ ·) := by
  cases found with
  | none => simp [Literal.known, resolved?]
  | some value => simp [Literal.known, resolved?]

/-- The values among named literals of which the first one is known. -/
theorem resolvedEntries_known (name : String) (found : Option Value)
    (read : List (String × Literal)) :
    resolvedEntries? ((name, .known found) :: read) =
      (resolvedEntries? read).map ((found.map (name, ·)).toList ++ ·) := by
  cases found with
  | none => simp [Literal.known, resolvedEntries?]
  | some value => simp [Literal.known, resolvedEntries?]

/-- What an item stands for is put before what the others stand for, unless it is null. -/
theorem ItemsDecode.cons {item : Tree} {items : List Tree} {found : Option Value}
    {values : List Value} (first : Decodes item found) (others : ItemsDecode items values) :
    ItemsDecode (item :: items) (found.toList ++ values) := by
  cases found with
  | none => exact .erased first others
  | some value => exact .kept first others

/-- What an entry stands for is put before what the others stand for, unless it is null. -/
theorem EntriesDecode.cons {key : Key} {tree : Tree} {entries : List (Key × Tree)}
    {found : Option Value} {values : List (String × Value)} (first : Decodes tree found)
    (others : EntriesDecode entries values) :
    EntriesDecode ((key, tree) :: entries)
      ((found.map (unquote key.shown, ·)).toList ++ values) := by
  cases found with
  | none => exact .erased first others
  | some value => exact .kept first others

/-- Items are read, and they are not resolved when there is an expression in one of them, and
otherwise resolved to what they stand for. -/
def ItemsResolve (items : List Tree) : Prop :=
  ∃ read, literals items = .ok read ∧
    (((∃ item ∈ items, HoldsExpression item) ∧ resolved? read = none) ∨
      ((∀ item ∈ items, ¬ HoldsExpression item) ∧
        ∃ values, ItemsDecode items values ∧ resolved? read = some values))

/-- Entries are read behind others with other names, and they are not resolved when there is an
expression in one of them, and otherwise resolved to what they stand for. -/
def EntriesResolve (entries : List (Key × Tree)) : Prop :=
  ∃ read,
    (∀ done : List (String × Literal), (∀ name ∈ shownNames entries, name ∉ done.map (·.1)) →
      entryLiterals done entries = .ok (done ++ read)) ∧
    (((∃ entry ∈ entries, HoldsExpression entry.2) ∧ resolvedEntries? read = none) ∨
      ((∀ entry ∈ entries, ¬ HoldsExpression entry.2) ∧
        ∃ values, EntriesDecode entries values ∧ resolvedEntries? read = some values))

/-- An item is read before others. -/
theorem ItemsResolve.cons {item : Tree} {items : List Tree} (first : Resolves item)
    (others : ItemsResolve items) : ItemsResolve (item :: items) := by
  obtain ⟨read, each, outcome⟩ := others
  have whole {found : Literal} (own : literal item = .ok found) :
      literals (item :: items) = .ok (found :: read) := by
    rw [literals, own, each]
    rfl
  cases first with
  | expression holds own =>
    exact ⟨_, whole own, .inl ⟨⟨item, List.mem_cons_self, holds⟩, rfl⟩⟩
  | @literal found free decodes own =>
    refine ⟨_, whole own, ?_⟩
    rw [resolved_known]
    rcases outcome with ⟨⟨other, member, holds⟩, gone⟩ | ⟨othersFree, values, decode, kept⟩
    · exact .inl ⟨⟨other, List.mem_cons_of_mem _ member, holds⟩, by rw [gone]; rfl⟩
    · exact .inr ⟨List.forall_mem_cons.mpr ⟨free, othersFree⟩, _, .cons decodes decode,
        by rw [kept]; rfl⟩

/-- An entry is read before others with other names. -/
theorem EntriesResolve.cons {key : Key} {tree : Tree} {entries : List (Key × Tree)}
    (short : key.isLong = false) (fresh : unquote key.shown ∉ shownNames entries)
    (first : Resolves tree) (others : EntriesResolve entries) :
    EntriesResolve ((key, tree) :: entries) := by
  obtain ⟨read, each, outcome⟩ := others
  have whole {found : Literal} (own : literal tree = .ok found)
      (done : List (String × Literal))
      (apart : ∀ name ∈ shownNames ((key, tree) :: entries), name ∉ done.map (·.1)) :
      entryLiterals done ((key, tree) :: entries) =
        .ok (done ++ (unquote key.shown, found) :: read) := by
    obtain ⟨now, later⟩ := List.forall_mem_cons.mp apart
    have behind : ∀ name ∈ shownNames entries,
        name ∉ (done ++ [(unquote key.shown, found)]).map (·.1) := by
      intro name member
      have differs : name ≠ unquote key.shown := by
        rintro rfl
        exact fresh member
      simpa [differs] using later name member
    rw [entryLiterals, nameOfKey_eq, short, own]
    change entryLiterals (setLiteral done (unquote key.shown) found) entries = _
    rw [setLiteral_fresh now, each _ behind, List.append_assoc]
    rfl
  cases first with
  | expression holds own =>
    exact ⟨_, whole own, .inl ⟨⟨_, List.mem_cons_self, holds⟩, rfl⟩⟩
  | @literal found free decodes own =>
    refine ⟨_, whole own, ?_⟩
    rw [resolvedEntries_known]
    rcases outcome with ⟨⟨other, member, holds⟩, gone⟩ | ⟨othersFree, values, decode, kept⟩
    · exact .inl ⟨⟨other, List.mem_cons_of_mem _ member, holds⟩, by rw [gone]; rfl⟩
    · exact .inr ⟨List.forall_mem_cons.mpr ⟨free, othersFree⟩, _, .cons decodes decode,
        by rw [kept]; rfl⟩

/-- A list is read as its items are. -/
theorem resolves_list {items : List Tree} (each : ItemsResolve items) : Resolves (.list items) := by
  obtain ⟨read, found, ⟨⟨item, member, holds⟩, gone⟩ | ⟨free, values, decode, kept⟩⟩ := each
  · refine .expression (.item member holds) ?_
    rw [literal, found]
    simp [gone, bind, Except.bind]
  · refine .literal ?_ (.list decode) ?_
    · intro holds
      cases holds with
      | item member holds => exact free _ member holds
    · rw [literal, found]
      simp [kept, Literal.known, bind, Except.bind]

/-- A map is read as its entries are. -/
theorem resolves_map {entries : List (Key × Tree)} (each : EntriesResolve entries) :
    Resolves (.map entries) := by
  obtain ⟨read, found, ⟨⟨entry, member, holds⟩, gone⟩ | ⟨free, values, decode, kept⟩⟩ := each
  · refine .expression (.entry member holds) ?_
    rw [literal, found [] (by simp)]
    simp [gone, bind, Except.bind]
  · refine .literal ?_ (.map decode) ?_
    · intro holds
      cases holds with
      | entry member holds => exact free _ member holds
    · rw [literal, found [] (by simp)]
      simp [kept, Literal.known, bind, Except.bind]

mutual

/-- A value that can be read is read as what it is. Proof: by recursion on the value. -/
theorem resolves_of_readable : ∀ tree : Tree, Readable tree → Resolves tree
  | .null, _ => .literal (by rintro ⟨⟩) .null (by rw [literal]; rfl)
  | .bool truth, _ => .literal (by rintro ⟨⟩) (.bool truth) (by rw [literal]; rfl)
  | .int whole, inRange => by
    obtain ⟨nearest, rounded⟩ := Option.ne_none_iff_exists'.mp inRange
    exact .literal (by rintro ⟨⟩) (.int rounded) (by rw [literal, rounded]; rfl)
  | .double number, _ => .literal (by rintro ⟨⟩) (.double number) (by rw [literal]; rfl)
  | .text _, readable => resolves_text readable
  | .list items, readable => resolves_list (itemsResolve_of_readable items readable)
  | .map entries, ⟨apart, readable⟩ =>
    resolves_map (entriesResolve_of_readable entries apart readable)

/-- Items that can be read are read as what they are. -/
theorem itemsResolve_of_readable : ∀ items : List Tree, ItemsReadable items → ItemsResolve items
  | [], _ => ⟨[], rfl, .inr ⟨by simp, [], .nil, rfl⟩⟩
  | item :: items, ⟨readable, others⟩ =>
    .cons (resolves_of_readable item readable) (itemsResolve_of_readable items others)

/-- Entries that can be read and have different names are read as what they are. -/
theorem entriesResolve_of_readable : ∀ entries : List (Key × Tree), (shownNames entries).Nodup →
    EntriesReadable entries → EntriesResolve entries
  | [], _, _ => ⟨[], by simp [entryLiterals], .inr ⟨by simp, [], .nil, rfl⟩⟩
  | (key, tree) :: entries, apart, ⟨short, readable, others⟩ => by
    obtain ⟨fresh, apart⟩ := List.nodup_cons.mp apart
    exact .cons short fresh (resolves_of_readable tree readable)
      (entriesResolve_of_readable entries apart others)

end

example : literal (.list [.null, .map [(.text "\"a\"", .text "$\x7b true \x7d")]]) =
    .ok (.value (.list [.map [("a", .bool true)]])) := by rfl

/-- The reading does not break off at a value that can be read. -/
theorem not_fails_of_readable {tree : Tree} (readable : Readable tree) :
    ¬ Fails (literal tree) := by
  cases resolves_of_readable tree readable with
  | expression _ read => simp [read]
  | literal _ _ read => simp [read]

/-! ### Bodies -/

/-- Entries are read behind those before them. -/
theorem readEntries_append (first second : List (Key × Tree)) (attributes : Attributes)
    (blocks : NestedBlocks) :
    readEntries attributes blocks (first ++ second) =
      readEntries attributes blocks first >>= fun contents =>
        readEntries contents.1 contents.2 second := by
  induction first generalizing attributes blocks with
  | nil => rfl
  | cons entry first inductionHypothesis =>
    obtain ⟨key, tree⟩ := entry
    rw [List.cons_append, readEntries, readEntries]
    split
    · exact inductionHypothesis attributes blocks
    · cases blockBodies tree with
      | error fault => rfl
      | ok searched =>
        cases searched with
        | some bodies =>
          cases readBlocks key tree with
          | error fault => rfl
          | ok more => exact inductionHypothesis attributes (addBlocks blocks key more)
        | none =>
          cases literal tree with
          | error fault => rfl
          | ok found =>
            cases found with
            | value value =>
              cases label key with
              | error fault => rfl
              | ok name => exact inductionHypothesis (setAttribute attributes name value) blocks
            | _ => exact inductionHypothesis attributes blocks

/-- Keys that are different texts without quotes. -/
structure PlainKeys (keys : List Key) : Prop where
  once : keys.Nodup
  unquoted : ∀ key ∈ keys, ∃ name, key = .text name ∧ unquote name = name

/-- Some of plain keys are plain. -/
theorem PlainKeys.sub {keys others : List Key} (plain : PlainKeys keys)
    (among : others.Sublist keys) : PlainKeys others :=
  ⟨plain.once.sublist among, fun key member => plain.unquoted key (among.subset member)⟩

/-- Nothing among attributes stands under one of the keys. -/
def Apart (attributes : Attributes) (keys : List Key) : Prop :=
  ∀ name ∈ attributes.map (·.1), .text name ∉ keys

/-- Attributes that are apart from keys are so from all but the first of them. -/
theorem Apart.tail {attributes : Attributes} {key : Key} {keys : List Key}
    (apart : Apart attributes (key :: keys)) : Apart attributes keys :=
  fun name member found => apart name member (List.mem_cons_of_mem _ found)

/-- Attributes of two lists are apart from keys when both lists are. -/
theorem Apart.append {attributes more : Attributes} {keys : List Key}
    (apart : Apart attributes keys) (others : Apart more keys) :
    Apart (attributes ++ more) keys := by
  intro name member
  rw [List.map_append, List.mem_append] at member
  exact member.elim (apart name) (others name)

/-- What a setting comes to is apart from the keys of other ones. -/
theorem apart_keptAttribute {name : String} {keys : List Key} (fresh : .text name ∉ keys)
    (tree : Tree) : Apart (keptAttribute name tree) keys := by
  unfold keptAttribute
  split
  · simpa [Apart] using fresh
  · simp [Apart]

/-- What attributes entries with plain keys come to does not depend on the attributes before them,
when these have other names. Proof: by induction on the entries; each of them adds an attribute
under its own key at most. -/
theorem readEntries_behind {entries : List (Key × Tree)} (plain : PlainKeys (entries.map (·.1)))
    {attributes : Attributes} {blocks : NestedBlocks} {contents : Attributes × NestedBlocks}
    (done : readEntries attributes blocks entries = .ok contents) :
    ∃ more : Attributes, (∀ name ∈ more.map (·.1), .text name ∈ entries.map (·.1)) ∧
      ∀ start, Apart start (entries.map (·.1)) →
        readEntries start blocks entries = .ok (start ++ more, contents.2) := by
  induction entries generalizing attributes blocks with
  | nil =>
    rw [readEntries] at done
    cases done
    exact ⟨[], by simp, fun start _ => by simp [readEntries]⟩
  | cons entry entries inductionHypothesis =>
    obtain ⟨key, tree⟩ := entry
    have plainOthers := plain.sub (List.sublist_cons_self _ _)
    have skip {later : NestedBlocks} (rest : readEntries attributes later entries = .ok contents)
        (step : ∀ start, readEntries start blocks ((key, tree) :: entries) =
          readEntries start later entries) :
        ∃ more : Attributes, (∀ name ∈ more.map (·.1), .text name ∈ key :: entries.map (·.1)) ∧
          ∀ start, Apart start (key :: entries.map (·.1)) →
            readEntries start blocks ((key, tree) :: entries) =
              .ok (start ++ more, contents.2) := by
      obtain ⟨more, within, behind⟩ := inductionHypothesis plainOthers rest
      refine ⟨more, ?_, ?_⟩
      · intro name member
        exact List.mem_cons_of_mem _ (within name member)
      · intro start apart
        rw [step]
        exact behind start apart.tail
    rw [readEntries] at done
    split at done
    · rename_i marks
      exact skip done fun start => by rw [readEntries, if_pos marks]
    rename_i noMark
    obtain ⟨searched, search, done⟩ := ok_of_bind done
    cases searched with
    | some bodies =>
      obtain ⟨group, read, done⟩ := ok_of_bind done
      refine skip done fun start => ?_
      rw [readEntries, if_neg noMark, search]
      simp [read, bind, Except.bind]
    | none =>
      obtain ⟨converted, found, done⟩ := ok_of_bind done
      cases converted with
      | value value =>
        obtain ⟨name, named, done⟩ := ok_of_bind done
        obtain ⟨content, rfl, bare⟩ := plain.unquoted key List.mem_cons_self
        obtain rfl : content = name := by simpa [label, bare] using named
        obtain ⟨more, within, behind⟩ := inductionHypothesis plainOthers done
        refine ⟨(content, value) :: more, ?_, ?_⟩
        · refine List.forall_mem_cons.mpr ⟨List.mem_cons_self, ?_⟩
          intro name member
          exact List.mem_cons_of_mem _ (within name member)
        · intro start apart
          have own : Apart [(content, value)] (entries.map (·.1)) := by
            simpa [Apart] using (List.nodup_cons.mp plain.once).1
          have rest := behind (start ++ [(content, value)]) (apart.tail.append own)
          have fresh : content ∉ start.map (·.1) := by
            intro member
            exact apart content member List.mem_cons_self
          rw [readEntries, if_neg noMark, search]
          simpa [found, named, setAttribute_fresh fresh, bind, Except.bind] using rest
      | _ =>
        refine skip done fun start => ?_
        rw [readEntries, if_neg noMark, search]
        simp [found, bind, Except.bind]

/-- When entries are read of which the first one is an attribute, those behind it are read after
this attribute is kept. -/
theorem readEntries_attribute {name : String} {tree : Tree} {attributes : Attributes}
    {blocks : NestedBlocks} {rest : List (Key × Tree)} {contents : Attributes × NestedBlocks}
    (noMark : isMarkKey (.text name) = false) (bare : unquote name = name)
    (single : ¬ HoldsBlocks tree) (fresh : name ∉ attributes.map (·.1))
    (done : readEntries attributes blocks ((.text name, tree) :: rest) = .ok contents) :
    readEntries (attributes ++ keptAttribute name tree) blocks rest = .ok contents := by
  rw [readEntries, if_neg (by simp [noMark])] at done
  obtain ⟨searched, search, done⟩ := ok_of_bind done
  cases searched with
  | some bodies => exact absurd (blockBodies_some search).1 single
  | none =>
    obtain ⟨converted, own, done⟩ := ok_of_bind done
    cases converted with
    | value value =>
      simpa [keptAttribute, own, label, bare, setAttribute_fresh fresh, bind, Except.bind]
        using done
    | _ => simpa [keptAttribute, own] using done

/-- A body with an attribute whose value is left open. The keys of the body are plain, and that of
the attribute is no mark. -/
structure OpenBody where
  before : List (Key × Tree)
  name : String
  after : List (Key × Tree)
  plain : PlainKeys (before.map (·.1) ++ .text name :: after.map (·.1))
  noMark : isMarkKey (.text name) = false

namespace OpenBody

variable (body : OpenBody)

/-- The entries of the body with a value for the attribute. -/
def fill (tree : Tree) : List (Key × Tree) := body.before ++ (.text body.name, tree) :: body.after

/-- The line of the body does not depend on the attribute. -/
theorem markedLine_fill (tree other : Tree) :
    markedLine (body.fill tree) = markedLine (body.fill other) := by
  have noStart : Key.text body.name ≠ .text startLineKey := by
    intro same
    have noMark := body.noMark
    simp [same, isMarkKey] at noMark
  have found (value : Tree) : Tree.entry? (body.fill value) startLineKey =
      (Tree.entry? body.before startLineKey).or (Tree.entry? body.after startLineKey) := by
    rw [← entry?_other noStart value body.after, Tree.entry?, fill, List.lookup_append]
    rfl
  rw [markedLine, found tree, ← found other, ← markedLine]

/-- When a body is read whose attribute holds no blocks, what the attribute comes to stands in one
place among the attributes of the block, and another value that can be read changes the block in
this place alone, unless the search for blocks strays in it. -/
theorem around {type : Key} {labels : List String} {tree : Tree} {block : Block}
    (single : ¬ HoldsBlocks tree) (done : toBlock type ⟨labels, body.fill tree⟩ = .ok block) :
    ∃ first last, block.attributes = first ++ keptAttribute body.name tree ++ last ∧
      body.name ∉ first.map (·.1) ∧ body.name ∉ last.map (·.1) ∧
      ∀ other, Unmarked other → ¬ Fails (literal other) →
        ComesTo (toBlock type ⟨labels, body.fill other⟩) (¬ FirstStrays other)
          { block with attributes := first ++ keptAttribute body.name other ++ last } := by
  obtain ⟨_, others, distinct⟩ := List.nodup_append.mp body.plain.once
  obtain ⟨ownAfter, _⟩ := List.nodup_cons.mp others
  have ownBefore : .text body.name ∉ body.before.map (·.1) := by
    intro member
    exact distinct _ member _ List.mem_cons_self rfl
  obtain ⟨_, ⟨⟩, bare⟩ := body.plain.unquoted (.text body.name) (by simp)
  have plainAfter : PlainKeys (body.after.map (·.1)) := body.plain.sub (by simp)
  obtain ⟨contents, read, done⟩ := ok_of_bind done
  obtain ⟨line, marked, same⟩ := ok_of_bind done
  cases same
  rw [fill, readEntries_append] at read
  obtain ⟨⟨start, found⟩, readBefore, read⟩ := ok_of_bind read
  obtain ⟨first, firstWithin, firstRead⟩ :=
    readEntries_behind (body.plain.sub (List.sublist_append_left _ _)) readBefore
  have begin : readEntries [] [] body.before = .ok (first, found) := firstRead [] (by simp [Apart])
  obtain rfl : first = start := by simpa [begin] using readBefore
  have fresh : body.name ∉ first.map (·.1) := by
    intro member
    exact ownBefore (firstWithin _ member)
  have rest := readEntries_attribute body.noMark bare single fresh read
  obtain ⟨last, lastWithin, lastRead⟩ := readEntries_behind plainAfter rest
  have apart (value : Tree) :
      Apart (first ++ keptAttribute body.name value) (body.after.map (·.1)) := by
    refine Apart.append ?_ (apart_keptAttribute ownAfter value)
    intro name member later
    exact distinct _ (firstWithin name member) _ (List.mem_cons_of_mem _ later) rfl
  refine ⟨first, last, ?_, fresh, fun member => ownAfter (lastWithin _ member), ?_⟩
  · rw [lastRead _ (apart tree)] at rest
    exact congrArg Prod.fst (Except.ok.inj rest).symm
  · -- what stands before and behind the attribute is read as it was with the first value
    intro other unmarked sound
    have readAfter : ComesTo (readEntries (first ++ keptAttribute body.name other) found body.after)
        True (first ++ keptAttribute body.name other ++ last, contents.2) := by
      rw [lastRead _ (apart other)]
      exact comesTo_ok _ trivial
    have readOther : ComesTo (readEntries [] [] (body.fill other)) (¬ FirstStrays other)
        (first ++ keptAttribute body.name other ++ last, contents.2) := by
      rw [fill, readEntries_append, begin, ← and_true (¬ FirstStrays other)]
      exact readEntries_setting body.noMark bare unmarked sound fresh readAfter
    rw [toBlock, markedLine_fill body other tree, marked]
    exact readOther.map fun contents =>
      (⟨type, labels, contents.1, contents.2, line⟩ : Block)

end OpenBody

/-- A value that can be read is no literal exactly when there is an expression in it, and without
one it is what it stands for. In a body it changes the attribute that it is the value of and nothing
else: what the attribute comes to is put in the place of what it came to before. The reading breaks
off exactly when the search for blocks strays in the first item of the value, and then at a key
without a label. -/
theorem expressions_leave_out {value : Tree} (readable : Readable value) :
    (literal value = .ok .unresolved ↔ HoldsExpression value) ∧
    (¬ HoldsExpression value →
      ∃ found, Decodes value found ∧ literal value = .ok (.known found)) ∧
    (Unmarked value →
      ∀ (body : OpenBody) (type : Key) (labels : List String) (tree : Tree) (block : Block),
        ¬ HoldsBlocks tree → toBlock type ⟨labels, body.fill tree⟩ = .ok block →
        ∃ first last, block.attributes = first ++ keptAttribute body.name tree ++ last ∧
          body.name ∉ first.map (·.1) ∧ body.name ∉ last.map (·.1) ∧
          (¬ FirstStrays value → toBlock type ⟨labels, body.fill value⟩ =
            .ok { block with attributes := first ++ keptAttribute body.name value ++ last }) ∧
          (FirstStrays value → ∃ sort,
            toBlock type ⟨labels, body.fill value⟩ = .error (.labelWithoutLength sort))) := by
  refine ⟨?_, ?_, ?_⟩
  · cases resolves_of_readable value readable with
    | expression holds read => simp [holds, read]
    | literal free decodes read =>
      rename_i found
      cases found <;> simp [free, read, Literal.known]
  · intro free
    cases resolves_of_readable value readable with
    | expression holds read => exact absurd holds free
    | literal _ decodes read => exact ⟨_, decodes, read⟩
  · intro unmarked body type labels tree block single done
    obtain ⟨first, last, attributes, noFirst, noLast, others⟩ := body.around single done
    have comes := others value unmarked (not_fails_of_readable readable)
    refine ⟨first, last, attributes, noFirst, noLast, comes.there, ?_⟩
    intro strays
    exact comes.broken (not_not.mpr strays)

/-- A list of a null, a wrapped truth value under a quoted key, and a reference. -/
def referringList : Tree :=
  .list [.null, .map [(.text "\"a\"", .text "$\x7b true \x7d")], .text "$\x7bvar.a\x7d"]

/-- A body with an open attribute before another one. -/
def openedBody : OpenBody where
  before := []
  name := "x"
  after := (.text "y", .bool true) :: Resource.marks 1 4
  plain :=
    ⟨by decide, by
      simp only [Resource.marks, List.map_nil, List.map_cons, List.nil_append, List.mem_cons,
        List.not_mem_nil, or_false, forall_eq_or_imp, forall_eq, Key.text.injEq,
        exists_eq_left']
      decide⟩
  noMark := by decide

/-- In that body the list leaves its attribute out, and the other attribute stays. -/
theorem referring_list_left_out :
    Readable referringList ∧ literal referringList = .ok .unresolved ∧
      toBlock (.text "resource") ⟨["t", "n"], openedBody.fill (.text "logs")⟩ =
        .ok ⟨.text "resource", ["t", "n"], [("x", .text "logs"), ("y", .bool true)], [], 1⟩ ∧
      toBlock (.text "resource") ⟨["t", "n"], openedBody.fill referringList⟩ =
        .ok ⟨.text "resource", ["t", "n"], [("y", .bool true)], [], 1⟩ := by
  have readable : Readable referringList := by
    simp only [referringList, Readable, ItemsReadable, EntriesReadable, shownNames,
      ← unescape_fails_iff]
    decide
  have holds : HoldsExpression referringList := by
    refine .item (.tail _ (.tail _ (.head _))) (.text ?_ ?_)
    · rw [← hasOpener_iff_opens]
      decide
    · intro found wraps
      have wrapped := wrapped_of_wraps wraps
      cases wrapped
  have read : toBlock (.text "resource") ⟨["t", "n"], openedBody.fill (.text "logs")⟩ =
      .ok ⟨.text "resource", ["t", "n"], [("x", .text "logs"), ("y", .bool true)], [], 1⟩ := by
    rfl
  have unmarked : Unmarked referringList := by
    simp only [referringList, Unmarked, ItemsUnmarked, EntriesUnmarked]
    decide
  have straight : ¬ FirstStrays referringList := by
    rintro ⟨_, _, ⟨⟩, ⟨⟩⟩
  obtain ⟨unresolved, _, placed⟩ := expressions_leave_out readable
  obtain ⟨first, last, attributes, noFirst, _, kept, _⟩ := placed unmarked openedBody
    (.text "resource") ["t", "n"] (.text "logs") _ (by rintro ⟨_, ⟨⟩, _⟩) read
  refine ⟨readable, unresolved.mpr holds, read, ?_⟩
  rw [kept straight]
  -- no attribute stands before the opened one, so the other one stands behind it
  cases first with
  | nil =>
    obtain rfl : [("y", Value.bool true)] = last := (List.cons.inj attributes).2
    rfl
  | cons own first =>
    obtain rfl : ("x", Value.text "logs") = own := (List.cons.inj attributes).1
    exact absurd List.mem_cons_self noFirst

/-- A list with a reference under a number in its first item. -/
def numberedList : Tree := .list [.map [(.int 1, .text "$\x7bvar.a\x7d")]]

/-- Not every value that can be read leaves the rest of a block as it is: a key that is no text in
the first item of a list breaks the reading of the whole body off. -/
theorem numbered_reference_breaks_off :
    ¬ ∀ (body : OpenBody) (type : Key) (labels : List String) (tree value : Tree) (block : Block),
      ¬ HoldsBlocks tree → toBlock type ⟨labels, body.fill tree⟩ = .ok block →
      Readable value → Unmarked value →
      ∃ attributes, toBlock type ⟨labels, body.fill value⟩ =
        .ok { block with attributes := attributes } := by
  intro replaced
  have readable : Readable numberedList := by
    simp only [numberedList, Readable, ItemsReadable, EntriesReadable, shownNames,
      ← unescape_fails_iff]
    decide
  have unmarked : Unmarked numberedList := by
    simp only [numberedList, Unmarked, ItemsUnmarked, EntriesUnmarked]
    decide
  have broken : toBlock (.text "resource") ⟨["t", "n"], openedBody.fill numberedList⟩ =
      .error (.labelWithoutLength "int") := by
    rfl
  obtain ⟨attributes, done⟩ := replaced openedBody (.text "resource") ["t", "n"] (.text "logs")
    numberedList _ (by rintro ⟨_, ⟨⟩, _⟩) rfl readable unmarked
  rw [broken] at done
  cases done

end InfraReview.Hcl
