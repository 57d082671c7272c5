import InfraReview.CommandLine.Reading
import InfraReview.Proofs.Success

/-!
# Values that a command accepts

A reading of a command line holds no value that its option does not accept. Words name options
of the command only, whether in full or cut short, and a value gets into the reading nowhere
but where its option is asked about it.
-/

namespace InfraReview.CommandLine

/-- An option that a word stands for is one of the options of the command. -/
def Word.Known (options : List OptionForm) : Word → Prop
  | .option form _ => form ∈ options
  | _ => True

/-- The values in a reading that options were given are accepted by an option with the name. -/
def Reading.Accepted (options : List OptionForm) (reading : Reading) : Prop :=
  ∀ name value, (name, some value) ∈ reading.values →
    ∃ form ∈ options, form.name = name ∧ form.accepts value = true

/-- What a long name stands for is known. -/
theorem known_of_longName {options : List OptionForm} {name : String} {meaning : Meaning}
    (named : (name, meaning) ∈ longNames options) (attached : Option String) :
    (meaning.word attached).Known options := by
  rcases List.mem_cons.mp named with help | option
  · obtain ⟨rfl, rfl⟩ := Prod.mk.inj help
    trivial
  · obtain ⟨form, listed, same⟩ := List.mem_map.mp option
    obtain ⟨rfl, rfl⟩ := Prod.mk.inj same
    exact listed

/-- A word that belongs to no option is known. -/
theorem strangeWord_known (options : List OptionForm) (text : String) :
    (strangeWord text).Known options := by
  unfold strangeWord
  split <;> trivial

/-- A word that starts with two dashes is known. -/
theorem longWord_known {options : List OptionForm} {text : String} {found : Word}
    (read : longWord options text = .ok found) : found.Known options := by
  unfold longWord at read
  simp only at read
  split at read
  · rename_i meaning named
    obtain ⟨before, after, split, _⟩ := List.lookup_eq_some_iff.mp named
    obtain rfl := Except.ok.inj read
    have listed : ((splitAttached text).1, meaning) ∈ longNames options := by
      rw [split]
      exact List.mem_append_right _ List.mem_cons_self
    exact known_of_longName listed _
  · split at read
    · obtain rfl := Except.ok.inj read
      exact strangeWord_known options text
    · rename_i entry only
      obtain rfl := Except.ok.inj read
      have chosen : entry ∈ (longNames options).filter fun other =>
          (splitAttached text).1.toList.isPrefixOf other.1.toList := by
        rw [only]
        exact List.mem_singleton_self entry
      exact known_of_longName (List.mem_filter.mp chosen).1 _
    · cases read

/-- A word that is no separator and follows none is known. -/
theorem word_known {options : List OptionForm} {text : String} {found : Word}
    (read : word options text = .ok found) : found.Known options := by
  unfold word at read
  split at read
  · obtain rfl := Except.ok.inj read
    trivial
  · exact longWord_known read
  · obtain rfl := Except.ok.inj read
    exact strangeWord_known options text
  · obtain rfl := Except.ok.inj read
    trivial

/-- All words of arguments are known. -/
theorem words_known {options : List OptionForm} {texts : List String}
    {found : List (String × Word)} (read : words options texts = .ok found) :
    ∀ entry ∈ found, entry.2.Known options := by
  induction texts generalizing found with
  | nil =>
    obtain rfl := Except.ok.inj read
    simp
  | cons text texts inductionHypothesis =>
    rw [words] at read
    split at read
    · obtain rfl := Except.ok.inj read
      rintro entry member
      rcases List.mem_cons.mp member with rfl | operand
      · trivial
      · obtain ⟨other, _, rfl⟩ := List.mem_map.mp operand
        trivial
    · obtain ⟨first, firstRead, rest⟩ := ok_of_bind read
      obtain ⟨others, othersRead, same⟩ := ok_of_bind rest
      obtain rfl := Except.ok.inj same
      rintro entry member
      rcases List.mem_cons.mp member with rfl | later
      · exact word_known firstRead
      · exact inductionHypothesis othersRead entry later

namespace Reading.Accepted

variable {options : List OptionForm}

/-- A reading without values is accepted. -/
theorem none {reading : Reading} (empty : reading.values = []) : reading.Accepted options := by
  intro name value member
  rw [empty] at member
  cases member

/-- A reading with the same values as an accepted one is accepted. -/
theorem same {reading other : Reading} (accepted : reading.Accepted options)
    (equal : other.values = reading.values) : other.Accepted options := by
  intro name value member
  exact accepted name value (equal ▸ member)

/-- The value of an option is accepted together with what follows it, if the option accepts
it. -/
theorem takeValue {form : OptionForm} (known : form ∈ options) {value : String}
    {rest : Except Stop Reading} {reading : Reading}
    (follows : ∀ later, rest = .ok later → later.Accepted options)
    (taken : takeValue form value rest = .ok reading) : reading.Accepted options := by
  unfold CommandLine.takeValue at taken
  split at taken
  · rename_i accepts
    obtain ⟨later, done, rfl⟩ := ok_of_map taken
    intro name given member
    rcases List.mem_cons.mp member with same | behind
    · obtain ⟨rfl, equal⟩ := Prod.mk.inj same
      obtain rfl := Option.some.inj equal
      exact ⟨form, known, rfl, accepts⟩
    · exact follows later done name given behind
  · cases taken

/-- An attached value is accepted together with what follows it. A separator is no value. -/
theorem takeAttached {form : OptionForm} (known : form ∈ options) {value : String}
    {rest : Except Stop Reading} {reading : Reading}
    (follows : ∀ later, rest = .ok later → later.Accepted options)
    (taken : takeAttached form value rest = .ok reading) : reading.Accepted options := by
  unfold CommandLine.takeAttached at taken
  split at taken
  · obtain ⟨later, done, rfl⟩ := ok_of_map taken
    intro name given member
    rcases List.mem_cons.mp member with same | behind
    · cases (Prod.mk.inj same).2
    · exact follows later done name given behind
  · exact takeValue known follows taken

end Reading.Accepted

/-- What known words come to is accepted. Proof: by induction along the words, as they are
taken; a word either adds no value, or one that its option is asked about. -/
theorem readWords_accepted {options : List OptionForm} {operand : OperandForm}
    {found : List (String × Word)} {reading : Reading}
    (known : ∀ entry ∈ found, entry.2.Known options)
    (read : readWords operand found = .ok reading) : reading.Accepted options := by
  fun_induction readWords operand found generalizing reading with
  -- the words are refused, so there is no reading
  | case1 | case3 | case7 | case14 | case16 => cases read
  -- nothing is left that could have a value
  | case2 | case9 | case13 | case15 =>
    obtain rfl := Except.ok.inj read
    exact .none rfl
  -- an operand or a surplus word has no value of its own
  | case4 _ _ _ inductionHypothesis | case8 _ _ _ inductionHypothesis
  | case10 _ _ _ _ _ _ _ inductionHypothesis | case11 _ _ _ _ _ _ _ inductionHypothesis
  | case12 _ _ inductionHypothesis | case17 _ _ _ _ _ _ _ inductionHypothesis
  | case18 _ _ _ _ _ _ _ inductionHypothesis =>
    obtain ⟨later, done, rfl⟩ := ok_of_map read
    exact (inductionHypothesis (fun entry member => known entry (by simp [member])) done).same rfl
  -- an option, with its value attached or in the next word
  | case5 _ _ form _ _ inductionHypothesis =>
    have listed : form ∈ options := known _ List.mem_cons_self
    exact .takeAttached listed (fun later done =>
      inductionHypothesis (fun entry member => known entry (by simp [member])) done) read
  | case6 _ _ form _ _ _ inductionHypothesis =>
    have listed : form ∈ options := known _ List.mem_cons_self
    exact .takeValue listed (fun later done =>
      inductionHypothesis (fun entry member => known entry (by simp [member])) done) read

/-- A reading holds only values that an option of the command with their name accepts. -/
theorem Form.read_accepted {form : Form} {arguments : List String} {reading : Reading}
    (read : form.read arguments = .ok reading) : reading.Accepted form.options := by
  obtain ⟨found, split, taken⟩ := ok_of_bind read
  exact readWords_accepted (words_known split) taken

/-- The value of an option that was given last is accepted by an option with the name. -/
theorem Reading.Accepted.last {options : List OptionForm} {reading : Reading}
    (accepted : reading.Accepted options) {name value : String}
    (given : reading.last? name = some (some value)) :
    ∃ form ∈ options, form.name = name ∧ form.accepts value = true := by
  obtain ⟨⟨other, _⟩, member, rfl⟩ := List.mem_map.mp (List.mem_of_getLast? given)
  obtain ⟨present, same⟩ := List.mem_filter.mp member
  obtain rfl : other = name := by simpa using same
  exact accepted other value present

end InfraReview.CommandLine
