import LineEditor.Proofs.Quoting

/-! The grammar of command texts. A word is made of plain characters, escaped ones and quoted parts that
touch; a sentence is words with white space between and around them. The reader finds the words of
sentences, and of every other text it says how it breaks off. -/
namespace LineEditor.Words

/-- A text between double quotes and what it stands for. Every backslash in it goes together with the
character behind it. -/
inductive Paired : List Char → List Char → Prop where
  | nil : Paired [] []
  | letter : c ≠ '"' → c ≠ '\\' → Paired text value → Paired (c :: text) (c :: value)
  | escaped : c = '"' ∨ c = '\\' → Paired text value → Paired ('\\' :: c :: text) (c :: value)
  | kept : c ≠ '"' → c ≠ '\\' → Paired text value → Paired ('\\' :: c :: text) ('\\' :: c :: value)

inductive Segment : List Char → List Char → Prop where
  | plain : Plain c → Segment [c] [c]
  | escaped (c : Char) : Segment ['\\', c] [c]
  | single : '\'' ∉ content → Segment ('\'' :: (content ++ ['\''])) content
  | double : Paired content value → Segment ('"' :: (content ++ ['"'])) value

inductive IsWord : List Char → List Char → Prop where
  | last : Segment text value → IsWord text value
  | more : Segment text value → IsWord rest later → IsWord (text ++ rest) (value ++ later)

/-- Words and what they stand for, in order. White space may stand anywhere between them, and has to
stand behind every word but the last. -/
inductive Sentence : List Char → List (List Char) → Prop where
  | nil : Sentence [] []
  | blank : Text.isBlank c = true → Sentence text found → Sentence (c :: text) found
  | word : IsWord text value → (∀ c ∈ rest.head?, Text.isBlank c = true) → Sentence rest found →
      Sentence (text ++ rest) (value :: found)

/-- A text that breaks off behind a sentence, inside quotes or after a backslash, and what it lacks. -/
inductive Unfinished : List Char → WordError → Prop where
  | single : Sentence front found → '\'' ∉ content →
      Unfinished (front ++ '\'' :: content) .singleQuote
  | double : Sentence front found → Paired content value →
      Unfinished (front ++ '"' :: content) .doubleQuote
  | doubleEscape : Sentence front found → Paired content value →
      Unfinished (front ++ '"' :: (content ++ ['\\'])) .doubleQuote
  | escape : Sentence front found → Unfinished (front ++ ['\\']) .escapedCharacter

/-- Behind an opening double quote there is a closing one, or the text ends before it, or right after
a backslash. -/
inductive Opened : List Char → Prop where
  | closed : Paired content value → Opened (content ++ '"' :: rest)
  | broken : Paired content value → Opened content
  | brokenEscape : Paired content value → Opened (content ++ ['\\'])

variable {text rest content value letters : List Char} {found done : List (List Char)} {c : Char}

/-! ### What the reader makes of the grammar -/

theorem read_double (unescaped : c ≠ '\\') :
    read .double letters done (c :: rest) =
      if c = '"' then read .word letters done rest else read .double (c :: letters) done rest := by
  rw [read.eq_def]
  split <;> simp_all

theorem read_double_escape :
    read .double letters done ('\\' :: c :: rest) =
      if c = '"' ∨ c = '\\' then read .double (c :: letters) done rest
      else read .double (c :: '\\' :: letters) done rest :=
  rfl

theorem read_single_content (unquoted : '\'' ∉ content) (letters : List Char)
    (done : List (List Char)) (rest : List Char) :
    read .single letters done (content ++ rest) =
      read .single (content.reverse ++ letters) done rest := by
  induction content generalizing letters with
  | nil => rfl
  | cons c content ih =>
    obtain ⟨other, unquoted⟩ := List.ne_and_not_mem_of_not_mem_cons unquoted
    rw [List.cons_append, read_single, if_neg other.symm, ih unquoted, List.reverse_cons,
      List.append_assoc]
    rfl

theorem Paired.read (paired : Paired content value) (letters : List Char) (done : List (List Char))
    (rest : List Char) :
    Words.read .double letters done (content ++ rest) =
      Words.read .double (value.reverse ++ letters) done rest := by
  induction paired generalizing letters with
  | nil => rfl
  | letter unquoted unescaped _ ih =>
    rw [List.cons_append, read_double unescaped, if_neg unquoted, ih, List.reverse_cons,
      List.append_assoc]
    rfl
  | escaped special _ ih =>
    rw [List.cons_append, List.cons_append, read_double_escape, if_pos special, ih, List.reverse_cons,
      List.append_assoc]
    rfl
  | kept unquoted unescaped _ ih =>
    rw [List.cons_append, List.cons_append, read_double_escape,
      if_neg (not_or.mpr ⟨unquoted, unescaped⟩), ih, List.reverse_cons, List.reverse_cons,
      List.append_assoc, List.append_assoc]
    rfl

/-- The reader goes into quotes from wherever a word may begin or go on. -/
theorem read_open_single {place : Place} (outside : place = .gap ∨ place = .word) :
    read place letters done ('\'' :: rest) = read .single letters done rest := by
  rw [read_outside outside (by decide)]
  rfl

theorem read_open_double {place : Place} (outside : place = .gap ∨ place = .word) :
    read place letters done ('"' :: rest) = read .double letters done rest := by
  rw [read_outside outside (by decide)]
  rfl

theorem Segment.spells (segment : Segment text value) : Spells text value := by
  cases segment with
  | plain plain => exact spells_plain plain
  | escaped c =>
    intro place letters done rest outside
    rcases outside with rfl | rfl <;> rfl
  | single unquoted =>
    intro place letters done rest outside
    rw [List.cons_append, List.append_assoc, read_open_single outside, read_single_content unquoted]
    rfl
  | double paired =>
    intro place letters done rest outside
    rw [List.cons_append, List.append_assoc, read_open_double outside, paired.read]
    rfl

theorem IsWord.spells (word : IsWord text value) : Spells text value := by
  induction word with
  | last segment => exact segment.spells
  | more segment _ ih => exact segment.spells.append ih

theorem Segment.ne_nil (segment : Segment text value) : text ≠ [] := by
  cases segment <;> exact List.cons_ne_nil _ _

theorem IsWord.ne_nil (word : IsWord text value) : text ≠ [] := by
  cases word with
  | last segment => exact segment.ne_nil
  | more segment _ => exact List.append_ne_nil_of_left_ne_nil segment.ne_nil _

theorem Sentence.eq_nil (sentence : Sentence text found) (empty : text = []) : found = [] := by
  cases sentence with
  | nil => rfl
  | blank => contradiction
  | word word => exact (word.ne_nil (List.append_eq_nil_iff.mp empty).1).elim

theorem read_gap_blank (blank : Text.isBlank c = true) :
    read .gap [] done (c :: rest) = read .gap [] done rest := by
  have unescaped : c ≠ '\\' := by
    rintro rfl
    contradiction
  rw [read_outside (.inl rfl) unescaped, if_pos blank]
  rfl

/-- Behind a sentence the reader stands in a gap or in a word that may go on, and what it has
collected, with that word closed, is the words of the sentence. -/
theorem Sentence.read (sentence : Sentence text found) (done : List (List Char)) :
    ∃ place letters later, (place = .gap ∨ place = .word) ∧
      close place letters later = found.reverse ++ done ∧
      ∀ rest, Words.read .gap [] done (text ++ rest) = Words.read place letters later rest := by
  induction sentence generalizing done with
  | nil => exact ⟨.gap, [], done, .inl rfl, rfl, fun _ => rfl⟩
  | blank blank _ ih =>
    obtain ⟨place, letters, later, outside, closed, same⟩ := ih done
    exact ⟨place, letters, later, outside, closed, fun rest => (read_gap_blank blank).trans (same rest)⟩
  | @word text value behind found word blank sentence ih =>
    have spells := word.spells
    cases behind with
    | nil =>
      obtain rfl := sentence.eq_nil rfl
      refine ⟨.word, value.reverse, done, .inr rfl, ?_, fun rest => ?_⟩
      · simp [close]
      · rw [List.append_nil, spells .gap [] done rest (.inl rfl), List.append_nil]
    | cons c behind =>
      obtain ⟨place, letters, later, outside, closed, same⟩ := ih (value :: done)
      refine ⟨place, letters, later, outside, ?_, fun rest => ?_⟩
      · rw [closed]
        simp
      · have first := blank c rfl
        rw [List.append_assoc, List.cons_append, spells.read_blank first, ← read_gap_blank first,
          ← List.cons_append, same rest]

theorem Sentence.words_eq (sentence : Sentence text found) :
    words text = .ok (found.map String.ofList) := by
  obtain ⟨place, letters, later, outside, closed, same⟩ := sentence.read []
  have finish : Words.read place letters later [] = .ok (close place letters later).reverse := by
    rcases outside with rfl | rfl <;> rfl
  have whole := same []
  rw [List.append_nil, finish, closed, List.append_nil, List.reverse_reverse] at whole
  rw [words, whole]
  rfl

theorem Unfinished.words_eq {e : WordError} (unfinished : Unfinished text e) :
    words text = .error e := by
  suffices Words.read .gap [] [] text = .error e by
    rw [words, this]
    rfl
  cases unfinished with
  | single sentence unquoted =>
    obtain ⟨place, letters, later, outside, -, same⟩ := sentence.read []
    have broken := read_single_content unquoted letters later []
    rw [List.append_nil] at broken
    rw [same, read_open_single outside, broken]
    rfl
  | double sentence paired =>
    obtain ⟨place, letters, later, outside, -, same⟩ := sentence.read []
    have broken := paired.read letters later []
    rw [List.append_nil] at broken
    rw [same, read_open_double outside, broken]
    rfl
  | doubleEscape sentence paired =>
    obtain ⟨place, letters, later, outside, -, same⟩ := sentence.read []
    rw [same, read_open_double outside, paired.read]
    rfl
  | escape sentence =>
    obtain ⟨place, letters, later, outside, -, same⟩ := sentence.read []
    rw [same]
    rcases outside with rfl | rfl <;> rfl

/-! ### Every text is a sentence or breaks off -/

/-- A segment in front of a sentence begins a word of its own or goes on in the first one. -/
theorem Segment.sentence (segment : Segment text value) (sentence : Sentence rest found) :
    ∃ found, Sentence (text ++ rest) found := by
  cases sentence with
  | nil => exact ⟨_, .word (.last segment) nofun .nil⟩
  | @blank c text found blank sentence =>
    refine ⟨_, .word (.last segment) ?_ (.blank blank sentence)⟩
    intro d head
    cases head
    exact blank
  | word word blank sentence =>
    rw [← List.append_assoc]
    exact ⟨_, .word (.more segment word) blank sentence⟩

def Legible (text : List Char) : Prop := (∃ found, Sentence text found) ∨ ∃ e, Unfinished text e

/-- What can stand in front of every sentence can stand in front of every text that is legible. -/
theorem Legible.append {front : List Char}
    (grows : ∀ text found, Sentence text found → ∃ found, Sentence (front ++ text) found)
    (legible : Legible text) : Legible (front ++ text) := by
  rcases legible with ⟨found, sentence⟩ | ⟨e, unfinished⟩
  · exact .inl (grows text found sentence)
  · refine .inr ⟨e, ?_⟩
    cases unfinished with
    | single sentence unquoted =>
      obtain ⟨_, longer⟩ := grows _ _ sentence
      rw [← List.append_assoc]
      exact .single longer unquoted
    | double sentence paired =>
      obtain ⟨_, longer⟩ := grows _ _ sentence
      rw [← List.append_assoc]
      exact .double longer paired
    | doubleEscape sentence paired =>
      obtain ⟨_, longer⟩ := grows _ _ sentence
      rw [← List.append_assoc]
      exact .doubleEscape longer paired
    | escape sentence =>
      obtain ⟨_, longer⟩ := grows _ _ sentence
      rw [← List.append_assoc]
      exact .escape longer

/-- What is paired stays so behind a backslash and the character that it belongs to. -/
theorem Paired.escape (paired : Paired content value) (c : Char) :
    ∃ value, Paired ('\\' :: c :: content) value := by
  by_cases special : c = '"' ∨ c = '\\'
  · exact ⟨_, .escaped special paired⟩
  · obtain ⟨unquoted, unescaped⟩ := not_or.mp special
    exact ⟨_, .kept unquoted unescaped paired⟩

theorem Opened.escape (opened : Opened text) (c : Char) : Opened ('\\' :: c :: text) := by
  cases opened with
  | closed paired =>
    obtain ⟨_, longer⟩ := paired.escape c
    exact .closed longer
  | broken paired =>
    obtain ⟨_, longer⟩ := paired.escape c
    exact .broken longer
  | brokenEscape paired =>
    obtain ⟨_, longer⟩ := paired.escape c
    exact .brokenEscape longer

theorem Opened.letter (opened : Opened text) (unquoted : c ≠ '"') (unescaped : c ≠ '\\') :
    Opened (c :: text) := by
  cases opened with
  | closed paired => exact .closed (.letter unquoted unescaped paired)
  | broken paired => exact .broken (.letter unquoted unescaped paired)
  | brokenEscape paired => exact .brokenEscape (.letter unquoted unescaped paired)

theorem opened : (text : List Char) → Opened text
  | [] => .broken .nil
  | c :: text => by
    by_cases quote : c = '"'
    · subst quote
      exact .closed .nil
    · by_cases escape : c = '\\'
      · subst escape
        cases text with
        | nil => exact .brokenEscape .nil
        | cons d text => exact (opened text).escape d
      · exact (opened text).letter quote escape

theorem Segment.legible (segment : Segment text value) (behind : Legible rest) :
    Legible (text ++ rest) :=
  behind.append fun _ _ sentence => segment.sentence sentence

/-- The induction is on the length, since a segment may take many characters off the text. -/
theorem legible (text : List Char) : Legible text := by
  match text with
  | [] => exact .inl ⟨[], .nil⟩
  | c :: text =>
    by_cases blank : Text.isBlank c = true
    · have grows : ∀ text found, Sentence text found → ∃ found, Sentence ([c] ++ text) found :=
        fun _ _ sentence => ⟨_, .blank blank sentence⟩
      exact (legible text).append grows
    by_cases single : c = '\''
    · subst single
      by_cases closed : '\'' ∈ text
      · obtain ⟨content, rest, rfl, unquoted⟩ := List.eq_append_cons_of_mem closed
        have segment := Segment.single unquoted
        have whole := segment.legible (legible rest)
        rwa [List.cons_append, List.append_assoc] at whole
      · have broken : Unfinished ([] ++ '\'' :: text) _ := .single .nil closed
        exact .inr ⟨_, broken⟩
    by_cases double : c = '"'
    · subst double
      cases opened text with
      | @closed content value rest paired =>
        have whole := (Segment.double paired).legible (legible rest)
        rwa [List.cons_append, List.append_assoc] at whole
      | broken paired =>
        have broken : Unfinished ([] ++ '"' :: text) _ := .double .nil paired
        exact .inr ⟨_, broken⟩
      | @brokenEscape content value paired =>
        have broken : Unfinished ([] ++ '"' :: (content ++ ['\\'])) _ := .doubleEscape .nil paired
        exact .inr ⟨_, broken⟩
    by_cases escape : c = '\\'
    · subst escape
      cases text with
      | nil =>
        have broken : Unfinished ([] ++ ['\\']) _ := .escape .nil
        exact .inr ⟨_, broken⟩
      | cons d text => exact (Segment.escaped d).legible (legible text)
    · have plain : Plain c := ⟨by simpa using blank, single, double, escape⟩
      exact (Segment.plain plain).legible (legible text)
termination_by text.length

theorem words_eq_ok_iff {found : List String} :
    words text = .ok found ↔ Sentence text (found.map String.toList) := by
  constructor
  · intro read
    rcases legible text with ⟨own, sentence⟩ | ⟨e, unfinished⟩
    · rw [sentence.words_eq] at read
      have same : (own.map String.ofList).map String.toList = own := by simp [Function.comp_def]
      rwa [← Except.ok.inj read, same]
    · rw [unfinished.words_eq] at read
      contradiction
  · intro sentence
    have same : (found.map String.toList).map String.ofList = found := by simp [Function.comp_def]
    rw [sentence.words_eq, same]

theorem words_eq_error_iff {e : WordError} : words text = .error e ↔ Unfinished text e := by
  constructor
  · intro read
    rcases legible text with ⟨own, sentence⟩ | ⟨other, unfinished⟩
    · rw [sentence.words_eq] at read
      contradiction
    · rw [unfinished.words_eq] at read
      rwa [← Except.error.inj read]
  · exact Unfinished.words_eq

/-- Reading words is exactly the grammar. A text that is a sentence gives its words as they are meant,
and every other text is refused for what it lacks at its end. -/
theorem words_grammar (text : List Char) :
    (∀ found, words text = .ok found ↔ Sentence text (found.map String.toList)) ∧
    (∀ e, words text = .error e ↔ Unfinished text e) ∧
    WordError.singleQuote.message = "no closing quotation (')" ∧
    WordError.doubleQuote.message = "no closing quotation (\")" ∧
    WordError.escapedCharacter.message = "no character after escape" :=
  ⟨fun _ => words_eq_ok_iff, fun _ => words_eq_error_iff, rfl, rfl, rfl⟩

/-- Quoted parts that touch are one word, and empty quotes are a word too. -/
example : words "i a'b'\"c\\\"\\d\"  ''".toList = .ok ["i", "abc\"\\d", ""] := rfl

end LineEditor.Words
