import LineEditor.Execute

/-! Command lines written for given words. A text in single quotes is read back as it is, whatever its
characters are, and a character that means nothing to the reader of words stands for itself. -/
namespace LineEditor
namespace Words

/-- A character as it is written in quotes: a quote closes them, stands behind a backslash and opens
them again. -/
def quoted (c : Char) : List Char :=
  if c = '\'' then ['\'', '\\', '\'', '\''] else [c]

def quote (text : List Char) : List Char :=
  '\'' :: (text.flatMap quoted ++ ['\''])

structure Plain (c : Char) : Prop where
  visible : Text.isBlank c = false
  notSingle : c ≠ '\''
  notDouble : c ≠ '"'
  notBackslash : c ≠ '\\'

instance : DecidablePred Plain := fun c =>
  decidable_of_iff (Text.isBlank c = false ∧ c ≠ '\'' ∧ c ≠ '"' ∧ c ≠ '\\')
    ⟨fun ⟨visible, notSingle, notDouble, notBackslash⟩ =>
      ⟨visible, notSingle, notDouble, notBackslash⟩,
    fun plain => ⟨plain.visible, plain.notSingle, plain.notDouble, plain.notBackslash⟩⟩

variable {letters rest : List Char} {done : List (List Char)}

/-- Outside quotes every character but a backslash means the same wherever it stands. -/
theorem read_outside {place : Place} (outside : place = .gap ∨ place = .word) (unescaped : c ≠ '\\') :
    read place letters done (c :: rest) =
      if Text.isBlank c then read .gap [] (close place letters done) rest
      else if c = '\'' then read .single letters done rest
      else if c = '"' then read .double letters done rest
      else read .word (c :: letters) done rest := by
  rw [read.eq_def]
  rcases outside with rfl | rfl <;> split <;> simp_all

theorem read_single :
    read .single letters done (c :: rest) =
      if c = '\'' then read .word letters done rest else read .single (c :: letters) done rest :=
  rfl

/-- Wherever a word may begin or go on, the reader takes this text for these letters of it. -/
def Spells (text word : List Char) : Prop :=
  ∀ place letters done rest, place = .gap ∨ place = .word →
    read place letters done (text ++ rest) = read .word (word.reverse ++ letters) done rest

theorem Spells.append (front : Spells text word) (back : Spells text' word') :
    Spells (text ++ text') (word ++ word') := by
  intro place letters done rest outside
  rw [List.append_assoc, front place letters done (text' ++ rest) outside,
    back .word (word.reverse ++ letters) done rest (.inr rfl), List.reverse_append, List.append_assoc]

theorem spells_plain (plain : Plain c) : Spells [c] [c] := by
  obtain ⟨visible, notSingle, notDouble, notBackslash⟩ := plain
  intro place letters done rest outside
  rw [List.singleton_append, read_outside outside notBackslash]
  simp [visible, notSingle, notDouble]

theorem spells_self (text : List Char) (plain : (c :: text).all (Plain ·) = true) :
    Spells (c :: text) (c :: text) := by
  induction text generalizing c with
  | nil => exact spells_plain (by simpa using plain)
  | cons d text ih =>
    rw [List.all_cons, Bool.and_eq_true, decide_eq_true_iff] at plain
    exact (spells_plain plain.1).append (ih plain.2)

theorem read_quoted (text letters rest : List Char) (done : List (List Char)) :
    read .single letters done (text.flatMap quoted ++ rest) =
      read .single (text.reverse ++ letters) done rest := by
  induction text generalizing letters with
  | nil => rfl
  | cons c text ih =>
    have next : read .single letters done (quoted c ++ (text.flatMap quoted ++ rest)) =
        read .single (c :: letters) done (text.flatMap quoted ++ rest) := by
      by_cases quote : c = '\''
      · subst quote
        rfl
      · simp [quoted, quote, read_single]
    rw [List.flatMap_cons, List.append_assoc, next, ih, List.reverse_cons, List.append_assoc]
    rfl

theorem spells_quote (text : List Char) : Spells (quote text) text := by
  intro place letters done rest outside
  have opening : read place letters done (quote text ++ rest) =
      read .single letters done (text.flatMap quoted ++ ('\'' :: rest)) := by
    rw [quote, List.cons_append, List.append_assoc]
    rcases outside with rfl | rfl <;> rfl
  rw [opening, read_quoted]
  rfl

/-- White space behind a word ends it. -/
theorem Spells.read_blank (spells : Spells text word) (blank : Text.isBlank c = true)
    (done : List (List Char)) (rest : List Char) :
    read .gap [] done (text ++ c :: rest) = read .gap [] (word :: done) rest := by
  have unescaped : c ≠ '\\' := by
    rintro rfl
    contradiction
  rw [spells .gap [] done (c :: rest) (.inl rfl), read_outside (.inr rfl) unescaped, if_pos blank]
  simp [close]

theorem Spells.read_end (spells : Spells text word) (done : List (List Char)) :
    read .gap [] done text = .ok (done.reverse ++ [word]) := by
  have last := spells .gap [] done [] (.inl rfl)
  have finish (letters : List Char) : read .word letters done [] = .ok (letters.reverse :: done).reverse :=
    rfl
  rw [List.append_nil, List.append_nil] at last
  rw [last, finish, List.reverse_reverse, List.reverse_cons]

end Words

/-- Behind `--` a text in quotes is the only argument, even if it begins like an option. -/
theorem words_quote (spells : Words.Spells name word) (text : List Char) :
    words (name ++ ' ' :: '-' :: '-' :: ' ' :: Words.quote text) =
      .ok [String.ofList word, "--", String.ofList text] := by
  have dash : Words.Plain '-' := by decide
  have dashes := (Words.spells_plain dash).append (Words.spells_plain dash)
  have blank : Text.isBlank ' ' = true := rfl
  rw [words, spells.read_blank blank]
  have behind := dashes.read_blank blank [word] (Words.quote text)
  rw [List.singleton_append, List.cons_append, List.singleton_append] at behind
  rw [behind, (Words.spells_quote text).read_end]
  rfl

end LineEditor
