import LineEditor.Text.Lines

/-! How a stored text falls apart into terminated lines and a tail. There is exactly one way, it is the
one that loading finds, and a terminator is among the parts exactly if it can be seen in the text. -/
namespace LineEditor

/-- The terminator stands somewhere in a text. The two characters of CRLF count for nothing alone. -/
def LineEnding.OccursIn (ending : LineEnding) (text : List Char) : Prop :=
  ∃ front back, text = front ++ ending.chars ++ back ∧
    (ending = .lf → front.getLast? ≠ some '\r') ∧ (ending = .cr → back.head? ≠ some '\n')

namespace Text

def Unbroken (line : List Char) : Prop := ∀ c ∈ line, c ≠ '\n' ∧ c ≠ '\r'

instance (line : List Char) : Decidable (Unbroken line) :=
  line.decidableBAll fun c => c ≠ '\n' ∧ c ≠ '\r'

/-- A text consists of lines with their terminators and a tail. A CR ends a line alone only if no LF
follows. -/
inductive Apart : List Char → List (List Char × LineEnding) → List Char → Prop where
  | last : Unbroken tail → Apart tail [] tail
  | line : Unbroken line → (ending = .cr → rest.head? ≠ some '\n') → Apart rest parts tail →
      Apart (line ++ ending.chars ++ rest) ((line, ending) :: parts) tail

theorem cut_cons (found : cut text = (parts, tail)) :
    cut (c :: text) = cutStep c (parts, tail) := by
  rw [← found]
  rfl

theorem cut_plain (plain : c ≠ '\n' ∧ c ≠ '\r') (found : cut text = ((line, ending) :: later, tail)) :
    cut (c :: text) = ((c :: line, ending) :: later, tail) := by
  simp [cut_cons found, cutStep, plain]

theorem cut_plain_last (plain : c ≠ '\n' ∧ c ≠ '\r') (found : cut text = ([], tail)) :
    cut (c :: text) = ([], c :: tail) := by
  simp [cut_cons found, cutStep, plain]

theorem cut_last (unbroken : Unbroken tail) : cut tail = ([], tail) := by
  induction tail with
  | nil => rfl
  | cons c tail ih =>
    obtain ⟨plain, later⟩ := List.forall_mem_cons.mp unbroken
    exact cut_plain_last plain (ih later)

/-- Only an LF makes an empty line that is ended by LF. -/
theorem head_of_cut (found : cut text = (([], .lf) :: later, tail)) : text.head? = some '\n' := by
  cases text with
  | nil => cases found
  | cons c text =>
    by_cases feed : c = '\n'
    · rw [feed]
      rfl
    · rw [cut_cons rfl, cutStep.eq_def] at found
      dsimp only at found
      rw [if_neg feed] at found
      split at found <;> split at found <;> cases found

theorem cut_return (alone : text.head? ≠ some '\n') (found : cut text = (parts, tail)) :
    cut ('\r' :: text) = (([], .cr) :: parts, tail) := by
  rw [cut_cons found, cutStep.eq_def]
  dsimp only
  rw [if_neg (by decide), if_pos rfl]
  split
  · exact (alone (head_of_cut found)).elim
  · rfl

theorem cut_line (unbroken : Unbroken line) (alone : ending = .cr → rest.head? ≠ some '\n') :
    cut (line ++ ending.chars ++ rest) = ((line, ending) :: (cut rest).1, (cut rest).2) := by
  induction line with
  | nil =>
    cases ending with
    | lf => rfl
    | crlf => rfl
    | cr => exact cut_return (alone rfl) rfl
  | cons c line ih =>
    obtain ⟨plain, later⟩ := List.forall_mem_cons.mp unbroken
    exact cut_plain plain (ih later)

variable {text rest line tail tail' : List Char} {parts parts' : List (List Char × LineEnding)}

namespace Apart

theorem cut_eq (apart : Apart text parts tail) : cut text = (parts, tail) := by
  induction apart with
  | last unbroken => exact cut_last unbroken
  | line unbroken alone _ ih => rw [cut_line unbroken alone, ih]

theorem unique (apart : Apart text parts tail) (other : Apart text parts' tail') :
    parts = parts' ∧ tail = tail' :=
  Prod.mk.inj (apart.cut_eq.symm.trans other.cut_eq)

/-- One more character in front of a text joins its first line. -/
theorem cons (plain : c ≠ '\n' ∧ c ≠ '\r') (apart : Apart text parts tail) :
    ∃ parts tail, Apart (c :: text) parts tail := by
  have grows {line : List Char} (unbroken : Unbroken line) : Unbroken (c :: line) :=
    List.forall_mem_cons.mpr ⟨plain, unbroken⟩
  cases apart with
  | last unbroken => exact ⟨_, _, .last (grows unbroken)⟩
  | line unbroken alone later => exact ⟨_, _, .line (grows unbroken) alone later⟩

/-- A terminator in front of a text is an empty line. -/
theorem blank (ending : LineEnding) (alone : ending = .cr → text.head? ≠ some '\n')
    (apart : Apart text parts tail) : Apart (ending.chars ++ text) (([], ending) :: parts) tail :=
  .line (List.forall_mem_nil _) alone apart

end Apart

/-- A CR in front of an LF takes it away from the rest of the text, so the induction needs to know how
the text falls apart without its first character too. -/
theorem exists_apart_tail (text : List Char) :
    (∃ parts tail, Apart text parts tail) ∧ ∃ parts tail, Apart text.tail parts tail := by
  induction text with
  | nil => exact ⟨⟨_, _, .last (List.forall_mem_nil _)⟩, _, _, .last (List.forall_mem_nil _)⟩
  | cons c text ih =>
    obtain ⟨⟨parts, tail, apart⟩, _, _, behind⟩ := ih
    refine ⟨?_, parts, tail, apart⟩
    by_cases feed : c = '\n'
    · subst feed
      exact ⟨_, _, apart.blank .lf nofun⟩
    by_cases ret : c = '\r'
    · subst ret
      by_cases joined : text.head? = some '\n'
      · obtain ⟨rest, rfl⟩ := List.head?_eq_some_iff.mp joined
        exact ⟨_, _, behind.blank .crlf nofun⟩
      · exact ⟨_, _, apart.blank .cr fun _ => joined⟩
    · exact apart.cons ⟨feed, ret⟩

theorem exists_apart (text : List Char) : ∃ parts tail, Apart text parts tail :=
  (exists_apart_tail text).1

namespace Apart

theorem text_eq (apart : Apart text parts tail) :
    text = parts.flatMap (fun part => part.1 ++ part.2.chars) ++ tail := by
  induction apart with
  | last _ => rfl
  | @line line ending rest parts tail _ _ _ ih =>
    rw [List.flatMap_cons, List.append_assoc _ _ tail, ← ih]

theorem unbroken (apart : Apart text parts tail) :
    (∀ part ∈ parts, Unbroken part.1) ∧ Unbroken tail := by
  induction apart with
  | last unbroken => exact ⟨List.forall_mem_nil _, unbroken⟩
  | line unbroken _ _ ih => exact ⟨List.forall_mem_cons.mpr ⟨unbroken, ih.1⟩, ih.2⟩

/-- Texts that meet at a terminator fall apart there, if neither an LF behind the text in front nor one at the
head of the other joins a CR. -/
theorem join (apart : Apart text parts tail) (ending : LineEnding)
    (feed : ending = .lf → text.getLast? ≠ some '\r') (ret : ending = .cr → rest.head? ≠ some '\n')
    (behind : Apart rest parts' tail') :
    Apart (text ++ ending.chars ++ rest) (parts ++ (tail, ending) :: parts') tail' := by
  induction apart with
  | last unbroken => exact .line unbroken ret behind
  | @line line own later parts tail unbroken alone apart ih =>
    have laterFeed : ending = .lf → later.getLast? ≠ some '\r' := by
      intro lf
      cases later with
      | nil => nofun
      | cons c later => simpa [List.getLast?_append] using feed lf
    have laterAlone : own = .cr → (later ++ ending.chars ++ rest).head? ≠ some '\n' := by
      intro cr
      cases later with
      | cons c later => exact alone cr
      | nil =>
        subst cr
        cases ending with
        | lf => simp [LineEnding.chars] at feed
        | crlf => simp [LineEnding.chars]
        | cr => simp [LineEnding.chars]
    have whole := Apart.line unbroken laterAlone (ih laterFeed)
    simpa only [List.append_assoc, List.cons_append] using whole

theorem occursIn_of_mem (apart : Apart text parts tail) (member : ending ∈ parts.map (·.2)) :
    ending.OccursIn text := by
  induction apart with
  | last _ => contradiction
  | @line line own rest parts tail unbroken alone apart ih =>
    rcases List.mem_cons.mp member with rfl | later
    · refine ⟨line, rest, rfl, fun _ last => ?_, alone⟩
      exact (unbroken '\r' (List.mem_of_getLast? last)).2 rfl
    · obtain ⟨front, back, rfl, feed, ret⟩ := ih later
      refine ⟨line ++ own.chars ++ front, back, by simp only [List.append_assoc], ?_, ret⟩
      intro lf last
      cases front with
      | cons c front => exact feed lf (by simpa [List.getLast?_append] using last)
      | nil =>
        subst lf
        cases own with
        | cr => exact alone rfl rfl
        | lf => simp [LineEnding.chars] at last
        | crlf => simp [LineEnding.chars] at last

/-- The terminators found are those that can be seen in the text. -/
theorem occursIn_iff (apart : Apart text parts tail) :
    ending.OccursIn text ↔ ending ∈ parts.map (·.2) := by
  constructor
  · rintro ⟨front, back, rfl, feed, ret⟩
    obtain ⟨frontParts, frontTail, before⟩ := exists_apart front
    obtain ⟨backParts, backTail, behind⟩ := exists_apart back
    obtain ⟨rfl, -⟩ := apart.unique (before.join ending feed ret behind)
    simp
  · exact apart.occursIn_of_mem

end Apart

/-- Lines that are put together with one terminator fall apart as they were. -/
theorem apart_lines (ending : LineEnding) {lines : List (List Char)}
    (unbroken : ∀ line ∈ lines, Unbroken line) :
    Apart (lines.flatMap (· ++ ending.chars)) (lines.map (·, ending)) [] := by
  induction lines with
  | nil => exact .last (List.forall_mem_nil _)
  | cons line lines ih =>
    obtain ⟨here, later⟩ := List.forall_mem_cons.mp unbroken
    refine .line here ?_ (ih later)
    intro cr head
    subst cr
    cases lines with
    | nil => contradiction
    | cons next lines =>
      have first := later next List.mem_cons_self
      cases next with
      | nil => simp [LineEnding.chars] at head
      | cons c next =>
        have plain := first c List.mem_cons_self
        simp [plain.1] at head

end Text
end LineEditor
