import LineEditor.Session

/-! How the input of a session falls into command texts. The bytes are cut behind each line feed, and a
piece says the text that is left of it without line feeds and carriage returns at its end. -/
namespace LineEditor

/-- Bytes are cut into lines with their line feeds, and a last piece without one. -/
inductive Cut : List UInt8 → List (List UInt8) → Prop where
  | nothing : Cut [] []
  | last : piece ≠ [] → 10 ∉ piece → Cut piece [piece]
  | line : 10 ∉ line → Cut rest later → Cut (line ++ 10 :: rest) ((line ++ [10]) :: later)

def IsLineEnd (c : Char) : Prop := c = '\n' ∨ c = '\r'

/-- A piece is a text with nothing but line ends behind it. -/
def Says (piece : List UInt8) (text : String) : Prop :=
  ∃ ending : String, (∀ c ∈ ending.toList, IsLineEnd c) ∧ (∀ c ∈ text.toList.getLast?, ¬ IsLineEnd c) ∧
    (text ++ ending).toUTF8.data.toList = piece

theorem pieces_feed (input : List UInt8) : pieces (10 :: input) = [10] :: pieces input := rfl

theorem pieces_cons_of_nil (other : byte ≠ 10) (nothing : pieces input = []) :
    pieces (byte :: input) = [[byte]] := by
  unfold pieces at nothing ⊢
  rw [List.foldr_cons, nothing, if_neg other]

theorem pieces_cons_of_cons (other : byte ≠ 10) (found : pieces input = piece :: later) :
    pieces (byte :: input) = (byte :: piece) :: later := by
  unfold pieces at found ⊢
  rw [List.foldr_cons, found, if_neg other]

theorem pieces_of_last (piece : List UInt8) (nonempty : piece ≠ []) (unbroken : 10 ∉ piece) :
    pieces piece = [piece] := by
  induction piece with
  | nil => exact (nonempty rfl).elim
  | cons byte piece ih =>
    obtain ⟨feed, unbroken⟩ := List.ne_and_not_mem_of_not_mem_cons unbroken
    cases piece with
    | nil => exact pieces_cons_of_nil feed.symm rfl
    | cons next piece =>
      exact pieces_cons_of_cons feed.symm (ih (List.cons_ne_nil next piece) unbroken)

theorem pieces_of_line (line rest : List UInt8) (unbroken : 10 ∉ line) :
    pieces (line ++ 10 :: rest) = (line ++ [10]) :: pieces rest := by
  induction line with
  | nil => exact pieces_feed rest
  | cons byte line ih =>
    obtain ⟨feed, unbroken⟩ := List.ne_and_not_mem_of_not_mem_cons unbroken
    exact pieces_cons_of_cons feed.symm (ih unbroken)

namespace Cut

theorem exists_cut (input : List UInt8) : ∃ parts, Cut input parts := by
  induction input with
  | nil => exact ⟨[], .nothing⟩
  | cons byte input ih =>
    obtain ⟨parts, cut⟩ := ih
    by_cases feed : 10 = byte
    · subst feed
      have unbroken : (10 : UInt8) ∉ [] := List.not_mem_nil
      exact ⟨_, .line unbroken cut⟩
    · have grows (line : List UInt8) (unbroken : 10 ∉ line) : 10 ∉ byte :: line :=
        List.not_mem_cons_of_ne_of_not_mem feed unbroken
      cases cut with
      | nothing => exact ⟨_, .last (List.cons_ne_nil byte []) (grows [] List.not_mem_nil)⟩
      | last _ unbroken => exact ⟨_, .last (List.cons_ne_nil byte input) (grows input unbroken)⟩
      | line unbroken rest => exact ⟨_, .line (grows _ unbroken) rest⟩

/-- There is one way to cut, and it is the one that sessions cut their input. -/
theorem eq_pieces (cut : Cut input parts) : parts = pieces input := by
  induction cut with
  | nothing => rfl
  | last nonempty unbroken => exact (pieces_of_last _ nonempty unbroken).symm
  | line unbroken _ ih => rw [pieces_of_line _ _ unbroken, ih]

theorem of_pieces (input : List UInt8) : Cut input (pieces input) := by
  obtain ⟨parts, cut⟩ := exists_cut input
  rwa [← cut.eq_pieces]

end Cut

theorem dropLineEnd_append (text ending : List Char) (ends : ∀ c ∈ ending, IsLineEnd c)
    (stops : ∀ c ∈ text.getLast?, ¬ IsLineEnd c) : dropLineEnd (text ++ ending) = text := by
  have all : ∀ c ∈ ending.reverse, (c == '\n' || c == '\r') = true := by
    intro c member
    have := ends c (List.mem_reverse.mp member)
    simpa [IsLineEnd] using this
  rw [dropLineEnd, List.reverse_append, List.dropWhile_append_of_pos all]
  have last : text.reverse.dropWhile (fun c => c == '\n' || c == '\r') = text.reverse := by
    cases reversed : text.reverse with
    | nil => rfl
    | cons c front =>
      have final : c ∈ text.getLast? := by
        rw [← List.head?_reverse, reversed]
        rfl
      have stop := stops c final
      rw [List.dropWhile_cons_of_neg]
      simpa [IsLineEnd] using stop
  rw [last, List.reverse_reverse]

theorem dropLineEnd_spec (text : List Char) :
    ∃ ending, text = dropLineEnd text ++ ending ∧ (∀ c ∈ ending, IsLineEnd c) ∧
      ∀ c ∈ (dropLineEnd text).getLast?, ¬ IsLineEnd c := by
  refine ⟨(text.reverse.takeWhile fun c => c == '\n' || c == '\r').reverse, ?_, ?_, ?_⟩
  · rw [dropLineEnd, ← List.reverse_append, List.takeWhile_append_dropWhile, List.reverse_reverse]
  · intro c member
    have ends := List.all_eq_true.mp List.all_takeWhile c (List.mem_reverse.mp member)
    simpa [IsLineEnd] using ends
  · intro c final
    rw [dropLineEnd, List.getLast?_reverse] at final
    have stop := List.head?_dropWhile_not (fun c => c == '\n' || c == '\r') text.reverse
    rw [Option.mem_def.mp final] at stop
    simpa [IsLineEnd] using stop

theorem fromUTF8?_eq_some_iff (bytes : ByteArray) :
    String.fromUTF8? bytes = some text ↔ text.toUTF8 = bytes := by
  unfold String.fromUTF8?
  constructor
  · intro found
    split at found
    · cases found
      rfl
    · contradiction
  · rintro rfl
    exact dif_pos text.isValidUTF8

theorem commandText?_eq_none_iff :
    commandText? piece = none ↔ ∀ text : String, text.toUTF8.data.toList ≠ piece := by
  constructor
  · intro absent text same
    have found : String.fromUTF8? ⟨piece.toArray⟩ = some text :=
      (fromUTF8?_eq_some_iff _).mpr (by rw [← same])
    rw [commandText?, found] at absent
    contradiction
  · intro foreign
    rw [commandText?, Option.map_eq_none_iff, Option.eq_none_iff_forall_not_mem]
    intro text found
    have bytes := (fromUTF8?_eq_some_iff _).mp found
    exact foreign text (by rw [bytes])

/-- A session reads out of a piece what the piece says. -/
theorem commandText?_eq_some_iff : commandText? piece = some text ↔ Says piece text := by
  constructor
  · intro found
    obtain ⟨whole, decoded, rfl⟩ := Option.map_eq_some_iff.mp found
    have bytes := (fromUTF8?_eq_some_iff _).mp decoded
    obtain ⟨ending, split, ends, stops⟩ := dropLineEnd_spec whole.toList
    refine ⟨String.ofList ending, ?_, ?_, ?_⟩
    · rwa [String.toList_ofList]
    · rwa [String.toList_ofList]
    · rw [← String.ofList_append, ← split, String.ofList_toList, bytes]
  · rintro ⟨ending, ends, stops, rfl⟩
    have decoded : String.fromUTF8? ⟨(text ++ ending).toUTF8.data.toList.toArray⟩ = some (text ++ ending) :=
      (fromUTF8?_eq_some_iff _).mpr rfl
    rw [commandText?, decoded, Option.map_some, String.toList_append,
      dropLineEnd_append _ _ ends stops, String.ofList_toList]

end LineEditor
