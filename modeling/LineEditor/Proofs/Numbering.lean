import LineEditor.Config.Settings
import LineEditor.Proofs.Given
import LineEditor.Proofs.Looking
import LineEditor.Proofs.Typed

/-! Lines that are shown with their numbers. The numbers are those of the document at every depth, in a
column of the width that is asked for or set, and without them the same is shown as by `p`. -/
namespace LineEditor
open LineEditor.Action (effect)

namespace Commands

theorem padLeft_eq (width n : Nat) :
    padLeft width n = String.ofList ((Nat.toDigits 10 n).leftpad width ' ') := by
  have digits : (toString n).toList = Nat.toDigits 10 n := by
    rw [Nat.toString_eq_repr, Nat.toList_repr]
  apply String.toList_inj.mp
  simp only [padLeft, Options.spaces, String.toList_append, String.toList_ofList, digits,
    List.leftpad, ← String.length_toList]

theorem numbered_eq_mapIdx (width : Nat) (b : Buffer) (start : Nat) (lines : List String) :
    numbered width (b.numberAt start) lines = lines.mapIdx fun j line =>
      String.ofList ((Nat.toDigits 10 (b.numberAt (start + j)).toNat).leftpad width ' ') ++
        "\t" ++ line ++ "\n" := by
  induction lines generalizing start with
  | nil => rfl
  | cons line lines ih =>
    have later (j : Nat) : start + 1 + j = start + (j + 1) := by omega
    simp only [numbered, Buffer.numberAt_succ, ih, padLeft_eq, List.mapIdx_cons, Nat.add_zero, later]

theorem chosenWidth_some (catalogue : Catalogue) (w : Int) :
    chosenWidth catalogue (some w) = (max 1 (min 16 w)).toNat := by
  simp only [chosenWidth, Config.clampWidth, Config.minWidth, Config.maxWidth]
  omega

theorem effect_number (catalogue : Catalogue) (values : Options.Values) (desk : Desk) :
    effect (number.handler catalogue values) desk =
      desk.shown (String.join (numbered (chosenWidth catalogue (values.integer? "width"))
        desk.buffer.firstNumber desk.buffer.lines)) .proceed :=
  Action.effect_shown_pure (Action.effect_printAll _ desk) _

end Commands

def widthArguments (asked : Option Int) : List String :=
  asked.toList.map fun w => "--width=" ++ toString w

variable {registry : Registry} {command : List Char} {arguments : List String}

theorem effect_runCommand_number (own : registry.commands = (Registry.builtin.registerAll more).commands)
    (held : ∀ w ∈ asked, Number.Integer.min ≤ w ∧ w ≤ Number.Integer.max)
    (said : readCommand command = .ok ⟨"n", widthArguments asked⟩) (desk : Desk) :
    effect (runCommand registry 0 command) desk =
      desk.shown (String.join (Commands.numbered (Commands.chosenWidth registry.catalogue asked)
        desk.buffer.firstNumber desk.buffer.lines)) .proceed := by
  obtain ⟨c, found, compiled⟩ :=
    Registry.get?_of_mem_all own (d := Commands.number) (by simp [Commands.all])
  have found : registry.get? "n" = some c := found
  have understood : ∃ values, c.grammar.read (widthArguments asked) = .ok values ∧
      values.integer? "width" = asked := by
    cases compiled
    cases asked with
    | none => exact ⟨⟨[]⟩, rfl, rfl⟩
    | some w =>
      obtain ⟨least, greatest⟩ := held w rfl
      have width : Options.Kind.integer.Denotes (toString w) (.integer w) :=
        .integer (Number.Integer.written_toString w) least greatest
      exact ⟨_, Options.Grammar.read_attached _ _ _ (by decide) width, rfl⟩
  obtain ⟨values, read, width⟩ := understood
  have handler : c.handler = Commands.number.handler := (Definition.compile_eq_ok compiled).2
  rw [effect_runCommand_handled 0 desk said found read, handler, Commands.effect_number, width]

/-! ### Without the numbers -/

/-- What is left of a text if each of its lines loses everything up to its first tab. -/
def withoutNumbers (text : String) : String :=
  String.ofList (List.intercalate ['\n']
    ((Text.splitAt '\n' text.toList).map fun line => (line.dropWhile (· != '\t')).drop 1))

theorem not_mem_leftpad (n width : Nat) (number : ¬ c.isDigit) (other : c ≠ ' ') :
    c ∉ (Nat.toDigits 10 n).leftpad width ' ' := by
  intro member
  rcases List.mem_append.mp member with space | digit
  · exact other (List.eq_of_mem_replicate space)
  · exact number (Nat.isDigit_of_mem_toDigits (by decide) (by decide) digit)

theorem withoutNumbers_numbered (width : Nat) (first : UInt64) (lines : List String)
    (unbroken : ∀ line ∈ lines, '\n' ∉ line.toList) :
    (Text.splitAt '\n' (String.join (Commands.numbered width first lines)).toList).map
        (fun line => (line.dropWhile (· != '\t')).drop 1) =
      lines.map String.toList ++ [[]] := by
  induction lines generalizing first with
  | nil => rfl
  | cons line lines ih =>
    have number : '\n' ∉ (Nat.toDigits 10 first.toNat).leftpad width ' ' :=
      not_mem_leftpad first.toNat width (by decide) (by decide)
    have column : ∀ c ∈ (Nat.toDigits 10 first.toNat).leftpad width ' ', (c != '\t') = true := by
      intro c member
      rw [bne_iff_ne]
      rintro rfl
      exact not_mem_leftpad first.toNat width (by decide) (by decide) member
    have clean : '\n' ∉ (Nat.toDigits 10 first.toNat).leftpad width ' ' ++ '\t' :: line.toList := by
      simp only [List.mem_append, List.mem_cons, not_or]
      exact ⟨number, by decide, unbroken line List.mem_cons_self⟩
    have text : (String.join (Commands.numbered width first (line :: lines))).toList =
        ((Nat.toDigits 10 first.toNat).leftpad width ' ' ++ '\t' :: line.toList) ++ '\n' ::
          (String.join (Commands.numbered width (first + 1) lines)).toList := by
      simp [Commands.numbered, Commands.padLeft_eq]
    rw [text, Text.splitAt_append_cons clean, List.map_cons,
      ih (first + 1) fun other member => unbroken other (List.mem_cons_of_mem line member),
      List.dropWhile_append_of_pos column]
    rfl

theorem intercalate_lines (lines : List String) :
    List.intercalate ['\n'] (lines.map String.toList ++ [[]]) =
      (String.join (lines.map (· ++ "\n"))).toList := by
  induction lines with
  | nil => rfl
  | cons line lines ih =>
    have more : lines.map String.toList ++ [[]] ≠ [] := List.append_ne_nil_of_right_ne_nil _ nofun
    obtain ⟨next, later, split⟩ := List.exists_cons_of_ne_nil more
    rw [List.map_cons, List.cons_append, split, List.intercalate_cons_cons, ← split, ih]
    simp

/-- A command in front of which ranges stand shows the lines that they name, each behind its number in
the document, and these numbers are set right in a column as wide as it is asked for or set. Without what
stands in front of its first tab each line is shown as by `p`. The numbers count up from the first one if
there are enough of them for the document. -/
theorem execute_number (settings : Config.Settings) (asked : Option Int) (desk : Desk) (text : String)
    (ranges : List ParsedRange) (inner : Buffer) (command : List Char) (valid : desk.buffer.Valid)
    (nested : Nested desk.buffer text.toList ranges inner command) (few : ranges.length ≤ 63)
    (held : ∀ w ∈ asked, -0x8000000000000000 ≤ w ∧ w ≤ 0x7FFFFFFFFFFFFFFF)
    (said : readCommand command = .ok ⟨"n", widthArguments asked⟩) :
    let registry := { Registry.builtin with numberWidth := settings.shownWidth }
    let width := asked.elim (max 1 (min 16 settings.numberWidth)) fun w => (max 1 (min 16 w)).toNat
    let range := desk.buffer.named ranges
    let lines := (desk.buffer.lines.take range.stop).drop range.start
    let number := fun j => (desk.buffer.numberAt (range.start + j)).toNat
    let shown := String.join (lines.mapIdx fun j line =>
      String.ofList ((Nat.toDigits 10 (number j)).leftpad width ' ') ++ "\t" ++ line ++ "\n")
    effect (execute registry text) desk = (desk.settled text.toList).shown shown .proceed ∧
    ((∀ line ∈ lines, '\n' ∉ line.toList) →
      ∀ (other : String) (others : List ParsedRange) (inner : Buffer) (command : List Char),
        Nested desk.buffer other.toList others inner command → others.length ≤ 63 →
        desk.buffer.named others = range → readCommand command = .ok ⟨"p", []⟩ →
        effect (execute registry other) desk =
          (desk.settled other.toList).shown (withoutNumbers shown) .proceed) ∧
    (desk.buffer.firstNumber.toNat + desk.buffer.count < UInt64.size → ∀ j < lines.length,
      number j = desk.buffer.firstNumber.toNat + (range.start + j)) := by
  intro registry width range lines number shown
  have own : registry.commands = (Registry.builtin.registerAll []).commands := rfl
  have foreign : RangeForm.foreign? "n".toList = true ∧ RangeForm.foreign? "p".toList = true := by
    decide +kernel
  have numbers : shown =
      String.join (Commands.numbered (Commands.chosenWidth registry.catalogue asked)
        inner.firstNumber inner.lines) := by
    have chosen : width = Commands.chosenWidth registry.catalogue asked := by
      cases asked with
      | none => rfl
      | some w => exact (Commands.chosenWidth_some registry.catalogue w).symm
    rw [nested.firstNumber, Commands.numbered_eq_mapIdx, nested.lines, ← chosen]
  refine ⟨?_, ?_, ?_⟩
  · have plain := inner.range_of_readCommand said foreign.1
    rw [numbers]
    exact effect_executeAt_shows nested valid few (nonblank_of_readCommand said) plain
      (effect_runCommand_number own held said _)
  · intro unbroken other others inner' command' nested' few' same said'
    have plain := inner'.range_of_readCommand said' foreign.2
    have printing := (printing_runCommand own said' rfl _).behind nested' valid few'
      (nonblank_of_readCommand said') plain
    have stripped : withoutNumbers shown = String.join (lines.map (· ++ "\n")) := by
      have here : inner.lines = lines := nested.lines
      rw [numbers, here, withoutNumbers, withoutNumbers_numbered _ _ lines unbroken,
        intercalate_lines, String.ofList_toList]
    have there : inner'.lines = lines := by rw [nested'.lines, same]
    rw [stripped, ← there]
    exact printing.eq_shown
  · intro fits j inside
    have within : range.start + j < desk.buffer.count := by
      simp only [lines, List.length_drop, List.length_take] at inside
      rw [Buffer.count]
      omega
    exact Buffer.toNat_numberAt (by omega)

/-- In a column that is too narrow the numbers take the room that they need. -/
theorem execute_number_narrow :
    let registry := { Registry.builtin with numberWidth := Config.Settings.default.shownWidth }
    let desk : Desk := ⟨⟨["a", "b", "c"], some 0, 98, none, .lf⟩, ⟨[], []⟩, .unlimited⟩
    effect (execute registry "2,3,n --width=-7") desk = desk.shown "99\tb\n100\tc\n" .proceed ∧
      effect (execute registry "2,$p") desk = desk.shown "b\nc\n" .proceed := by
  intro registry desk
  have valid : desk.buffer.Valid := by decide
  let inner : Buffer := ⟨["b", "c"], some 1, 99, none, .lf⟩
  let outer : ParsedRange := ⟨",n --width=-7".toList, ⟨1, 3⟩, none⟩
  let next : ParsedRange := ⟨"n --width=-7".toList, ⟨0, 2⟩, none⟩
  let whole : ParsedRange := ⟨['p'], ⟨1, 3⟩, none⟩
  have behind : Nested inner outer.rest [next] inner "n --width=-7".toList :=
    .range (by decide +kernel) (by decide +kernel) .command
  have nested : Nested desk.buffer "2,3,n --width=-7".toList [outer, next] inner
      "n --width=-7".toList :=
    .range (by decide +kernel) (by decide +kernel) behind
  have single : Nested desk.buffer "2,$p".toList [whole] inner ['p'] :=
    .range (by decide +kernel) (by decide +kernel) .command
  have held : ∀ w ∈ some (-7 : Int), -0x8000000000000000 ≤ w ∧ w ≤ 0x7FFFFFFFFFFFFFFF := by decide
  have said : readCommand "n --width=-7".toList = .ok ⟨"n", widthArguments (some (-7))⟩ := by
    decide +kernel
  obtain ⟨numbers, others, -⟩ := execute_number .default (some (-7)) desk "2,3,n --width=-7" [outer, next]
    inner "n --width=-7".toList valid nested (by decide) held said
  have plain := others (by decide +kernel) "2,$p" [whole] inner ['p'] single (by decide) rfl
    (by decide +kernel)
  have still (text : List Char) (same : desk.buffer.cursorAfter text = some 0) :
      desk.settled text = desk := by
    rw [Desk.settled, same]
  rw [still _ (by decide +kernel)] at numbers plain
  exact ⟨numbers.trans (congrArg (desk.shown · Flow.proceed) (by decide +kernel)),
    plain.trans (congrArg (desk.shown · Flow.proceed) (by decide +kernel))⟩

end LineEditor
