import LineEditor.Program
import LineEditor.Proofs.Files
import LineEditor.Proofs.Terminators
import Mathlib.Data.List.Basic

/-! Storing a document and loading it again, and the other way round. Nothing is lost as long as no
line holds a character of a terminator; a text comes back as it was if it keeps to one terminator. -/
namespace LineEditor

namespace LineEnding

theorem majority_of_forall (nonempty : found ≠ []) (single : ∀ other ∈ found, other = ending) :
    majority found = ending := by
  obtain ⟨n, rfl⟩ : ∃ n, found = List.replicate n ending := ⟨_, List.eq_replicate_of_mem single⟩
  have some : n ≠ 0 := by
    rintro rfl
    exact nonempty rfl
  have positive : 0 < n := Nat.pos_of_ne_zero some
  cases ending <;> simp [majority, List.count_replicate, some, positive]

theorem mixed_of_forall (single : ∀ other ∈ found, other = ending) : mixed found = false := by
  rw [mixed, List.any_eq_false]
  intro a first
  rw [Bool.not_eq_true, List.any_eq_false]
  intro b second
  simp [single a first, single b second]

end LineEnding

namespace Text

/-- The lines of a text that has fallen apart. A tail without characters is no line. -/
def partLines (parts : List (List Char × LineEnding)) (tail : List Char) : List (List Char) :=
  parts.map (·.1) ++ if tail.isEmpty then [] else [tail]

variable {text tail : List Char} {parts : List (List Char × LineEnding)}

theorem Apart.loaded (apart : Apart text parts tail) :
    Loaded.ofChars text = ⟨(partLines parts tail).map String.ofList,
      LineEnding.majority (parts.map (·.2)), LineEnding.mixed (parts.map (·.2))⟩ := by
  rw [Loaded.ofChars, apart.cut_eq]
  rfl

theorem Apart.unbroken_partLines (apart : Apart text parts tail) :
    ∀ line ∈ partLines parts tail, Unbroken line := by
  intro line member
  rcases List.mem_append.mp member with inside | last
  · obtain ⟨part, isPart, rfl⟩ := List.mem_map.mp inside
    exact apart.unbroken.1 part isPart
  · split at last
    · contradiction
    · obtain rfl := List.mem_singleton.mp last
      exact apart.unbroken.2

/-- A text that ends with a terminator has no tail. -/
theorem Apart.tail_eq_nil (apart : Apart text parts tail) {ending : LineEnding}
    (ended : ending.chars <:+ text) : tail = [] := by
  obtain ⟨front, whole⟩ := ended
  cases final : tail.getLast? with
  | none => exact List.getLast?_eq_none_iff.mp final
  | some c =>
    obtain ⟨feed, ret⟩ := apart.unbroken.2 c (List.mem_of_getLast? final)
    have last : text.getLast? = some c := by
      rw [apart.text_eq, List.getLast?_append, final]
      rfl
    rw [← whole, List.getLast?_append] at last
    cases ending <;> cases last <;> contradiction

/-- A text without a tail ends with one of its terminators. -/
theorem Apart.ended (apart : Apart text parts tail) (complete : tail = []) :
    text = [] ∨ ∃ ending ∈ parts.map (·.2), ending.chars <:+ text := by
  induction apart with
  | last _ => exact .inl complete
  | @line line ending rest parts tail _ _ _ ih =>
    rcases ih complete with rfl | ⟨final, member, ended⟩
    · refine .inr ⟨ending, List.mem_cons_self, ?_⟩
      rw [List.append_nil]
      exact List.suffix_append line ending.chars
    · exact .inr ⟨final, List.mem_cons_of_mem _ member, ended.trans (List.suffix_append _ rest)⟩

/-- The text keeps to one terminator and does not break off behind the last one. -/
structure Uniform (text : List Char) : Prop where
  single : ∀ a b : LineEnding, a.OccursIn text → b.OccursIn text → a = b
  ended : text = [] ∨ ∃ ending : LineEnding, ending.OccursIn text ∧ ending.chars <:+ text

/-- Uniform texts are those that consist of lines put together with one terminator. -/
theorem Apart.uniform_iff (apart : Apart text parts tail) :
    Uniform text ↔ tail = [] ∧
      ∀ part ∈ parts, part.2 = LineEnding.majority (parts.map (·.2)) := by
  constructor
  · rintro ⟨single, ended⟩
    constructor
    · rcases ended with rfl | ⟨ending, -, ended⟩
      · exact (apart.unique (.last (List.forall_mem_nil _))).2
      · exact apart.tail_eq_nil ended
    · intro part member
      have here : part.2 ∈ parts.map (·.2) := List.mem_map_of_mem member
      refine (LineEnding.majority_of_forall (List.ne_nil_of_mem here) ?_).symm
      intro other there
      exact single other part.2 (apart.occursIn_iff.mpr there) (apart.occursIn_iff.mpr here)
  · rintro ⟨complete, same⟩
    have chosen : ∀ ending, LineEnding.OccursIn ending text →
        ending = LineEnding.majority (parts.map (·.2)) := by
      intro ending occurs
      obtain ⟨part, member, rfl⟩ := List.mem_map.mp (apart.occursIn_iff.mp occurs)
      exact same part member
    refine ⟨fun a b first second => (chosen a first).trans (chosen b second).symm, ?_⟩
    rcases apart.ended complete with empty | ⟨ending, member, ended⟩
    · exact .inl empty
    · exact .inr ⟨ending, apart.occursIn_iff.mpr member, ended⟩

/-- No line that has been loaded holds a character of a terminator. -/
theorem unbroken_loaded (text : String) :
    ∀ line ∈ (Loaded.ofText text).lines, Unbroken line.toList := by
  obtain ⟨parts, tail, apart⟩ := exists_apart text.toList
  rw [Loaded.ofText, apart.loaded]
  intro line member
  obtain ⟨line, isLine, rfl⟩ := List.mem_map.mp member
  rw [String.toList_ofList]
  exact apart.unbroken_partLines line isLine

end Text

namespace Buffer
open Text (Apart Uniform Unbroken)

theorem toList_render (b : Buffer) :
    b.render.toList = (b.lines.map String.toList).flatMap (· ++ b.ending.chars) := by
  simp [render, LineEnding.text, List.flatMap_map]

theorem apart_render (b : Buffer) (clean : ∀ line ∈ b.lines, Unbroken line.toList) :
    Apart b.render.toList ((b.lines.map String.toList).map (·, b.ending)) [] := by
  rw [toList_render]
  refine Text.apart_lines b.ending ?_
  intro line member
  obtain ⟨line, isLine, rfl⟩ := List.mem_map.mp member
  exact clean line isLine

/-- What is loaded after a document has been stored. -/
theorem loaded_render (b : Buffer) (clean : ∀ line ∈ b.lines, Unbroken line.toList) :
    Text.Loaded.ofText b.render =
      ⟨b.lines, if b.lines.isEmpty then .lf else b.ending, false⟩ := by
  have single : ∀ other ∈ ((b.lines.map String.toList).map (·, b.ending)).map (·.2),
      other = b.ending := by
    intro other member
    obtain ⟨part, isPart, rfl⟩ := List.mem_map.mp member
    obtain ⟨line, -, rfl⟩ := List.mem_map.mp isPart
    rfl
  have lines : (Text.partLines ((b.lines.map String.toList).map (·, b.ending)) []).map String.ofList =
      b.lines := by
    simp [Text.partLines, Function.comp_def]
  rw [Text.Loaded.ofText, (b.apart_render clean).loaded, lines, LineEnding.mixed_of_forall single]
  congr
  cases here : b.lines with
  | nil => rfl
  | cons line later =>
    rw [here] at single
    exact LineEnding.majority_of_forall (List.cons_ne_nil _ _) single

/-- Storing and loading gives the lines back exactly if no line holds a character of a terminator, and
then it gives back the terminator too. -/
theorem load_render (b : Buffer) :
    ((Text.Loaded.ofText b.render).lines = b.lines ↔ ∀ line ∈ b.lines, Unbroken line.toList) ∧
    ((∀ line ∈ b.lines, Unbroken line.toList) → b.lines ≠ [] →
      (Text.Loaded.ofText b.render).ending = b.ending ∧
        (Text.Loaded.ofText b.render).mixed = false) := by
  refine ⟨⟨fun same => ?_, fun clean => ?_⟩, fun clean nonempty => ?_⟩
  · rw [← same]
    exact Text.unbroken_loaded b.render
  · rw [b.loaded_render clean]
  · rw [b.loaded_render clean]
    simp [nonempty]

theorem load_render_returns :
    let b : Buffer := ⟨["a", "", "ü"], some 1, 1, none, .cr⟩
    (∀ line ∈ b.lines, Unbroken line.toList) ∧ b.lines ≠ [] ∧ b.render = "a\r\rü\r" ∧
      (Text.Loaded.ofText b.render).lines = b.lines ∧ (Text.Loaded.ofText b.render).ending = .cr ∧
      (Text.Loaded.ofText b.render).mixed = false := by
  intro b
  have clean : ∀ line ∈ b.lines, Unbroken line.toList := by decide +kernel
  have nonempty : b.lines ≠ [] := by decide
  have lines := b.load_render.1.mpr clean
  obtain ⟨ending, mixed⟩ := b.load_render.2 clean nonempty
  exact ⟨clean, nonempty, by decide +kernel, lines, ending, mixed⟩

theorem ofText_of_apart (text : String) (apart : Apart text.toList parts tail) :
    (ofText text).lines = (Text.partLines parts tail).map String.ofList ∧
      (ofText text).ending = LineEnding.majority (parts.map (·.2)) :=
  ⟨congrArg Text.Loaded.lines apart.loaded, congrArg Text.Loaded.ending apart.loaded⟩

/-- A text is stored as it was loaded exactly if it is uniform. -/
theorem render_ofText_iff (text : String) : (ofText text).render = text ↔ Uniform text.toList := by
  obtain ⟨parts, tail, apart⟩ := Text.exists_apart text.toList
  obtain ⟨lines, ending⟩ := ofText_of_apart text apart
  rw [apart.uniform_iff]
  constructor
  · intro same
    have stored := (ofText text).apart_render (Text.unbroken_loaded text)
    rw [same, ending] at stored
    obtain ⟨found, complete⟩ := apart.unique stored
    refine ⟨complete, fun part member => ?_⟩
    rw [found] at member
    obtain ⟨line, -, rfl⟩ := List.mem_map.mp member
    rfl
  · rintro ⟨rfl, same⟩
    have stored : (ofText text).render.toList =
        parts.flatMap fun part => part.1 ++ (LineEnding.majority (parts.map (·.2))).chars := by
      rw [toList_render, lines, ending]
      simp [Text.partLines, Function.comp_def, List.flatMap_map]
    have kept : (parts.flatMap fun part => part.1 ++ (LineEnding.majority (parts.map (·.2))).chars) =
        parts.flatMap fun part => part.1 ++ part.2.chars :=
      List.flatMap_congr fun part member => by rw [same part member]
    rw [← String.toList_inj, stored, kept, apart.text_eq, List.append_nil]

theorem ofText_ending_of_isEmpty (text : String) (empty : (ofText text).lines = []) :
    (ofText text).ending = .lf := by
  obtain ⟨parts, tail, apart⟩ := Text.exists_apart text.toList
  obtain ⟨lines, ending⟩ := ofText_of_apart text apart
  rw [empty] at lines
  obtain rfl : parts = [] :=
    List.map_eq_nil_iff.mp (List.append_eq_nil_iff.mp (List.map_eq_nil_iff.mp lines.symm)).1
  exact ending

/-- A text that has been stored is loaded as it was before. -/
theorem ofText_render_ofText (text : String) : ofText (ofText text).render = ofText text := by
  have again := (ofText text).loaded_render (Text.unbroken_loaded text)
  have ending : (if (ofText text).lines.isEmpty then .lf else (ofText text).ending) =
      (ofText text).ending := by
    split
    · rename_i empty
      exact (ofText_ending_of_isEmpty text (List.isEmpty_iff.mp empty)).symm
    · rfl
  rw [ending] at again
  rw [ofText, again]
  rfl

end Buffer

theorem Program.openFile_of_readText {files : FileTree} (opened : files.readText path = .ok text) :
    openFile files (some path) = ({ Buffer.ofText text with file := some path }, false) := by
  simp only [openFile, opened]
  rfl

def FileTree.resave (files : FileTree) (path : String) : Except IoError FileTree :=
  files.writeText path (Program.openFile files (some path)).1.render

theorem FileTree.exists_resave {files : FileTree} (opened : files.readText path = .ok text) :
    ∃ saved, files.resave path = .ok saved ∧
      saved.readText path = .ok (Buffer.ofText text).render ∧
      Program.openFile saved (some path) = Program.openFile files (some path) := by
  obtain ⟨saved, written⟩ := FileTree.exists_writeText opened (Buffer.ofText text).render
  have reread := FileTree.readText_of_writeText written
  have loaded : (Program.openFile files (some path)).1.render = (Buffer.ofText text).render := by
    rw [Program.openFile_of_readText opened]
    rfl
  refine ⟨saved, ?_, reread, ?_⟩
  · rw [resave, loaded, written]
  · rw [Program.openFile_of_readText opened, Program.openFile_of_readText reread,
      Buffer.ofText_render_ofText]

/-- Loading a text and storing it gives it back exactly if it keeps to one terminator and ends with it
or is empty. Whatever it was, what is stored is loaded as the same document, so that a file that has
been stored once does not change any more. -/
theorem resave_exact (text : String) :
    ((Buffer.ofText text).render = text ↔ Text.Uniform text.toList) ∧
    Buffer.ofText (Buffer.ofText text).render = Buffer.ofText text ∧
    ∀ (files : FileTree) (path : String), files.readText path = .ok text →
      ∃ saved, files.resave path = .ok saved ∧
        (saved.readText path = .ok text ↔ Text.Uniform text.toList) ∧
        Program.openFile saved (some path) = Program.openFile files (some path) ∧
        ∃ again, saved.resave path = .ok again ∧ again.readText path = saved.readText path := by
  have exact := Buffer.render_ofText_iff text
  have stable := Buffer.ofText_render_ofText text
  refine ⟨exact, stable, fun files path opened => ?_⟩
  obtain ⟨saved, stored, reread, reopened⟩ := FileTree.exists_resave opened
  obtain ⟨again, storedAgain, rereadAgain, -⟩ := FileTree.exists_resave reread
  refine ⟨saved, stored, ?_, reopened, again, storedAgain, ?_⟩
  · rw [reread, Except.ok.injEq]
    exact exact
  · rw [rereadAgain, reread, stable]

theorem resave_exact_three_styles :
    let text := "a\r\n\rb\n"
    let files : FileTree := ⟨[], [(["f"], .file text.toUTF8)]⟩
    files.readText "f" = .ok text ∧ (Buffer.ofText text).render = "a\r\n\r\nb\r\n" ∧
      ¬ Text.Uniform text.toList ∧
      ∃ saved, files.resave "f" = .ok saved ∧ saved.readText "f" ≠ .ok text ∧
        Program.openFile saved (some "f") = Program.openFile files (some "f") := by
  intro text files
  have segments : Path.segments "f" = ["f"] := by
    have pieces : "f".splitOn "/" = ["f"] := by
      rw [String.splitOn, if_neg (by decide), String.splitOnAux, if_neg (by decide),
        if_neg (by decide), String.splitOnAux, if_pos (by decide)]
      decide
    rw [Path.segments, pieces]
    decide
  have located : files.locate "f" = .ok (.file ["f"] text.toUTF8) := by
    refine FileTree.locate_eq_ok_iff.mpr ⟨rfl, ?_⟩
    rw [segments]
    rfl
  have opened : files.readText "f" = .ok text :=
    FileTree.readText_eq_ok_iff.mpr (FileTree.readBytes_eq_ok_iff.mpr ⟨rfl, ["f"], located⟩)
  have stored : (Buffer.ofText text).render = "a\r\n\r\nb\r\n" := by decide +kernel
  obtain ⟨exact, -, saves⟩ := resave_exact text
  have irregular : ¬ Text.Uniform text.toList := by
    rw [← exact, stored]
    decide
  obtain ⟨saved, resaved, kept, reopened, -⟩ := saves files "f" opened
  exact ⟨opened, stored, irregular, saved, resaved, fun same => irregular (kept.mp same), reopened⟩

end LineEditor
