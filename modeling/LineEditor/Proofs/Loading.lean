import LineEditor.Proofs.Followed
import LineEditor.Proofs.Given
import LineEditor.Proofs.Nested
import LineEditor.Proofs.Outcome
import LineEditor.Proofs.Quoting
import LineEditor.Proofs.Stored
import LineEditor.Proofs.Whole

/-! Ways to load a file. Opening it at the start and reading it into an empty document, directly or behind
ranges for the whole of it, come to the same document. They differ only in what is left when the file
cannot be read. -/
namespace LineEditor
open LineEditor.Action (effect)

/-- A command that reads a file, given its path as it is spelled, behind a number of commas. -/
def readingCommand (commas : Nat) (spelling : List Char) : String :=
  String.ofList (List.replicate commas ',' ++ ("r --filename=".toList ++ spelling))

def Buffer.ofFile (path text : String) : Buffer :=
  { Buffer.ofText text with file := some path }

def reading (path : String) (files : FileTree) (sink : Sink) : Except CommandError Flow × Desk :=
  match files.readText path with
  | .error e => (.error (.io path e), ⟨.empty, files, sink⟩)
  | .ok text => (.ok .proceed, ⟨.ofFile path text, files, sink⟩)

/-- The value of an option may be attached to its name, whatever it is. -/
theorem fileGrammar_read (command about help path : String) (short : Option Char) :
    (⟨command, about, none, [⟨"filename", short, "filename", .text, none, help⟩], []⟩ :
      Options.Grammar).read ["--filename=" ++ path] = .ok ⟨[("filename", .text path)]⟩ := by
  have plain : '=' ∉ "filename".toList := by decide
  exact Options.Grammar.read_attached command about
    ⟨"filename", short, "filename", .text, none, help⟩ plain (.text path)

theorem Commands.takeIn_empty (path text : String) :
    takeIn path (.ofText text) .empty = .ofFile path text := by
  have empty : Buffer.empty.isEmpty = true := rfl
  rw [takeIn, if_pos empty, Buffer.insert_of_empty rfl rfl]
  rfl

theorem effect_run_read (path : String) (catalogue : Catalogue) (files : FileTree) (sink : Sink)
    (compiled : Commands.read.compile = .ok c) :
    effect (c.run catalogue ["--filename=" ++ path]) ⟨.empty, files, sink⟩ = reading path files sink := by
  cases compiled
  rw [Command.run, Options.Descriptor.toNamed, fileGrammar_read]
  have named : Options.Values.text? ⟨[("filename", .text path)]⟩ "filename" = some path := by
    simp [Options.Values.text?, Options.Values.get?]
  have done := Commands.effect_read catalogue ⟨[("filename", .text path)]⟩ ⟨.empty, files, sink⟩
  rw [named] at done
  simp only [Option.some_or, Commands.takeIn_empty] at done
  exact done

/-- A slice of an empty document has no current line either, and putting the slice back makes the last line
of the file current, as it is in the slice. -/
theorem afterNested_reading (path : String) (files : FileTree) (sink : Sink) :
    afterNested ⟨.empty, files, sink⟩ ⟨0, 0⟩ (reading path files sink) = reading path files sink := by
  rw [reading]
  cases files.readText path with
  | error e => rfl
  | ok text =>
    have carries : Buffer.empty.Carries (.ofFile path text) := ⟨rfl, rfl, nofun⟩
    have same : Buffer.empty.restore ⟨0, 0⟩ (.ofFile path text) = .ofFile path text :=
      Buffer.restore_whole carries
    simp only [afterNested, same]

variable {registry : Registry} {desk : Desk} {text : List Char}

/-- Commas in front of a command that leaves the document as putting back a copy of it would do change
nothing. -/
theorem effect_executeAt_commas (plain : desk.buffer.range text = .ok none)
    (nonblank : Text.allBlank text = false) (last : desk.atLast = desk)
    (still : afterNested desk ⟨0, desk.buffer.count⟩ (effect (runCommand registry 0 text) desk) =
      effect (runCommand registry 0 text) desk)
    (few : commas ≤ levels) :
    effect (executeAt registry levels (List.replicate commas ',' ++ text)) desk =
      effect (runCommand registry 0 text) desk := by
  induction commas generalizing levels with
  | zero => exact effect_executeAt_command plain
  | succ commas ih =>
    obtain ⟨levels, rfl⟩ := Nat.exists_eq_add_one.mpr (Nat.zero_lt_of_lt few)
    have skipped : Address.ReadsOptional (List.replicate commas ',' ++ text) none
        (List.replicate commas ',' ++ text) := by
      cases commas with
      | zero => exact Buffer.skipped_of_range plain
      | succ commas => exact .none fun _ _ => Address.not_reads_comma
    have more := Text.not_allBlank_of_suffix (List.suffix_append (List.replicate commas ',') text) nonblank
    have whole : effect (executeAt registry (levels + 1) (',' :: (List.replicate commas ',' ++ text))) desk =
        afterNested desk ⟨0, desk.buffer.count⟩
          (effect (executeAt registry levels (List.replicate commas ',' ++ text)) desk.atLast) :=
      effect_executeAt_whole skipped more
    rw [List.replicate_succ, List.cons_append, whole, last, ih (Nat.le_of_succ_le_succ few), still]

section Reading

variable {spelling : List Char} {path : String}

/-- The command is read as what it is meant to be, however its path is spelled. -/
theorem readCommand_reading (spells : Words.Spells spelling path.toList) :
    readCommand ("r --filename=".toList ++ spelling) = .ok ⟨"r", ["--filename=" ++ path]⟩ := by
  have letter : Words.Spells ['r'] ['r'] := Words.spells_plain (by decide)
  have option : Words.Spells "--filename=".toList "--filename=".toList :=
    Words.spells_self "-filename=".toList (by decide)
  have blank : Text.isBlank ' ' = true := rfl
  have split : "r --filename=".toList ++ spelling = ['r'] ++ ' ' :: ("--filename=".toList ++ spelling) := rfl
  have word : String.ofList ("--filename=".toList ++ path.toList) = "--filename=" ++ path := by
    rw [String.ofList_append, String.ofList_toList, String.ofList_toList]
  rw [split, readCommand, words, letter.read_blank blank, (option.append spells).read_end]
  simp only [Except.map, List.reverse_singleton, List.singleton_append, List.map_cons, List.map_nil, word]
  rfl

theorem effect_runCommand_reading (width : Nat) (files : FileTree) (sink : Sink)
    (spells : Words.Spells spelling path.toList) :
    effect (runCommand { Registry.builtin with numberWidth := width } 0
        ("r --filename=".toList ++ spelling)) ⟨.empty, files, sink⟩ =
      reading path files sink := by
  obtain ⟨c, found, compiled⟩ := Registry.builtin_get? (d := Commands.read) (by simp [Commands.all])
  have named : Registry.get? { Registry.builtin with numberWidth := width } "r" = some c := found
  rw [effect_runCommand, readCommand_reading spells]
  simp only [named]
  exact effect_run_read path _ files sink compiled

theorem effect_execute_reading (width commas : Nat) (files : FileTree) (sink : Sink)
    (spells : Words.Spells spelling path.toList) (few : commas < maxDepth) :
    effect (execute { Registry.builtin with numberWidth := width } (readingCommand commas spelling))
        ⟨.empty, files, sink⟩ =
      reading path files sink := by
  have direct := effect_runCommand_reading width files sink spells
  have split : (readingCommand commas spelling).toList =
      List.replicate commas ',' ++ ("r --filename=".toList ++ spelling) := String.toList_ofList
  have foreign : RangeForm.Foreign ("r --filename=".toList ++ spelling) := by
    intro c head
    have letter : c = 'r' := Option.some.inj head.symm
    simp [letter, Address.Begins]
  have plain := Buffer.empty.range_of_foreign (by decide) (by decide) foreign
  have still := afterNested_reading path files sink
  rw [← direct] at still
  rw [execute, split, effect_executeAt_commas plain rfl rfl still (Nat.le_sub_one_of_lt few), direct]

/-- All ways to load a file agree. Opening it at the start, and reading it into an empty document directly
or behind up to 63 ranges for the whole of it, give the document that its text is cut into. If it cannot be
read, reading says so and leaves the empty document as it was, while opening gives an empty one that
belongs to the file exactly if there is no such file. -/
theorem load_agree (width commas : Nat) (files : FileTree) (sink : Sink) (path : String)
    (spelling : List Char) (spells : Words.Spells spelling path.toList) (few : commas < maxDepth) :
    let read := effect
      (execute { Registry.builtin with numberWidth := width } (readingCommand commas spelling))
      ⟨.empty, files, sink⟩
    let opened := Program.openFile files (some path)
    (∀ text, files.readText path = .ok text →
      read = (.ok .proceed, ⟨{ Buffer.ofText text with file := some path }, files, sink⟩) ∧
        opened = ({ Buffer.ofText text with file := some path }, false)) ∧
    ∀ e, files.readText path = .error e →
      read = (.error (.io path e), ⟨.empty, files, sink⟩) ∧
        opened.1 = { Buffer.empty with file := if e = .notFound then some path else none } := by
  intro read opened
  have same : read = reading path files sink :=
    effect_execute_reading width commas files sink spells few
  constructor
  · intro text found
    rw [same, reading, found]
    exact ⟨rfl, Program.openFile_of_readText found⟩
  · intro e unread
    rw [same, reading, unread]
    refine ⟨rfl, ?_⟩
    simp only [opened, Program.openFile, unread]
    cases e <;> rfl

theorem load_agree_quote :
    let files : FileTree := ⟨[], [(["it's"], .file "x\r\ny".toUTF8)]⟩
    let loaded : Buffer := ⟨["x", "y"], some 1, 1, some "it's", .crlf⟩
    effect (execute .builtin ",,r --filename='it'\\''s'") ⟨.empty, files, .unlimited⟩ =
        (.ok .proceed, ⟨loaded, files, .unlimited⟩) ∧
      Program.openFile files (some "it's") = (loaded, false) ∧
      effect (execute .builtin ",r --filename=no") ⟨.empty, files, .unlimited⟩ =
        (.error (.io "no" .notFound), ⟨.empty, files, .unlimited⟩) := by
  intro files loaded
  have located : files.locate "it's" = .ok (.file ["it's"] "x\r\ny".toUTF8) :=
    files.locate_name (by decide) rfl (by decide) (by decide) (by decide)
  have found : files.readText "it's" = .ok "x\r\ny" :=
    FileTree.readText_eq_ok_iff.mpr (FileTree.readBytes_eq_ok_iff.mpr ⟨rfl, _, located⟩)
  have missing : files.locate "no" = .ok (.free ["no"]) :=
    files.locate_name (by decide) rfl (by decide) (by decide) (by decide)
  have unread : files.readText "no" = .error .notFound := by
    rw [FileTree.readText, FileTree.readBytes, missing]
    rfl
  have cut : { Buffer.ofText "x\r\ny" with file := some "it's" } = loaded := by decide +kernel
  have quoted := (load_agree Config.defaultWidth 2 files .unlimited "it's"
    (Words.quote "it's".toList) (Words.spells_quote _) (by decide)).1 _ found
  have plain := (load_agree Config.defaultWidth 1 files .unlimited "no" "no".toList
    (Words.spells_self ['o'] (by decide)) (by decide)).2 _ unread
  rw [cut] at quoted
  exact ⟨quoted.1, quoted.2, plain.1⟩

end Reading
end LineEditor
