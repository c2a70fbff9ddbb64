import LineEditor.Proofs.Bounds

/-! What the editor's own commands can make of a document and of the files. There is one constructor for
each kind of change; what all commands keep is read off these, and no handler is opened again. -/
namespace LineEditor
open LineEditor.Action (effect)

namespace Buffer

theorem exists_insert (b : Buffer) (new : List String) :
    ∃ lines cursor, b.insert new = { b with lines, cursor } := by
  unfold insert
  split
  · exact ⟨b.lines, b.cursor, rfl⟩
  · split
    · exact ⟨new, lastOf new, rfl⟩
    · exact ⟨_, _, rfl⟩

theorem exists_append (b : Buffer) (new : List String) :
    ∃ lines cursor, b.append new = { b with lines, cursor } := by
  unfold append
  split
  · exact ⟨b.lines, b.cursor, rfl⟩
  · exact ⟨_, _, rfl⟩

theorem insert_of_empty {b : Buffer} (bare : b.lines = []) (unset : b.cursor = none)
    (new : List String) : b.insert new = { b with lines := new, cursor := lastOf new } := by
  obtain ⟨lines, cursor, firstNumber, file, ending⟩ := b
  subst bare unset
  cases new <;> rfl

/-- What every command keeps of a document: its numbering, some file once there is one, and the
terminator of its lines. -/
structure Carries (old new : Buffer) : Prop where
  firstNumber : new.firstNumber = old.firstNumber
  file : new.file.or old.file = new.file
  ending : old.isEmpty = false → new.ending = old.ending

theorem carries_relined (b : Buffer) (lines : List String) (cursor : Option Nat) :
    b.Carries { b with lines, cursor } :=
  ⟨rfl, Option.or_self, fun _ => rfl⟩

variable {b : Buffer}

theorem insert_valid (valid : b.Valid) (new : List String) : (b.insert new).Valid := by
  unfold insert
  split
  · exact valid
  · cases here : b.cursor with
    | none => exact lastOf_valid b new
    | some i =>
      simp only [Valid, here] at valid ⊢
      simp only [List.length_append, List.length_take, List.length_drop]
      omega

theorem append_valid (valid : b.Valid) (new : List String) : (b.append new).Valid := by
  unfold append
  split
  · exact valid
  · exact lastOf_valid b (b.lines ++ new)

theorem replaceAll_valid (b : Buffer) (new : List String) : (b.replaceAll new).Valid :=
  lastOf_valid b new

theorem mem_of_mem_insert (member : line ∈ (b.insert new).lines) : line ∈ b.lines ∨ line ∈ new := by
  unfold insert at member
  split at member
  · exact .inl member
  · split at member
    · exact .inr member
    · rcases List.mem_append.mp member with front | behind
      · rcases List.mem_append.mp front with old | added
        · exact .inl (List.mem_of_mem_take old)
        · exact .inr added
      · exact .inl (List.mem_of_mem_drop behind)

theorem mem_of_mem_append (member : line ∈ (b.append new).lines) : line ∈ b.lines ∨ line ∈ new := by
  unfold append at member
  split at member
  · exact .inl member
  · exact List.mem_append.mp member

end Buffer

/-- Where a line comes from: it is one of the old ones, it stands in a file, or it has been typed in with
one of these texts. -/
inductive ComesFrom (old : List String) (types : String → Prop) (line : String) : Prop where
  | kept : line ∈ old → ComesFrom old types line
  | loaded (stored : String) : line ∈ (Text.Loaded.ofText stored).lines → ComesFrom old types line
  | typed (text : String) : types text → line ∈ Text.splitTyped text → ComesFrom old types line

theorem ComesFrom.trans (comes : ComesFrom old types line)
    (before : line ∈ old → ComesFrom older more line) (widens : ∀ text, types text → more text) :
    ComesFrom older more line := by
  cases comes with
  | kept inside => exact before inside
  | loaded stored inside => exact .loaded stored inside
  | typed text types inside => exact .typed text (widens text types) inside

namespace Commands
open LineEditor.Action

/-- What the command of this name can make of a document and the files when it is called with these
values. -/
inductive Makes (name : String) (values : Options.Values) (b : Buffer) (files : FileTree) :
    Buffer → FileTree → Prop where
  | nothing : Makes name values b files b files
  | inserted : name = "i" → values.text? "text" = some text →
      Makes name values b files (b.insert (Text.splitTyped text)) files
  | appended : name = "a" → values.text? "text" = some text →
      Makes name values b files (b.append (Text.splitTyped text)) files
  | changed : name = "c" → values.text? "text" = some text →
      Makes name values b files (b.replaceAll (Text.splitTyped text)) files
  | cleared : name = "d" → Makes name values b files b.clear files
  | read : name = "r" → files.readText path = .ok text →
      Makes name values b files (takeIn path (.ofText text) b) files
  | written : name = "w" → files.writeText path b.render = .ok left →
      Makes name values b files { b with file := some path } left

theorem Makes.of_prints {x : Action α} (prints : Prints x a) (name : String)
    (values : Options.Values) (desk : Desk) :
    Makes name values desk.buffer desk.files (effect x desk).2.buffer (effect x desk).2.files := by
  obtain ⟨text, shown⟩ := prints.exists_shown desk
  rw [shown]
  exact .nothing

theorem exists_takeIn (path : String) (text : Text.Loaded) (b : Buffer) :
    ∃ cursor, takeIn path text b = ⟨(b.insert text.lines).lines, cursor, b.firstNumber, some path,
      if b.isEmpty then text.ending else b.ending⟩ := by
  obtain ⟨lines, here, firstNumber, file, ending⟩ := b
  unfold takeIn Buffer.insert Buffer.isEmpty
  cases lines.isEmpty <;> cases text.lines.isEmpty <;> cases here <;> exact ⟨_, rfl⟩

theorem takeIn_ending (path : String) (text : Text.Loaded) (b : Buffer) :
    (takeIn path text b).ending = if b.isEmpty then text.ending else b.ending := by
  obtain ⟨cursor, same⟩ := exists_takeIn path text b
  rw [same]

/-- The lines that are read stand in the document one after the other. -/
theorem infix_takeIn (path : String) (text : Text.Loaded) (b : Buffer) :
    text.lines <:+: (takeIn path text b).lines := by
  obtain ⟨cursor, same⟩ := exists_takeIn path text b
  rw [same, Buffer.insert]
  cases lines : text.lines with
  | nil => exact List.nil_infix
  | cons line more =>
    rw [if_neg (by simp)]
    cases b.cursor with
    | none => exact List.infix_rfl
    | some i => exact List.infix_append _ _ _

theorem effect_chosenFile (values : Options.Values) (desk : Desk) :
    effect (chosenFile values) desk =
      match (values.text? "filename").or desk.buffer.file with
      | some path => (.ok path, desk)
      | none => (.error .noFilename, desk) := by
  simp only [chosenFile, effect_bind, effect_buffer, andThen_ok]
  cases (values.text? "filename").or desk.buffer.file <;> rfl

theorem effect_read (catalogue : Catalogue) (values : Options.Values) (desk : Desk) :
    effect (read.handler catalogue values) desk =
      match (values.text? "filename").or desk.buffer.file with
      | none => (.error .noFilename, desk)
      | some path =>
        match desk.files.readText path with
        | .error e => (.error (.io path e), desk)
        | .ok text => (.ok .proceed, { desk with buffer := takeIn path (.ofText text) desk.buffer }) := by
  simp only [read, effect_bind, effect_chosenFile]
  cases (values.text? "filename").or desk.buffer.file with
  | none => rfl
  | some path =>
    simp only [andThen_ok, effect_bind, effect_readFile]
    cases desk.files.readText path <;> rfl

theorem effect_write (catalogue : Catalogue) (values : Options.Values) (desk : Desk) :
    effect (write.handler catalogue values) desk =
      match (values.text? "filename").or desk.buffer.file with
      | none => (.error .noFilename, desk)
      | some path =>
        match desk.files.writeText path desk.buffer.render with
        | .error e => (.error (.io path e), desk)
        | .ok left => (.ok .proceed, ⟨{ desk.buffer with file := some path }, left, desk.sink⟩) := by
  simp only [write, effect_bind, effect_chosenFile]
  cases (values.text? "filename").or desk.buffer.file with
  | none => rfl
  | some path =>
    simp only [andThen_ok, effect_bind, effect_writeFile]
    cases desk.files.writeText path desk.buffer.render <;> rfl

theorem effect_textHandler (name : String) (f : Buffer → List String → Buffer)
    (catalogue : Catalogue) (values : Options.Values) (desk : Desk) :
    effect (textHandler name f catalogue values) desk =
      match values.text? "text" with
      | none => (.error (.arguments name (.absent "text")), desk)
      | some text => (.ok .proceed, { desk with buffer := f desk.buffer (Text.splitTyped text) }) := by
  unfold textHandler
  cases values.text? "text" <;> rfl

theorem makes_textHandler (name : String) (f : Buffer → List String → Buffer)
    (catalogue : Catalogue) (values : Options.Values) (desk : Desk)
    (makes : ∀ text, values.text? "text" = some text →
      Makes name values desk.buffer desk.files (f desk.buffer (Text.splitTyped text)) desk.files) :
    Makes name values desk.buffer desk.files (effect (textHandler name f catalogue values) desk).2.buffer
      (effect (textHandler name f catalogue values) desk).2.files := by
  rw [effect_textHandler]
  cases typed : values.text? "text" with
  | none => exact .nothing
  | some text => exact makes text typed

theorem makes_read (catalogue : Catalogue) (values : Options.Values) (desk : Desk) :
    Makes "r" values desk.buffer desk.files (effect (read.handler catalogue values) desk).2.buffer
      (effect (read.handler catalogue values) desk).2.files := by
  rw [effect_read]
  cases (values.text? "filename").or desk.buffer.file with
  | none => exact .nothing
  | some path =>
    dsimp only
    cases found : desk.files.readText path with
    | error e => exact .nothing
    | ok text => exact .read rfl found

theorem makes_write (catalogue : Catalogue) (values : Options.Values) (desk : Desk) :
    Makes "w" values desk.buffer desk.files (effect (write.handler catalogue values) desk).2.buffer
      (effect (write.handler catalogue values) desk).2.files := by
  rw [effect_write]
  cases (values.text? "filename").or desk.buffer.file with
  | none => exact .nothing
  | some path =>
    dsimp only
    cases stored : desk.files.writeText path desk.buffer.render with
    | error e => exact .nothing
    | ok left => exact .written rfl stored

theorem makes_of_mem_all (member : d ∈ all) (catalogue : Catalogue) (values : Options.Values)
    (desk : Desk) :
    Makes d.summary.name values desk.buffer desk.files (effect (d.handler catalogue values) desk).2.buffer
      (effect (d.handler catalogue values) desk).2.files := by
  simp only [all, List.mem_cons, List.not_mem_nil, or_false] at member
  rcases member with rfl | rfl | rfl | rfl | rfl | rfl | rfl | rfl | rfl
  · exact makes_textHandler _ _ catalogue values desk fun _ => .inserted rfl
  · exact makes_textHandler _ _ catalogue values desk fun _ => .appended rfl
  · exact makes_textHandler _ _ catalogue values desk fun _ => .changed rfl
  · exact .cleared rfl
  · exact .of_prints (print_prints catalogue values) _ values desk
  · exact .of_prints (number_prints catalogue values) _ values desk
  · exact makes_read catalogue values desk
  · exact makes_write catalogue values desk
  · exact .nothing

theorem Makes.carries (makes : Makes name values b files after left) : b.Carries after := by
  cases makes with
  | nothing => exact b.carries_relined b.lines b.cursor
  | inserted _ _ =>
    obtain ⟨lines, cursor, same⟩ := b.exists_insert _
    rw [same]
    exact b.carries_relined lines cursor
  | appended _ _ =>
    obtain ⟨lines, cursor, same⟩ := b.exists_append _
    rw [same]
    exact b.carries_relined lines cursor
  | changed _ _ => exact b.carries_relined _ _
  | cleared _ => exact b.carries_relined _ _
  | read _ _ =>
    obtain ⟨cursor, same⟩ := exists_takeIn _ _ b
    rw [same]
    exact ⟨rfl, rfl, fun filled => by simp [filled]⟩
  | written _ _ => exact ⟨rfl, rfl, fun _ => rfl⟩

theorem takeIn_valid (path : String) (text : Text.Loaded) (valid : b.Valid) :
    (takeIn path text b).Valid := by
  unfold takeIn
  split
  · have same : { b with ending := text.ending }.Valid := valid
    exact Buffer.insert_valid same text.lines
  · exact Buffer.insert_valid valid text.lines

theorem Makes.valid (makes : Makes name values b files after left) (valid : b.Valid) :
    after.Valid := by
  cases makes with
  | nothing => exact valid
  | inserted _ _ => exact Buffer.insert_valid valid _
  | appended _ _ => exact Buffer.append_valid valid _
  | changed _ _ => exact b.replaceAll_valid _
  | cleared _ => exact b.replaceAll_valid []
  | read _ _ => exact takeIn_valid _ _ valid
  | written _ _ => exact valid

theorem Makes.origin (makes : Makes name values b files after left) (member : line ∈ after.lines) :
    ComesFrom b.lines (fun text => name ∈ ["i", "a", "c"] ∧ values.text? "text" = some text) line := by
  cases makes with
  | nothing => exact .kept member
  | inserted named typed =>
    rcases Buffer.mem_of_mem_insert member with old | new
    · exact .kept old
    · exact .typed _ ⟨by simp [named], typed⟩ new
  | appended named typed =>
    rcases Buffer.mem_of_mem_append member with old | new
    · exact .kept old
    · exact .typed _ ⟨by simp [named], typed⟩ new
  | changed named typed => exact .typed _ ⟨by simp [named], typed⟩ member
  | cleared _ => contradiction
  | @read path text _ opened =>
    obtain ⟨cursor, same⟩ := exists_takeIn path (.ofText text) b
    rw [same] at member
    rcases Buffer.mem_of_mem_insert member with old | new
    · exact .kept old
    · exact .loaded text new
  | written _ _ => exact .kept member

/-- Only the commands for files change more than lines and the current line. -/
theorem Makes.relined (makes : Makes name values b files after left) (reads : name ≠ "r")
    (writes : name ≠ "w") : left = files ∧ ∃ lines cursor, after = { b with lines, cursor } := by
  cases makes with
  | nothing => exact ⟨rfl, b.lines, b.cursor, rfl⟩
  | inserted _ _ => exact ⟨rfl, b.exists_insert _⟩
  | appended _ _ => exact ⟨rfl, b.exists_append _⟩
  | changed _ _ => exact ⟨rfl, _, _, rfl⟩
  | cleared _ => exact ⟨rfl, _, _, rfl⟩
  | read named _ => exact (reads named).elim
  | written named _ => exact (writes named).elim

/-- Only reading changes the terminator. -/
theorem Makes.ending (makes : Makes name values b files after left) (other : name ≠ "r") :
    after.ending = b.ending := by
  cases makes with
  | nothing => rfl
  | inserted _ _ =>
    obtain ⟨lines, cursor, same⟩ := b.exists_insert _
    rw [same]
  | appended _ _ =>
    obtain ⟨lines, cursor, same⟩ := b.exists_append _
    rw [same]
  | changed _ _ => rfl
  | cleared _ => rfl
  | read named _ => exact (other named).elim
  | written _ _ => rfl

end Commands

theorem Registry.builtin_makes (member : c ∈ builtin.commands) (catalogue : Catalogue)
    (values : Options.Values) (desk : Desk) :
    Commands.Makes c.name values desk.buffer desk.files
      (effect (c.handler catalogue values) desk).2.buffer
      (effect (c.handler catalogue values) desk).2.files := by
  rcases builtin_command member with rfl | ⟨d, isBuiltin, summary, same⟩
  · exact .of_prints (help_prints catalogue values) _ values desk
  · rw [same, Command.name, summary]
    exact Commands.makes_of_mem_all isBuiltin catalogue values desk

/-- The editor's own commands keep a document valid. -/
theorem Registry.builtin_keepsValid (member : c ∈ builtin.commands) : c.KeepsValid :=
  fun catalogue values desk valid => (builtin_makes member catalogue values desk).valid valid

/-- What a text without a range can make of a document and the files, whether it fails or not. -/
theorem RunsCommand.makes {registry : Registry} {outcome : Except CommandError Flow × Desk}
    (run : RunsCommand registry text desk outcome)
    (builtin : registry.commands = Registry.builtin.commands) :
    ∃ name values,
      Commands.Makes name values desk.buffer desk.files outcome.2.buffer outcome.2.files := by
  cases run with
  | unread _ => exact ⟨"", ⟨[]⟩, .nothing⟩
  | unknown _ _ => exact ⟨"", ⟨[]⟩, .nothing⟩
  | refused _ _ _ => exact ⟨"", ⟨[]⟩, .nothing⟩
  | usage _ _ _ => exact ⟨"", ⟨[]⟩, .of_prints (prints_usage _) _ _ desk⟩
  | handled _ found _ =>
    exact ⟨_, _, Registry.builtin_makes (builtin ▸ Registry.mem_of_get? found) _ _ desk⟩

end LineEditor
