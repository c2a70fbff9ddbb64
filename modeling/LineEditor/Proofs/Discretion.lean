import LineEditor.Execute
import LineEditor.Proofs.Registered

/-! Events tell the shape of a document and nothing of its text. Two documents that differ in the
characters of their lines only, and not in how many lines there are or how many bytes each of them has,
cannot be told apart by what is reported: every command text comes to the same on both, reports the same,
and leaves documents that cannot be told apart either. -/
namespace LineEditor

/-- Documents that differ in the characters of their lines at most: line by line they have as many
bytes. -/
structure Buffer.Alike (b b' : Buffer) : Prop where
  sizes : b.lines.map String.utf8ByteSize = b'.lines.map String.utf8ByteSize
  cursor : b.cursor = b'.cursor
  firstNumber : b.firstNumber = b'.firstNumber
  file : b.file = b'.file
  ending : b.ending = b'.ending

/-- Desks with such documents, and with the same files unless a document has been stored on them. -/
structure Desk.Alike (stored : Prop) (d d' : Desk) : Prop where
  buffer : d.buffer.Alike d'.buffer
  files : stored ∨ d.files = d'.files
  room : d.sink.room = d'.sink.room

/-- Outcomes that report the same: either both come to something, and to like things, or both fail with
the same error. -/
inductive Outcome.Concur (stored : Prop) (like : α → α → Prop) : Outcome α → Outcome α → Prop where
  | ok (events : List Event) : like a a' → d.Alike stored d' →
      Concur stored like ⟨.ok a, d, events⟩ ⟨.ok a', d', events⟩
  | error (e : CommandError) (events : List Event) : d.Alike True d' →
      Concur stored like ⟨.error e, d, events⟩ ⟨.error e, d', events⟩

theorem Desk.Alike.weaken {d d' : Desk} (alike : d.Alike stored d') (weaker : stored → later) :
    d.Alike later d' :=
  ⟨alike.buffer, alike.files.imp_left weaker, alike.room⟩

theorem Outcome.Concur.weaken {o o' : Outcome α} (concur : o.Concur stored like o')
    (weaker : stored → later) : o.Concur later like o' := by
  cases concur with
  | ok events same left => exact .ok events same (left.weaken weaker)
  | error e events left => exact .error e events left

namespace Action

def Agree (before after : Prop) (like : α → α → Prop) (x y : Action α) : Prop :=
  ∀ d d' : Desk, d.Alike before d' → (x d).Concur after like (y d')

variable {stored after last : Prop} {like : α → α → Prop}

theorem Agree.weaken {x y : Action α} (agree : Agree stored after like x y) (weaker : after → last) :
    Agree stored last like x y :=
  fun d d' alike => (agree d d' alike).weaken weaker

theorem agree_pure (same : like a a') : Agree stored stored like (pure a) (pure a') :=
  fun _ _ alike => .ok [] same alike

theorem agree_fail (e : CommandError) : Agree stored after like (fail e) (fail e) :=
  fun _ _ alike => .error e [] (alike.weaken fun _ => trivial)

theorem agree_ofExcept (result : Except CommandError α) :
    Agree stored stored Eq (ofExcept result) (ofExcept result) := by
  cases result with
  | error e => exact agree_fail e
  | ok a => exact agree_pure rfl

theorem agree_report (event : Event) : Agree stored stored Eq (report event) (report event) :=
  fun _ _ alike => .ok [event] rfl alike

theorem agree_buffer : Agree stored stored Buffer.Alike buffer buffer :=
  fun _ _ alike => .ok [] alike.buffer alike

theorem agree_edit {f g : Buffer → Buffer} (keeps : ∀ b b' : Buffer, b.Alike b' → (f b).Alike (g b')) :
    Agree stored stored Eq (edit f) (edit g) :=
  fun d d' alike => .ok [] rfl ⟨keeps d.buffer d'.buffer alike.buffer, alike.files, alike.room⟩

theorem agree_setBuffer {b b' : Buffer} (alike : b.Alike b') :
    Agree stored stored Eq (setBuffer b) (setBuffer b') :=
  agree_edit fun _ _ _ => alike

/-- What is done next may depend on what has come out first, as long as like things lead to actions that
agree. -/
theorem Agree.bind {between : Prop} {like : α → α → Prop} {likeAfter : β → β → Prop} {x y : Action α}
    {f g : α → Action β} (first : Agree stored between like x y)
    (rest : ∀ a a', like a a' → Agree between after likeAfter (f a) (g a')) :
    Agree stored after likeAfter (x >>= f) (y >>= g) := by
  intro d d' alike
  have both := first d d' alike
  change Outcome.Concur _ _ (Action.bind x f d) (Action.bind y g d')
  unfold Action.bind
  generalize x d = one at both
  generalize y d' = other at both
  cases both with
  | error e events left => exact .error e events left
  | @ok a a' left left' events same alike =>
    have both := rest a a' same left left' alike
    dsimp only
    generalize f a left = one at both
    generalize g a' left' = other at both
    cases both with
    | ok more same alike => exact .ok (events ++ more) same alike
    | error e more alike => exact .error e (events ++ more) alike

theorem agree_print {text text' : String} (size : text.utf8ByteSize = text'.utf8ByteSize) :
    Agree stored stored Eq (print text) (print text') := by
  rintro ⟨b, files, written, room⟩ ⟨b', files', written', room'⟩ ⟨buffer, same, rfl⟩
  have bytes : text.toUTF8.size = text'.toUTF8.size := size
  cases room with
  | none => exact .ok [] rfl ⟨buffer, same, rfl⟩
  | some room =>
    simp only [print, Sink.write, bytes]
    by_cases fits : text'.toUTF8.size ≤ room
    · simp only [fits, if_true]
      exact .ok [] rfl ⟨buffer, same, rfl⟩
    · simp only [fits, if_false]
      exact .error _ [] ⟨buffer, .inl trivial, rfl⟩

theorem agree_printAll {texts texts' : List String}
    (sizes : texts.map String.utf8ByteSize = texts'.map String.utf8ByteSize) :
    Agree stored stored Eq (printAll texts) (printAll texts') := by
  induction texts generalizing texts' with
  | nil =>
    obtain rfl : texts' = [] := List.map_eq_nil_iff.mp sizes.symm
    exact agree_pure rfl
  | cons text texts ih =>
    cases texts' with
    | nil => contradiction
    | cons text' texts' =>
      obtain ⟨size, sizes⟩ := List.cons.inj sizes
      exact (agree_print size).bind fun _ _ _ => ih sizes

/-- On slices that are alike, actions that agree leave slices that are alike. -/
theorem Agree.on {x y : Action α} {slice slice' : Buffer} (agree : Agree stored after like x y)
    (alike : slice.Alike slice') :
    Agree stored after (fun p p' => like p.1 p'.1 ∧ p.2.Alike p'.2) (on slice x) (on slice' y) := by
  intro d d' desks
  have both := agree { d with buffer := slice } { d' with buffer := slice' }
    ⟨alike, desks.files, desks.room⟩
  unfold Action.on
  generalize x { d with buffer := slice } = one at both
  generalize y { d' with buffer := slice' } = other at both
  cases both with
  | ok events same left => exact .ok events ⟨same, left.buffer⟩ ⟨desks.buffer, left.files, left.room⟩
  | error e events left => exact .error e events ⟨desks.buffer, left.files, left.room⟩

/-- A file holds the same for both as long as nothing has been stored. -/
theorem agree_readFile (path : String) : Agree False False Eq (readFile path) (readFile path) := by
  intro d d' alike
  have same : d.files = d'.files := alike.files.resolve_left id
  unfold readFile
  rw [same]
  cases d'.files.readText path with
  | error e => exact .error _ _ (alike.weaken False.elim)
  | ok text => exact .ok _ rfl alike

end Action

namespace Buffer

theorem utf8ByteSize_render (b : Buffer) :
    b.render.utf8ByteSize =
      (b.lines.map String.utf8ByteSize).foldr (· + b.ending.text.utf8ByteSize + ·) 0 := by
  unfold render
  induction b.lines with
  | nil => rfl
  | cons line lines ih => simp [ih]

theorem lastOf_of_length {lines lines' : List String} (length : lines.length = lines'.length) :
    lastOf lines = lastOf lines' := by
  have empty : lines.isEmpty = lines'.isEmpty := by
    rw [Bool.eq_iff_iff, List.isEmpty_iff_length_eq_zero, List.isEmpty_iff_length_eq_zero, length]
  simp only [lastOf, empty, length]

variable {b b' slice slice' : Buffer}

theorem Alike.count (alike : b.Alike b') : b.count = b'.count := by
  have length := congrArg List.length alike.sizes
  rwa [List.length_map, List.length_map] at length

theorem Alike.isEmpty (alike : b.Alike b') : b.isEmpty = b'.isEmpty := by
  rw [Bool.eq_iff_iff, Buffer.isEmpty, Buffer.isEmpty, List.isEmpty_iff_length_eq_zero,
    List.isEmpty_iff_length_eq_zero]
  exact Eq.congr_left alike.count

theorem Alike.size (alike : b.Alike b') : b.render.utf8ByteSize = b'.render.utf8ByteSize := by
  rw [utf8ByteSize_render, utf8ByteSize_render, alike.sizes, alike.ending]

theorem Alike.relined (alike : b.Alike b') {lines lines' : List String}
    (sizes : lines.map String.utf8ByteSize = lines'.map String.utf8ByteSize) (cursor : Option Nat) :
    { b with lines, cursor }.Alike { b' with lines := lines', cursor } :=
  ⟨sizes, rfl, alike.firstNumber, alike.file, alike.ending⟩

theorem Alike.filed (alike : b.Alike b') (file : Option String) : { b with file }.Alike { b' with file } :=
  ⟨alike.sizes, alike.cursor, alike.firstNumber, rfl, alike.ending⟩

theorem Alike.ended (alike : b.Alike b') (ending : LineEnding) :
    { b with ending }.Alike { b' with ending } :=
  ⟨alike.sizes, alike.cursor, alike.firstNumber, alike.file, rfl⟩

theorem Alike.replaceAll (alike : b.Alike b') (new : List String) :
    (b.replaceAll new).Alike (b'.replaceAll new) :=
  alike.relined rfl _

theorem Alike.insert (alike : b.Alike b') (new : List String) : (b.insert new).Alike (b'.insert new) := by
  unfold Buffer.insert
  rw [alike.cursor]
  split
  · exact alike
  · split
    · exact alike.relined rfl _
    · refine alike.relined ?_ _
      simp only [List.map_append, List.map_take, List.map_drop, alike.sizes]

theorem Alike.append (alike : b.Alike b') (new : List String) : (b.append new).Alike (b'.append new) := by
  have lines : (b.lines ++ new).map String.utf8ByteSize = (b'.lines ++ new).map String.utf8ByteSize := by
    rw [List.map_append, List.map_append, alike.sizes]
  have last : lastOf (b.lines ++ new) = lastOf (b'.lines ++ new) :=
    lastOf_of_length (by simpa using congrArg List.length lines)
  unfold Buffer.append
  rw [last]
  split
  · exact alike
  · exact alike.relined lines _

theorem Alike.moveTo (alike : b.Alike b') (i : Nat) : (b.moveTo i).Alike (b'.moveTo i) := by
  unfold Buffer.moveTo
  rw [alike.count]
  split
  · exact alike.relined alike.sizes _
  · exact alike

theorem Alike.movedTo (alike : b.Alike b') (i : Option Nat) :
    (i.elim b b.moveTo).Alike (i.elim b' b'.moveTo) := by
  cases i with
  | none => exact alike
  | some i => exact alike.moveTo i

theorem Alike.slice? (alike : b.Alike b') (start stop : Nat) :
    Option.Rel Alike (b.slice? start stop) (b'.slice? start stop) := by
  have lines : ((b.lines.take stop).drop start).map String.utf8ByteSize =
      ((b'.lines.take stop).drop start).map String.utf8ByteSize := by
    rw [List.map_drop, List.map_take, alike.sizes, List.map_drop, List.map_take]
  have last : lastOf ((b.lines.take stop).drop start) = lastOf ((b'.lines.take stop).drop start) :=
    lastOf_of_length (by simpa using congrArg List.length lines)
  unfold Buffer.slice?
  rw [alike.count]
  split
  · exact .some ⟨lines, last, congrArg (· + .ofNat start) alike.firstNumber, alike.file, alike.ending⟩
  · exact .none

theorem Alike.splice? (alike : b.Alike b') (start stop : Nat) {new new' : List String}
    (sizes : new.map String.utf8ByteSize = new'.map String.utf8ByteSize) :
    Option.Rel Alike (b.splice? start stop new) (b'.splice? start stop new') := by
  have lines : (b.lines.take start ++ new ++ b.lines.drop stop).map String.utf8ByteSize =
      (b'.lines.take start ++ new' ++ b'.lines.drop stop).map String.utf8ByteSize := by
    simp only [List.map_append, List.map_take, List.map_drop, alike.sizes, sizes]
  have length : (b.lines.take start ++ new ++ b.lines.drop stop).length =
      (b'.lines.take start ++ new' ++ b'.lines.drop stop).length := by
    simpa using congrArg List.length lines
  have cursor : keepCursor b.cursor (b.lines.take start ++ new ++ b.lines.drop stop) =
      keepCursor b'.cursor (b'.lines.take start ++ new' ++ b'.lines.drop stop) := by
    simp only [keepCursor, alike.cursor, length, lastOf_of_length length]
  unfold Buffer.splice?
  rw [alike.count]
  split
  · exact .some ⟨lines, cursor, alike.firstNumber, alike.file, alike.ending⟩
  · exact .none

theorem Alike.adopt (alike : b.Alike b') (same : slice.Alike slice') :
    (adopt slice b).Alike (adopt slice' b') := by
  have filed := alike.filed (slice'.file.or b'.file)
  simp only [LineEditor.adopt, same.file, same.ending, alike.file]
  rw [filed.isEmpty]
  split
  · exact filed.ended slice'.ending
  · exact filed

end Buffer

/-- Whether a file can be written does not depend on what is written. -/
theorem FileTree.writeText_eq (t : FileTree) (path text : String) :
    t.writeText path text =
      (t.target path).map fun location => t.put location (.file text.toUTF8) := by
  unfold writeText writeBytes
  cases t.target path <;> rfl

namespace Action

theorem agree_writeFile (path : String) : Agree False True Eq (writeFile path) (writeFile path) := by
  intro d d' alike
  have same : d.files = d'.files := alike.files.resolve_left id
  unfold writeFile
  simp only [FileTree.writeText_eq, same, alike.buffer.size, alike.buffer.count]
  cases d'.files.target path with
  | error e => exact .error _ _ (alike.weaken False.elim)
  | ok location => exact .ok _ rfl ⟨alike.buffer, .inl trivial, alike.room⟩

end Action

/-- What the command reports does not tell apart documents that are alike. -/
def Command.Discreet (c : Command) : Prop :=
  ∀ catalogue values,
    Action.Agree False True Eq (c.handler catalogue values) (c.handler catalogue values)

namespace Commands
open LineEditor.Action

theorem agree_chosenFile (values : Options.Values) :
    Agree stored stored Eq (chosenFile values) (chosenFile values) := by
  apply agree_buffer.bind
  intro b b' alike
  rw [alike.file]
  cases (values.text? "filename").or b'.file with
  | none => exact agree_fail _
  | some path => exact agree_pure rfl

theorem agree_textHandler (name : String) {f : Buffer → List String → Buffer}
    (keeps : ∀ (b b' : Buffer) (new : List String), b.Alike b' → (f b new).Alike (f b' new))
    (catalogue : Catalogue) (values : Options.Values) :
    Agree stored stored Eq (textHandler name f catalogue values)
      (textHandler name f catalogue values) := by
  unfold textHandler
  cases values.text? "text" with
  | none => exact agree_fail _
  | some text =>
    exact (agree_edit fun b b' alike => keeps b b' _ alike).bind fun _ _ _ => agree_pure rfl

theorem agree_printLines : Agree stored stored Eq printLines printLines := by
  apply agree_buffer.bind
  intro b b' alike
  apply agree_printAll
  have ended (lines : List String) : (lines.map (· ++ "\n")).map String.utf8ByteSize =
      (lines.map String.utf8ByteSize).map (· + "\n".utf8ByteSize) := by
    simp
  rw [ended, ended, alike.sizes]

theorem sizes_numbered (width : Nat) (first : UInt64) {lines lines' : List String}
    (sizes : lines.map String.utf8ByteSize = lines'.map String.utf8ByteSize) :
    (numbered width first lines).map String.utf8ByteSize =
      (numbered width first lines').map String.utf8ByteSize := by
  induction lines generalizing first lines' with
  | nil =>
    obtain rfl : lines' = [] := List.map_eq_nil_iff.mp sizes.symm
    rfl
  | cons line lines ih =>
    cases lines' with
    | nil => contradiction
    | cons line' lines' =>
      obtain ⟨size, sizes⟩ := List.cons.inj sizes
      simp only [numbered, List.map_cons, String.utf8ByteSize_append, size, ih (first + 1) sizes]

theorem agree_number (catalogue : Catalogue) (values : Options.Values) :
    Agree stored stored Eq (number.handler catalogue values) (number.handler catalogue values) := by
  apply agree_buffer.bind
  intro b b' alike
  rw [alike.firstNumber]
  exact (agree_printAll (sizes_numbered _ _ alike.sizes)).bind fun _ _ _ => agree_pure rfl

theorem alike_takeIn (path : String) (text : Text.Loaded) {b b' : Buffer} (alike : b.Alike b') :
    (takeIn path text b).Alike (takeIn path text b') := by
  unfold takeIn
  rw [alike.isEmpty]
  split
  · exact ((alike.ended text.ending).insert text.lines).filed (some path)
  · exact (alike.insert text.lines).filed (some path)

theorem agree_read (catalogue : Catalogue) (values : Options.Values) :
    Agree False False Eq (read.handler catalogue values) (read.handler catalogue values) := by
  apply (agree_chosenFile values).bind
  rintro path _ rfl
  apply (agree_readFile path).bind
  rintro text _ rfl
  exact (agree_edit fun _ _ alike => alike_takeIn path text alike).bind fun _ _ _ => agree_pure rfl

theorem agree_write (catalogue : Catalogue) (values : Options.Values) :
    Agree False True Eq (write.handler catalogue values) (write.handler catalogue values) := by
  apply (agree_chosenFile values).bind
  rintro path _ rfl
  apply (agree_writeFile path).bind
  intro _ _ _
  exact (agree_edit fun _ _ alike => alike.filed (some path)).bind fun _ _ _ => agree_pure rfl

theorem agree_of_mem_all (member : d ∈ all) (catalogue : Catalogue) (values : Options.Values) :
    Agree False True Eq (d.handler catalogue values) (d.handler catalogue values) := by
  have weaker : False → True := False.elim
  simp only [all, List.mem_cons, List.not_mem_nil, or_false] at member
  rcases member with rfl | rfl | rfl | rfl | rfl | rfl | rfl | rfl | rfl
  · exact (agree_textHandler _ (fun _ _ new alike => alike.insert new) catalogue values).weaken weaker
  · exact (agree_textHandler _ (fun _ _ new alike => alike.append new) catalogue values).weaken weaker
  · exact (agree_textHandler _ (fun _ _ new alike => alike.replaceAll new) catalogue values).weaken weaker
  · exact ((agree_edit fun _ _ alike => alike.replaceAll []).bind fun _ _ _ =>
      agree_pure rfl).weaken weaker
  · exact (agree_printLines.bind fun _ _ _ => agree_pure rfl).weaken weaker
  · exact (agree_number catalogue values).weaken weaker
  · exact (agree_read catalogue values).weaken weaker
  · exact agree_write catalogue values
  · exact (agree_pure rfl).weaken weaker

end Commands

open LineEditor.Action

theorem agree_help (catalogue : Catalogue) (values : Options.Values) :
    Agree stored stored Eq (help.handler catalogue values) (help.handler catalogue values) :=
  (agree_print rfl).bind fun _ _ _ => (agree_printAll rfl).bind fun _ _ _ => agree_pure rfl

/-- The editor's own commands report nothing of the text that they work on. -/
theorem Registry.builtin_discreet (member : c ∈ builtin.commands) : c.Discreet := by
  intro catalogue values
  rcases builtin_command member with rfl | ⟨d, isBuiltin, -, own⟩
  · exact (agree_help catalogue values).weaken False.elim
  · rw [own]
    exact Commands.agree_of_mem_all isBuiltin catalogue values

theorem agree_usage (usage : String) :
    Agree stored stored Eq (do .print usage; return Flow.proceed)
      (do .print usage; return Flow.proceed) :=
  (agree_print rfl).bind fun _ _ _ => agree_pure rfl

theorem Command.Discreet.run {c : Command} (discreet : c.Discreet) (catalogue : Catalogue)
    (arguments : List String) :
    Agree False True Eq (c.run catalogue arguments) (c.run catalogue arguments) := by
  unfold Command.run
  split
  · exact discreet catalogue _
  · exact agree_fail _
  · exact (agree_usage _).weaken False.elim
  · exact (agree_usage _).weaken False.elim

variable {registry : Registry}

theorem agree_runCommand (discreet : ∀ c ∈ registry.commands, c.Discreet) (depth : Nat)
    (text : List Char) :
    Agree False True Eq (runCommand registry depth text) (runCommand registry depth text) := by
  apply (agree_ofExcept _).bind
  rintro line _ rfl
  cases found : registry.get? line.name with
  | none => exact agree_fail _
  | some c =>
    apply agree_buffer.bind
    intro b b' alike
    rw [alike.count]
    apply (agree_report _).bind
    intro _ _ _
    exact (discreet c (Registry.mem_of_get? found)).run registry.catalogue line.arguments

/-- A range is read by counting lines. -/
theorem agree_readRange (text : List Char) :
    Agree stored stored Eq (readRange text) (readRange text) := by
  have reports (reader : RangeReader) (parsed : Except AddressError (Option ParsedRange)) :
      Agree stored stored Eq (reader.report parsed) (reader.report parsed) := by
    cases parsed with
    | error e => exact agree_report _
    | ok found =>
      cases found with
      | none => exact agree_pure rfl
      | some p => exact agree_report _
  apply agree_buffer.bind
  intro b b' alike
  rw [alike.cursor, alike.count]
  apply (reports _ _).bind
  intro _ _ _
  apply (agree_edit fun _ _ alike => alike.movedTo _).bind
  intro _ _ _
  exact agree_ofExcept _

theorem agree_cutOut (range : LineRange) :
    Agree stored stored Buffer.Alike (cutOut range) (cutOut range) := by
  apply agree_buffer.bind
  intro b b' alike
  have slices := alike.slice? range.start range.stop
  rw [alike.count]
  generalize b.slice? range.start range.stop = one at slices
  generalize b'.slice? range.start range.stop = other at slices
  cases slices with
  | none => exact agree_fail _
  | some same => exact agree_pure same

theorem agree_putBack (depth : Nat) (range : LineRange) {slice slice' : Buffer}
    (same : slice.Alike slice') :
    Agree stored stored Eq (putBack depth range slice) (putBack depth range slice') := by
  apply (agree_edit fun _ _ alike => alike.adopt same).bind
  intro _ _ _
  apply agree_buffer.bind
  intro b b' alike
  have spliced := alike.splice? range.start range.stop same.sizes
  rw [alike.count, same.count]
  generalize b.splice? range.start range.stop slice.lines = one at spliced
  generalize b'.splice? range.start range.stop slice'.lines = other at spliced
  cases spliced with
  | none => exact agree_fail _
  | @some b b' alike =>
    dsimp only
    rw [alike.count, alike.cursor]
    exact (agree_setBuffer alike).bind fun _ _ _ => (agree_report _).bind fun _ _ _ => agree_report _

theorem agree_showRange (depth : Nat) (range : LineRange) {slice slice' : Buffer}
    (same : slice.Alike slice') :
    Agree stored stored Eq (showRange depth range slice) (showRange depth range slice') := by
  apply (Commands.agree_printLines.on same).bind
  intro _ _ _
  apply (agree_edit fun _ _ alike => alike.movedTo _).bind
  intro _ _ _
  exact (agree_report _).bind fun _ _ _ => agree_pure rfl

theorem agree_executeAt_of (discreet : ∀ c ∈ registry.commands, c.Discreet)
    (nested : ∀ lower, levels = lower + 1 → ∀ text,
      Agree False True Eq (executeAt registry lower text) (executeAt registry lower text))
    (text : List Char) :
    Agree False True Eq (executeAt registry levels text) (executeAt registry levels text) := by
  unfold executeAt
  apply (agree_readRange text).bind
  rintro found _ rfl
  cases found with
  | none => exact agree_runCommand discreet _ text
  | some p =>
    apply (agree_cutOut p.range).bind
    intro slice slice' same
    dsimp only
    split
    · exact (agree_showRange _ p.range same).weaken False.elim
    · cases levels with
      | zero => exact (agree_report _).bind fun _ _ _ => agree_fail _
      | succ lower =>
        apply ((nested lower rfl p.rest).on same).bind
        rintro ⟨flow, left⟩ ⟨flow', left'⟩ ⟨equal, alike⟩
        obtain rfl : flow = flow' := equal
        exact (agree_putBack _ p.range alike).bind fun _ _ _ => agree_pure rfl

theorem agree_executeAt (discreet : ∀ c ∈ registry.commands, c.Discreet) (levels : Nat)
    (text : List Char) :
    Agree False True Eq (executeAt registry levels text) (executeAt registry levels text) := by
  induction levels generalizing text with
  | zero =>
    refine agree_executeAt_of discreet ?_ text
    intro lower same
    contradiction
  | succ levels ih =>
    refine agree_executeAt_of discreet ?_ text
    rintro lower same
    obtain rfl : levels = lower := Nat.succ.inj same
    exact ih

/-- On documents that are alike a text reports the same events and comes to the same, and it leaves
documents that are alike, whatever files there are and however much the display takes. -/
theorem execute_discreet (width : Nat) (text : String) (files : FileTree) (sink : Sink)
    (b b' : Buffer) (alike : b.Alike b') :
    let registry := { Registry.builtin with numberWidth := width }
    let outcome := execute registry text ⟨b, files, sink⟩
    let outcome' := execute registry text ⟨b', files, sink⟩
    outcome.events = outcome'.events ∧ outcome.result = outcome'.result ∧
      outcome.desk.buffer.Alike outcome'.desk.buffer := by
  intro registry outcome outcome'
  have discreet : ∀ c ∈ registry.commands, c.Discreet := fun _ => Registry.builtin_discreet
  have desks : Desk.Alike False ⟨b, files, sink⟩ ⟨b', files, sink⟩ := ⟨alike, .inr rfl, rfl⟩
  have both : outcome.Concur True Eq outcome' :=
    agree_executeAt discreet (maxDepth - 1) text.toList _ _ desks
  generalize outcome = one at both
  generalize outcome' = other at both
  cases both with
  | ok events same left => exact ⟨rfl, congrArg Except.ok same, left.buffer⟩
  | error e events left => exact ⟨rfl, rfl, left.buffer⟩

theorem execute_discreet_cut_off :
    let b : Buffer := .ofLines ["key", "für", "door"]
    let b' : Buffer := .ofLines ["...", "four", "üü"]
    let outcome := execute { Registry.builtin with numberWidth := 6 } "2,$;p" ⟨b, ⟨[], []⟩, .limited 4⟩
    let outcome' := execute { Registry.builtin with numberWidth := 6 } "2,$;p" ⟨b', ⟨[], []⟩, .limited 4⟩
    b.Alike b' ∧ outcome.result = .error (.output .full) ∧ outcome'.result = .error (.output .full) ∧
      outcome'.events = outcome.events ∧
      outcome.events = [.rangeParsed ⟨1, 3⟩ none, .rangeParsed ⟨1, 2⟩ (some 1),
        .commandInvoked 2 "p" 0 1] := by
  intro b b' outcome outcome'
  have alike : b.Alike b' := ⟨by decide +kernel, rfl, rfl, rfl, rfl⟩
  obtain ⟨events, result, -⟩ := execute_discreet 6 "2,$;p" ⟨[], []⟩ (.limited 4) b b' alike
  have full : outcome.result = .error (.output .full) := by decide +kernel
  exact ⟨alike, full, result.symm.trans full, events.symm, by decide +kernel⟩

end LineEditor
