import LineEditor.Proofs.Session

/-! A session on a display that takes a limited number of bytes. It shows what it would show without a
limit, cut off at the limit, and then ends; up to there it has done the same to the document and the
files. Behind this stands that no text both shows and changes anything. -/
namespace LineEditor
open LineEditor.Action (effect Silent Prints)

/-- The two ways of treating the display: an action leaves it alone, or it shows one text and changes
nothing but the current line, whether all of the text is taken or not. -/
inductive Action.Speaks (x : Action Flow) (b : Buffer) (files : FileTree) : Prop where
  | silent (result : Except CommandError Flow) (after : Buffer) (left : FileTree) :
      (∀ sink, effect x ⟨b, files, sink⟩ = (result, ⟨after, left, sink⟩)) → Speaks x b files
  | shown (text : String) (moved stopped : Option Nat) :
      (∀ sink next, sink.write text = (next, true) →
        effect x ⟨b, files, sink⟩ = (.ok .proceed, ⟨{ b with cursor := moved }, files, next⟩)) →
      (∀ sink next, sink.write text = (next, false) →
        effect x ⟨b, files, sink⟩ =
          (.error (.output .full), ⟨{ b with cursor := stopped }, files, next⟩)) →
      Speaks x b files

namespace Action

theorem Silent.speaks {x : Action Flow} (silent : Silent x) (b : Buffer) (files : FileTree) :
    Speaks x b files := by
  obtain ⟨result, after, left, same⟩ := silent b files
  exact .silent result after left same

theorem Prints.speaks {x : Action Flow} (prints : Prints x .proceed) (b : Buffer)
    (files : FileTree) : Speaks x b files := by
  obtain ⟨text, same⟩ := prints b
  refine .shown text b.cursor b.cursor (fun sink next taken => ?_) (fun sink next cut => ?_)
  · rw [same, Desk.shown, taken]
    rfl
  · rw [same, Desk.shown, cut]
    rfl

/-- It makes no difference whether the current line has been moved before. -/
theorem Speaks.of_moved {x y : Action Flow} {b : Buffer} {files : FileTree}
    (speaks : Speaks y { b with cursor } files)
    (same : ∀ sink, effect x ⟨b, files, sink⟩ = effect y ⟨{ b with cursor }, files, sink⟩) :
    Speaks x b files := by
  cases speaks with
  | silent result after left all =>
    exact .silent result after left fun sink => (same sink).trans (all sink)
  | shown text moved stopped taken cut =>
    exact .shown text moved stopped (fun sink next done => (same sink).trans (taken sink next done))
      (fun sink next done => (same sink).trans (cut sink next done))

end Action

variable {registry : Registry}

theorem Command.speaks_run {c : Command}
    (speaks : ∀ catalogue values, Silent (c.handler catalogue values) ∨
      Prints (c.handler catalogue values) .proceed)
    (catalogue : Catalogue) (arguments : List String) (b : Buffer) (files : FileTree) :
    (c.run catalogue arguments).Speaks b files := by
  unfold Command.run
  split
  · rcases speaks catalogue _ with silent | prints
    · exact silent.speaks b files
    · exact prints.speaks b files
  · exact (Action.silent_fail _).speaks b files
  · exact (prints_usage _).speaks b files
  · exact (prints_usage _).speaks b files

theorem speaks_runCommand (builtin : registry.commands = Registry.builtin.commands)
    (text : List Char) (b : Buffer) (files : FileTree) :
    (runCommand registry 0 text).Speaks b files := by
  cases said : readCommand text with
  | error e =>
    refine .silent (.error e) b files fun sink => ?_
    simp only [effect_runCommand, said]
  | ok line =>
    cases found : registry.get? line.name with
    | none =>
      refine .silent (.error (.unknownCommand line.name)) b files fun sink => ?_
      simp only [effect_runCommand, said, found]
    | some c =>
      have member : c ∈ Registry.builtin.commands := builtin ▸ Registry.mem_of_get? found
      have runs := Command.speaks_run (Registry.builtin_silent_or_prints member) registry.catalogue
        line.arguments b files
      apply runs.of_moved
      intro sink
      simp only [effect_runCommand, said, found]

theorem speaks_showRange (range : LineRange) (slice b : Buffer) (files : FileTree) :
    (showRange 0 range slice).Speaks b files := by
  obtain ⟨text, same⟩ := Commands.prints_printLines slice
  obtain ⟨moved, there⟩ := b.exists_moveTo range.last?
  refine .shown text moved b.cursor (fun sink next taken => ?_) (fun sink next cut => ?_)
  · rw [effect_showRange, same, Desk.shown, taken]
    simp only [if_true, there]
  · rw [effect_showRange, same, Desk.shown, cut]
    rfl

/-- What is done to a slice is put back silently, and what only shows the slice leaves the document. -/
theorem speaks_executeAt_nested {b : Buffer} (parsed : b.range text = .ok (some p))
    (cut : b.slice? p.range.start p.range.stop = some slice)
    (more : Text.allBlank p.rest = false)
    (inner : (executeAt registry levels p.rest).Speaks slice files) :
    (executeAt registry (levels + 1) text).Speaks b files := by
  have nested (sink : Sink) : effect (executeAt registry (levels + 1) text) ⟨b, files, sink⟩ =
      afterNested (Desk.settled ⟨b, files, sink⟩ text) p.range
        (effect (executeAt registry levels p.rest) ⟨slice, files, sink⟩) :=
    effect_executeAt_nested parsed cut more
  cases inner with
  | silent result after left same =>
    cases result with
    | error e =>
      refine .silent (.error e) { b with cursor := b.cursorAfter text } left fun sink => ?_
      rw [nested, same]
      rfl
    | ok flow =>
      refine .silent (.ok flow) ({ b with cursor := b.cursorAfter text }.restore p.range after) left
        fun sink => ?_
      rw [nested, same]
      rfl
  | shown shown moved stopped taken breaks =>
    obtain ⟨put, back⟩ := Buffer.exists_restore cut (b.cursorAfter text) moved
    refine .shown shown put (b.cursorAfter text) (fun sink next done => ?_)
      (fun sink next done => ?_)
    · rw [nested, taken sink next done, ← back]
      rfl
    · rw [nested, breaks sink next done]
      rfl

theorem speaks_executeAt_of (builtin : registry.commands = Registry.builtin.commands)
    (nested : ∀ lower, levels = lower + 1 → ∀ text b files,
      (executeAt registry lower text).Speaks b files)
    (text : List Char) (b : Buffer) (files : FileTree) :
    (executeAt registry levels text).Speaks b files := by
  cases range : b.range text with
  | error e =>
    exact .silent (.error (.address e)) { b with cursor := b.cursorAfter text } files
      fun sink => effect_executeAt_refused range
  | ok found =>
    cases found with
    | none =>
      exact (speaks_runCommand builtin text b files).of_moved
        fun sink => effect_executeAt_command range
    | some p =>
      cases cut : b.slice? p.range.start p.range.stop with
      | none =>
        exact .silent (.error (.bounds p.range.start p.range.stop b.count))
          { b with cursor := b.cursorAfter text } files
          fun sink => effect_executeAt_outside registry levels range cut
      | some slice =>
        cases blank : Text.allBlank p.rest with
        | true =>
          exact (speaks_showRange p.range slice { b with cursor := b.cursorAfter text } files).of_moved
            fun sink => effect_executeAt_shown range cut blank
        | false =>
          cases levels with
          | zero =>
            exact .silent (.error .nestingTooDeep) { b with cursor := b.cursorAfter text } files
              fun sink => effect_executeAt_tooDeep range cut blank
          | succ lower =>
            exact speaks_executeAt_nested range cut blank (nested lower rfl p.rest slice files)

theorem speaks_executeAt (builtin : registry.commands = Registry.builtin.commands) (levels : Nat)
    (text : List Char) (b : Buffer) (files : FileTree) :
    (executeAt registry levels text).Speaks b files := by
  induction levels generalizing text b files with
  | zero =>
    refine speaks_executeAt_of builtin ?_ text b files
    intro lower same
    contradiction
  | succ levels ih =>
    refine speaks_executeAt_of builtin ?_ text b files
    rintro lower same
    obtain rfl : levels = lower := Nat.succ.inj same
    exact ih

namespace Session

variable {s : Session} {desk : Desk} {text : String} {written : ByteArray} {room : Nat}

/-- On a display with this much room a text does what it does on one of its own, or the display is full
in the middle of what is shown. -/
theorem execute_limited (builtin : s.registry.commands = Registry.builtin.commands) (desk : Desk)
    (text : String) (written : ByteArray) (room : Nat) :
    let shown := (s.turn desk text).2.sink.written
    let limited := effect (execute s.registry text) { desk with sink := ⟨written, some room⟩ }
    shown.size ≤ room ∧ limited = ((s.turn desk text).1,
        { (s.turn desk text).2 with sink := ⟨written ++ shown, some (room - shown.size)⟩ }) ∨
      room < shown.size ∧ (s.turn desk text).1 = .ok .proceed ∧
        ∃ cursor, limited = (.error (.output .full),
          ⟨{ (s.turn desk text).2.buffer with cursor }, (s.turn desk text).2.files,
            ⟨written ++ shown.extract 0 room, some 0⟩⟩) := by
  intro shown limited
  cases speaks_executeAt builtin (maxDepth - 1) text.toList desk.buffer desk.files with
  | silent result after left same =>
    have alone : s.turn desk text = (result, ⟨after, left, .unlimited⟩) := same .unlimited
    have nothing : shown = .empty := by
      simp only [shown, alone]
      rfl
    refine .inl ⟨by simp [nothing], ?_⟩
    rw [nothing, ByteArray.append_empty, alone]
    exact same ⟨written, some room⟩
  | shown said moved stopped taken cut =>
    have alone : s.turn desk text = (.ok .proceed, ⟨{ desk.buffer with cursor := moved }, desk.files,
        ⟨.empty ++ said.toUTF8, none⟩⟩) := taken .unlimited _ rfl
    have same : shown = said.toUTF8 := by
      simp only [shown, alone, ByteArray.empty_append]
    rcases Nat.lt_or_ge room said.toUTF8.size with exceeds | fits
    · refine .inr ⟨by rwa [same], by rw [alone], stopped, ?_⟩
      rw [same, alone]
      exact cut _ _ (Sink.write_of_gt exceeds)
    · refine .inl ⟨by rwa [same], ?_⟩
      rw [same, alone]
      exact taken _ _ (Sink.write_of_le fits)

/-- The texts that a display with this much room lets a session do. With the prompt behind them more is
shown than there is room for; with the prompt behind any earlier one everything still fits. -/
structure Fills (s : Session) (desk : Desk) (room : Nat) (texts : List String) : Prop where
  goesOn : s.StaysOpen desk texts
  exceeds : room < (s.transcript desk texts ++ s.prompt.toUTF8).size
  fits : ∀ front, front <+: texts → front ≠ texts →
    (s.transcript desk front ++ s.prompt.toUTF8).size ≤ room

theorem Fills.prompt (exceeds : room < s.prompt.toUTF8.size) : s.Fills desk room [] := by
  refine ⟨trivial, ?_, fun front before short => ?_⟩
  · rwa [transcript, ByteArray.empty_append]
  · exact (short (List.prefix_nil.mp before)).elim

theorem reply_size (s : Session) (desk : Desk) (text : String) :
    s.prompt.toUTF8.size ≤ (s.reply desk text).size := by
  simp only [reply, ByteArray.size_append]
  omega

theorem fits_cons (fits : s.prompt.toUTF8.size ≤ room) (before : front <+: text :: texts)
    (later : ∀ behind, front = text :: behind → behind <+: texts →
      (s.reply desk text ++ s.transcript (s.turn desk text).2 behind ++ s.prompt.toUTF8).size ≤ room) :
    (s.transcript desk front ++ s.prompt.toUTF8).size ≤ room := by
  cases front with
  | nil => rwa [transcript, ByteArray.empty_append]
  | cons first behind =>
    obtain ⟨rfl, inside⟩ := List.cons_prefix_cons.mp before
    exact later behind rfl inside

theorem Fills.single (goesOn : ¬ s.Quits desk text) (fits : s.prompt.toUTF8.size ≤ room)
    (exceeds : room < (s.reply desk text).size) : s.Fills desk room [text] := by
  refine ⟨⟨goesOn, trivial⟩, ?_, fun front before short => ?_⟩
  · simp only [transcript, ByteArray.size_append]
    omega
  · refine fits_cons fits before fun behind same inside => ?_
    rw [List.prefix_nil.mp inside] at same
    exact (short same).elim

theorem Fills.cons (goesOn : ¬ s.Quits desk text) (fits : (s.reply desk text).size ≤ room)
    (later : s.Fills (s.turn desk text).2 (room - (s.reply desk text).size) texts) :
    s.Fills desk room (text :: texts) := by
  have exceeds := later.exceeds
  refine ⟨⟨goesOn, later.goesOn⟩, ?_, fun front before short => ?_⟩
  · simp only [transcript, ByteArray.size_append] at exceeds ⊢
    omega
  · refine fits_cons (Nat.le_trans (s.reply_size desk text) fits) before fun behind same inside => ?_
    have other : behind ≠ texts := by
      rintro rfl
      exact short same
    have within := later.fits behind inside other
    simp only [ByteArray.size_append] at within ⊢
    omega

variable {p q : Progress}

theorem display_fits (there : q.desk = ⟨b, files, ⟨written, some room⟩⟩)
    (fits : text.toUTF8.size ≤ room) :
    ∃ next, q.display text = .ok next ∧
      next.desk = ⟨b, files, ⟨written ++ text.toUTF8, some (room - text.toUTF8.size)⟩⟩ := by
  have taken : Sink.write ⟨written, some room⟩ text = _ := Sink.write_of_le fits
  simp only [Progress.display, there, taken, if_true]
  exact ⟨_, rfl, rfl⟩

theorem display_over (there : q.desk = ⟨b, files, ⟨written, some room⟩⟩)
    (exceeds : room < text.toUTF8.size) :
    ∃ ended, q.display text = .error ended ∧ ended.result = .error (.output .full) ∧
      ended.desk = ⟨b, files, ⟨written ++ text.toUTF8.extract 0 room, some 0⟩⟩ := by
  have cut : Sink.write ⟨written, some room⟩ text = _ := Sink.write_of_gt exceeds
  simp only [Progress.display, there, cut, Bool.false_eq_true, if_false]
  exact ⟨_, rfl, rfl, rfl⟩

theorem complaint_error_size (e : CommandError) : 0 < (complaint (.error e)).toUTF8.size := by
  have bytes : (complaint (.error e)).toUTF8 = ("error: " ++ e.message).toUTF8 ++ "\n".toUTF8 :=
    String.toByteArray_append
  have feed : "\n".toUTF8.size = 1 := rfl
  rw [bytes, ByteArray.size_append, feed]
  omega

def answered (s : Session) (desk : Desk) (text : String) : ByteArray :=
  (s.turn desk text).2.sink.written ++ (complaint (s.turn desk text).1).toUTF8

theorem answered_size (s : Session) (desk : Desk) (text : String) :
    (s.answered desk text).size = (s.turn desk text).2.sink.written.size +
      (complaint (s.turn desk text).1).toUTF8.size :=
  ByteArray.size_append

theorem reply_eq (s : Session) (desk : Desk) (text : String) :
    s.reply desk text = s.prompt.toUTF8 ++ s.answered desk text :=
  ByteArray.append_assoc

theorem answer_fits (builtin : s.registry.commands = Registry.builtin.commands)
    (there : q.desk = { desk with sink := ⟨written, some room⟩ }) (said : Says piece text)
    (goesOn : ¬ s.Quits desk text) (fits : (s.answered desk text).size ≤ room) :
    ∃ next, s.answer q piece = .ok next ∧
      next.desk = { (s.turn desk text).2 with
        sink := ⟨written ++ s.answered desk text, some (room - (s.answered desk text).size)⟩ } := by
  have size := s.answered_size desk text
  rcases execute_limited builtin desk text written room with ⟨-, done⟩ | ⟨exceeds, -, -⟩
  · rw [← there] at done
    obtain ⟨behind, left, reported⟩ := answer_eq_display said done goesOn
    rw [reported, size, answered, ← ByteArray.append_assoc, ← Nat.sub_sub]
    exact display_fits left (by omega)
  · omega

/-- Where the text itself fits, the complaint about it is cut off. Otherwise nothing of the error that this
is fits any more. -/
theorem answer_over (builtin : s.registry.commands = Registry.builtin.commands)
    (there : q.desk = { desk with sink := ⟨written, some room⟩ }) (said : Says piece text)
    (goesOn : ¬ s.Quits desk text) (exceeds : room < (s.answered desk text).size) :
    ∃ ended, s.answer q piece = .error ended ∧ ended.result = .error (.output .full) ∧
      ended.desk.files = (s.turn desk text).2.files ∧
      ended.desk.sink.written = written ++ (s.answered desk text).extract 0 room ∧
      ∃ cursor, ended.desk.buffer = { (s.turn desk text).2.buffer with cursor } := by
  have size := s.answered_size desk text
  rcases execute_limited builtin desk text written room with
    ⟨fits, done⟩ | ⟨cut, proceeds, cursor, done⟩ <;> rw [← there] at done
  · obtain ⟨behind, left, reported⟩ := answer_eq_display said done goesOn
    have rest : room - (s.turn desk text).2.sink.written.size <
        (complaint (s.turn desk text).1).toUTF8.size := by omega
    obtain ⟨ended, full, result, last⟩ := display_over left rest
    refine ⟨ended, reported.trans full, result, by rw [last], ?_, _, by rw [last]⟩
    rw [last, answered, Sink.extract_append_of_ge fits, ByteArray.append_assoc]
  · obtain ⟨behind, left, reported⟩ := answer_eq_display said done (by simp)
    obtain ⟨ended, full, result, last⟩ := display_over left (complaint_error_size _)
    refine ⟨ended, reported.trans full, result, by rw [last], ?_, cursor, by rw [last]⟩
    have nothing : (complaint (.error (.output .full))).toUTF8.extract 0 0 = .empty :=
      ByteArray.extract_eq_empty_iff.mpr (by omega)
    rw [last, nothing, ByteArray.append_empty, answered,
      Sink.extract_append_of_le (Nat.le_of_lt cut)]

/-- A session ends because its display is full. It has done what these pieces say and never looks at
what is behind them. -/
structure Overflows (s : Session) (q : Progress) (desk : Desk) (written : ByteArray) (room : Nat)
    (ran : List (List UInt8)) (texts : List String) (ended : Ended) : Prop where
  said : List.Forall₂ Says ran texts
  fills : s.Fills desk room texts
  ignored : ∀ others, s.runPieces (ran ++ others) q = ended
  result : ended.result = .error (.output .full)
  shown : ended.desk.sink.written =
    (written ++ s.transcript desk texts ++ s.prompt.toUTF8).extract 0 (written.size + room)
  files : ended.desk.files = (s.after desk texts).files
  buffer : ∃ cursor, ended.desk.buffer = { (s.after desk texts).buffer with cursor }

theorem ask_over (there : q.desk = { desk with sink := ⟨written, some room⟩ })
    (exceeds : room < s.prompt.toUTF8.size) :
    ∃ ended, s.Overflows q desk written room [] [] ended := by
  obtain ⟨ended, full, result, last⟩ := display_over there exceeds
  refine ⟨ended, .nil, .prompt exceeds, fun others => ?_, result, ?_, by rw [last]; rfl,
    desk.buffer.cursor, by rw [last]; rfl⟩
  · cases others with
    | nil => rw [List.append_nil, runPieces, ask, full]
    | cons piece others => rw [List.nil_append, runPieces, ask, full]; rfl
  · rw [last, transcript, ByteArray.append_empty, Sink.extract_append_of_ge (Nat.le_add_right _ _),
      Nat.add_sub_cancel_left]

theorem runPieces_over (builtin : s.registry.commands = Registry.builtin.commands)
    (there : q.desk = { desk with sink := ⟨written, some room⟩ }) (said : Says piece text)
    (goesOn : ¬ s.Quits desk text) (fits : s.prompt.toUTF8.size ≤ room)
    (exceeds : room < (s.reply desk text).size) :
    ∃ ended, s.Overflows q desk written room [piece] [text] ended := by
  obtain ⟨asked, shown, here⟩ := display_fits there fits
  have rest : room - s.prompt.toUTF8.size < (s.answered desk text).size := by
    rw [reply_eq, ByteArray.size_append] at exceeds
    omega
  obtain ⟨ended, answered, result, files, last, buffer⟩ :=
    answer_over builtin here said goesOn rest
  refine ⟨ended, .cons said .nil, .single goesOn fits exceeds, fun others => ?_, result, ?_, files,
    buffer⟩
  · rw [List.cons_append, runPieces, ask, shown, Except.bind, answered]
  · simp only [last, transcript, ByteArray.append_empty, ByteArray.append_assoc]
    rw [Sink.extract_append_of_ge (Nat.le_add_right _ _), Nat.add_sub_cancel_left,
      Sink.extract_append_of_le (Nat.le_of_lt exceeds), reply_eq, Sink.extract_append_of_ge fits]

theorem Overflows.cons (said : Says piece text) (goesOn : ¬ s.Quits desk text)
    (fits : (s.reply desk text).size ≤ room)
    (same : ∀ rest, s.runPieces (piece :: rest) q = s.runPieces rest next)
    (later : s.Overflows next (s.turn desk text).2 (written ++ s.reply desk text)
      (room - (s.reply desk text).size) ran texts ended) :
    s.Overflows q desk written room (piece :: ran) (text :: texts) ended := by
  refine ⟨.cons said later.said, .cons goesOn fits later.fills, fun others => ?_, later.result, ?_,
    later.files, later.buffer⟩
  · rw [List.cons_append, same, later.ignored]
  · have total : (written ++ s.reply desk text).size + (room - (s.reply desk text).size) =
        written.size + room := by
      rw [ByteArray.size_append]
      omega
    simp only [later.shown, total, transcript, ByteArray.append_assoc]

theorem runPieces_fits (builtin : s.registry.commands = Registry.builtin.commands)
    (there : q.desk = { desk with sink := ⟨written, some room⟩ }) (said : Says piece text)
    (goesOn : ¬ s.Quits desk text) (fits : (s.reply desk text).size ≤ room) :
    ∃ next : Progress, (∀ rest, s.runPieces (piece :: rest) q = s.runPieces rest next) ∧
      next.desk = { (s.turn desk text).2 with
        sink := ⟨written ++ s.reply desk text, some (room - (s.reply desk text).size)⟩ } := by
  have size : (s.reply desk text).size = s.prompt.toUTF8.size + (s.answered desk text).size := by
    rw [reply_eq, ByteArray.size_append]
  have first : s.prompt.toUTF8.size ≤ room := by omega
  obtain ⟨asked, shown, here⟩ := display_fits there first
  obtain ⟨next, answered, behind⟩ := answer_fits builtin here said goesOn (by omega)
  refine ⟨next, fun rest => ?_, ?_⟩
  · rw [runPieces, ask, shown, Except.bind, answered]
  · rw [behind, reply_eq, ByteArray.append_assoc, ByteArray.size_append, Nat.sub_sub]

/-- The session comes to the same as on a display without limit, where it shows no more than there is
room for. -/
def Agrees (short full : Ended) (total : Nat) : Prop :=
  full.desk.sink.written.size ≤ total ∧ short.result = full.result ∧
    short.desk.buffer = full.desk.buffer ∧ short.desk.files = full.desk.files ∧
    short.desk.sink.written = full.desk.sink.written

theorem Agrees.of_desk {short full : Ended} (result : short.result = full.result)
    (there : short.desk = ⟨b, files, ⟨shown, left⟩⟩) (free : full.desk = ⟨b, files, ⟨shown, none⟩⟩)
    (fits : shown.size ≤ total) : Agrees short full total := by
  rw [Agrees, there, free]
  exact ⟨fits, result, rfl, rfl, rfl⟩

theorem agrees_nil (place : At p desk written)
    (there : q.desk = { desk with sink := ⟨written, some room⟩ })
    (fits : s.prompt.toUTF8.size ≤ room) :
    Agrees (s.runPieces [] q) (s.runPieces [] p) (written.size + room) := by
  obtain ⟨asked, shown, here⟩ := display_fits there fits
  obtain ⟨result, free⟩ := runPieces_nil (s := s) place
  have short : s.runPieces [] q = asked.close .endOfInput := by
    rw [runPieces, ask, shown]
  have last : (s.runPieces [] q).desk = asked.desk := by
    rw [short]
    rfl
  refine .of_desk ?_ (last.trans here) free ?_
  · rw [short, result]
    rfl
  · rw [ByteArray.size_append]
    omega

theorem agrees_foreign (place : At p desk written)
    (there : q.desk = { desk with sink := ⟨written, some room⟩ })
    (foreign : commandText? piece = none) (fits : s.prompt.toUTF8.size ≤ room)
    (rest : List (List UInt8)) :
    Agrees (s.runPieces (piece :: rest) q) (s.runPieces (piece :: rest) p)
      (written.size + room) := by
  obtain ⟨asked, shown, here⟩ := display_fits there fits
  obtain ⟨result, free⟩ := runPieces_foreign (s := s) place foreign rest
  have short : s.runPieces (piece :: rest) q = ⟨.error .invalidText, asked.desk, asked.events⟩ := by
    rw [runPieces, ask, shown, Except.bind, answer, foreign]
  have last : (s.runPieces (piece :: rest) q).desk = asked.desk := by rw [short]
  refine .of_desk ?_ (last.trans here) free ?_
  · rw [short, result]
  · rw [ByteArray.size_append]
    omega

/-- A text that quits has shown all that it shows. -/
theorem answer_quit_limited (builtin : s.registry.commands = Registry.builtin.commands)
    (there : q.desk = { desk with sink := ⟨written, some room⟩ }) (said : Says piece text)
    (quits : s.Quits desk text) :
    let shown := (s.turn desk text).2.sink.written
    shown.size ≤ room ∧ ∃ ended, s.answer q piece = .error ended ∧ ended.result = .ok .quit ∧
      ended.desk = { (s.turn desk text).2 with
        sink := ⟨written ++ shown, some (room - shown.size)⟩ } := by
  have found := commandText?_eq_some_iff.mpr said
  rcases execute_limited builtin desk text written room with ⟨fits, done⟩ | ⟨-, proceeds, -⟩
  · rw [← there, quits] at done
    obtain ⟨result, left⟩ := Prod.mk.inj done
    simp only [answer, found, result]
    exact ⟨fits, _, rfl, rfl, left⟩
  · rw [quits] at proceeds
    contradiction

theorem agrees_quit (builtin : s.registry.commands = Registry.builtin.commands)
    (commands : ∀ c ∈ s.registry.commands, c.Appends) (place : At p desk written)
    (there : q.desk = { desk with sink := ⟨written, some room⟩ }) (said : Says piece text)
    (quits : s.Quits desk text) (fits : s.prompt.toUTF8.size ≤ room) (rest : List (List UInt8)) :
    Agrees (s.runPieces (piece :: rest) q) (s.runPieces (piece :: rest) p) (written.size + room) := by
  obtain ⟨asked, shown, here⟩ := display_fits there fits
  obtain ⟨quiet, short, answered, quit, last⟩ := answer_quit_limited builtin here said quits
  obtain ⟨full, same, result, free⟩ := runPieces_quit commands place said quits
  have reply : s.reply desk text = s.prompt.toUTF8 ++ (s.turn desk text).2.sink.written := by
    have silent : (complaint (.ok .quit)).toUTF8 = .empty := rfl
    rw [Session.reply, quits, silent, ByteArray.append_empty]
  rw [same, runPieces, ask, shown, Except.bind, answered]
  rw [reply, ← ByteArray.append_assoc] at free
  refine .of_desk (quit.trans result.symm) last free ?_
  simp only [ByteArray.size_append]
  omega

/-- Each piece that fits leaves less room for those behind it. -/
theorem runPieces_limited (builtin : s.registry.commands = Registry.builtin.commands)
    (commands : ∀ c ∈ s.registry.commands, c.Appends) (parts : List (List UInt8))
    (place : At p desk written) (there : q.desk = { desk with sink := ⟨written, some room⟩ }) :
    Agrees (s.runPieces parts q) (s.runPieces parts p) (written.size + room) ∨
      ∃ ran left texts, parts = ran ++ left ∧
        s.Overflows q desk written room ran texts (s.runPieces parts q) := by
  induction parts generalizing p q desk written room with
  | nil =>
    rcases Nat.lt_or_ge room s.prompt.toUTF8.size with exceeds | fits
    · obtain ⟨ended, overflows⟩ := ask_over there exceeds
      exact .inr ⟨[], [], [], rfl, overflows.ignored [] ▸ overflows⟩
    · exact .inl (agrees_nil place there fits)
  | cons piece rest ih =>
    rcases Nat.lt_or_ge room s.prompt.toUTF8.size with exceeds | fits
    · obtain ⟨ended, overflows⟩ := ask_over there exceeds
      exact .inr ⟨[], piece :: rest, [], rfl, overflows.ignored (piece :: rest) ▸ overflows⟩
    cases found : commandText? piece with
    | none => exact .inl (agrees_foreign place there found fits rest)
    | some text =>
      have said := commandText?_eq_some_iff.mp found
      by_cases quits : s.Quits desk text
      · exact .inl (agrees_quit builtin commands place there said quits fits rest)
      rcases Nat.lt_or_ge room (s.reply desk text).size with exceeds | whole
      · obtain ⟨ended, overflows⟩ := runPieces_over builtin there said quits fits exceeds
        exact .inr ⟨[piece], rest, [text], rfl, overflows.ignored rest ▸ overflows⟩
      obtain ⟨next, sameFull, placeNext⟩ := runPieces_open commands place said quits
      obtain ⟨nextShort, same, thereNext⟩ := runPieces_fits builtin there said quits whole
      have total : (written ++ s.reply desk text).size + (room - (s.reply desk text).size) =
          written.size + room := by
        rw [ByteArray.size_append]
        omega
      rw [same, sameFull]
      rcases ih placeNext thereNext with agrees | ⟨ran, left, texts, split, later⟩
      · exact .inl (total ▸ agrees)
      · refine .inr ⟨piece :: ran, left, text :: texts, by rw [split, List.cons_append], ?_⟩
        exact later.cons said quits whole same

theorem Exit.tail_eq (exit : s.Exit desk texts left result tail) (nothing : texts = []) :
    tail = s.prompt.toUTF8 := by
  cases exit with
  | quit front last _ _ => simp at nothing
  | endOfInput _ => rfl
  | invalidText _ _ => rfl

/-- Whatever the input, the first thing that is shown is a prompt. -/
theorem runPieces_prompt (commands : ∀ c ∈ s.registry.commands, c.Appends)
    (parts : List (List UInt8)) (place : At p desk written) :
    ∃ more, (s.runPieces parts p).desk.sink.written = written ++ s.prompt.toUTF8 ++ more := by
  obtain ⟨ran, left, texts, tail, -, -, exit, last, -⟩ := runPieces_folds commands parts place
  rw [last]
  cases texts with
  | nil =>
    refine ⟨.empty, ?_⟩
    simp only [exit.tail_eq rfl, transcript, ByteArray.append_empty]
  | cons text texts =>
    refine ⟨s.answered desk text ++ s.transcript (s.turn desk text).2 texts ++ tail, ?_⟩
    simp only [transcript, reply_eq, ByteArray.append_assoc]

theorem runPieces_behind (commands : ∀ c ∈ s.registry.commands, c.Appends)
    (said : List.Forall₂ Says ran texts) (place : At p desk written) (goesOn : s.StaysOpen desk texts) :
    ∃ next, At next (s.after desk texts) (written ++ s.transcript desk texts) ∧
      ∀ left, s.runPieces (ran ++ left) p = s.runPieces left next := by
  induction said generalizing p desk written with
  | nil =>
    refine ⟨p, ?_, fun left => rfl⟩
    rw [transcript, ByteArray.append_empty]
    exact place
  | cons first _ ih =>
    obtain ⟨next, same, there⟩ := runPieces_open commands place first goesOn.1
    obtain ⟨last, arrived, later⟩ := ih there goesOn.2
    refine ⟨last, ?_, fun left => (same _).trans (later left)⟩
    rw [transcript, ← ByteArray.append_assoc]
    exact arrived

/-- What a session shows begins with what it shows of the first texts and the prompt behind them. -/
theorem runPieces_through (commands : ∀ c ∈ s.registry.commands, c.Appends)
    (said : List.Forall₂ Says ran texts) (place : At p desk written) (goesOn : s.StaysOpen desk texts)
    (left : List (List UInt8)) :
    ∃ more, (s.runPieces (ran ++ left) p).desk.sink.written =
      written ++ s.transcript desk texts ++ s.prompt.toUTF8 ++ more := by
  obtain ⟨next, there, behind⟩ := runPieces_behind commands said place goesOn
  rw [behind]
  exact runPieces_prompt commands left there

end Session

/-- A display that takes so many bytes shows as much of a session as it can. If that is all, the session
comes to the same as without a limit. If it is not, the session breaks off with an error. Up to there it
has done the same: it leaves the document, but for the current line, and the files as they are without a
limit when the texts have been done that there was room for, and takes no notice of input behind them. -/
theorem Session.run_limited (width : Nat) (prompt : String) (input : ByteArray) (b : Buffer)
    (files : FileTree) (room : Nat) :
    let s : Session := ⟨{ Registry.builtin with numberWidth := width }, prompt⟩
    let start : Desk := ⟨b, files, .unlimited⟩
    let full := s.run input start
    let short := s.run input ⟨b, files, .limited room⟩
    short.desk.sink.written = full.desk.sink.written.extract 0 room ∧
    (full.desk.sink.written.size ≤ room → short.result = full.result ∧
      short.desk.buffer = full.desk.buffer ∧ short.desk.files = full.desk.files) ∧
    (room < full.desk.sink.written.size → short.result = .error (.output .full) ∧
      ∃ ran left texts, Cut input.data.toList (ran ++ left) ∧ List.Forall₂ Says ran texts ∧
        s.Fills start room texts ∧
        (∃ cursor, short.desk.buffer = { (s.after start texts).buffer with cursor }) ∧
        short.desk.files = (s.after start texts).files ∧
        ∀ (other : ByteArray) (others : List (List UInt8)), Cut other.data.toList (ran ++ others) →
          s.run other ⟨b, files, .limited room⟩ = short) := by
  intro s start full short
  have commands : ∀ c ∈ s.registry.commands, c.Appends := fun _ => Registry.builtin_appends
  have place : At (.start start) start .empty := rfl
  have there : (Progress.start ⟨b, files, .limited room⟩).desk =
      { start with sink := ⟨.empty, some room⟩ } := rfl
  have total : ByteArray.empty.size + room = room := Nat.zero_add room
  have outcome : Agrees short full (ByteArray.empty.size + room) ∨
      ∃ ran left texts, pieces input.data.toList = ran ++ left ∧
        s.Overflows (.start ⟨b, files, .limited room⟩) start .empty room ran texts short :=
    runPieces_limited rfl commands (pieces input.data.toList) place there
  rcases outcome with ⟨fits, result, buffer, left, shown⟩ | ⟨ran, left, texts, split, overflows⟩
  · rw [total] at fits
    refine ⟨?_, fun _ => ⟨result, buffer, left⟩, fun exceeds => ?_⟩
    · rw [Sink.extract_of_size_le fits]
      exact shown
    · exact (Nat.not_lt.mpr fits exceeds).elim
  · obtain ⟨more, all⟩ := runPieces_through commands overflows.said place overflows.fills.goesOn left
    rw [← split, ByteArray.empty_append] at all
    change full.desk.sink.written = _ at all
    have exceeds := overflows.fills.exceeds
    have cut := Cut.of_pieces input.data.toList
    rw [split] at cut
    refine ⟨?_, fun fits => ?_, fun _ => ⟨overflows.result, ran, left, texts, cut, overflows.said,
      overflows.fills, overflows.buffer, overflows.files, ?_⟩⟩
    · rw [all, Sink.extract_append_of_le (Nat.le_of_lt exceeds), ← total]
      simpa only [ByteArray.empty_append] using overflows.shown
    · rw [all, ByteArray.size_append] at fits
      omega
    · intro other others cutOther
      rw [run, ← cutOther.eq_pieces]
      exact overflows.ignored others

/-- The lines are shown as far as there is room, and the command behind that is not done. -/
theorem Session.run_limited_mid_line :
    let s : Session := ⟨{ Registry.builtin with numberWidth := 6 }, "> "⟩
    let b : Buffer := .ofLines ["abc"]
    let full := s.run "p\nd\n".toUTF8 ⟨b, ⟨[], []⟩, .unlimited⟩
    let short := s.run "p\nd\n".toUTF8 ⟨b, ⟨[], []⟩, .limited 4⟩
    full.desk.sink.written = "> abc\n> > ".toUTF8 ∧ full.desk.buffer.lines = [] ∧
      4 < full.desk.sink.written.size ∧ short.desk.sink.written = "> ab".toUTF8 ∧
      short.result = .error (.output .full) ∧ short.desk.buffer.lines = ["abc"] := by
  intro s b full short
  have shown : full.desk.sink.written = "> abc\n> > ".toUTF8 := by decide +kernel
  have cleared : full.desk.buffer.lines = [] := by decide +kernel
  have exceeds : 4 < full.desk.sink.written.size := by
    rw [shown]
    decide
  obtain ⟨cut, -, breaks⟩ := run_limited 6 "> " "p\nd\n".toUTF8 b ⟨[], []⟩ 4
  obtain ⟨result, -⟩ := breaks exceeds
  have front : "> abc\n> > ".toUTF8.extract 0 4 = "> ab".toUTF8 := by decide +kernel
  have left : short.desk.buffer.lines = ["abc"] := by decide +kernel
  exact ⟨shown, cleared, exceeds, cut.trans (by rw [shown, front]), result, left⟩

end LineEditor
