import Mathlib.Data.List.Forall2
import LineEditor.Proofs.Display
import LineEditor.Proofs.Pieces

/-! A session as a fold. Doing texts one after the other, each on a display of its own, gives the
documents that the session goes through; what each has shown, between prompts and complaints, gives what
stands on the display of the session. -/
namespace LineEditor
open LineEditor.Action (effect)

namespace Session

def turn (s : Session) (desk : Desk) (text : String) : Except CommandError Flow × Desk :=
  effect (execute s.registry text) { desk with sink := .unlimited }

def after (s : Session) (desk : Desk) (texts : List String) : Desk :=
  texts.foldl (fun desk text => (s.turn desk text).2) desk

def complaint : Except CommandError Flow → String
  | .ok _ => ""
  | .error e => "error: " ++ e.message ++ "\n"

/-- What a session shows of one text, from the prompt that it answers. -/
def reply (s : Session) (desk : Desk) (text : String) : ByteArray :=
  s.prompt.toUTF8 ++ (s.turn desk text).2.sink.written ++ (complaint (s.turn desk text).1).toUTF8

def transcript (s : Session) : Desk → List String → ByteArray
  | _, [] => .empty
  | desk, text :: later => s.reply desk text ++ s.transcript (s.turn desk text).2 later

def Quits (s : Session) (desk : Desk) (text : String) : Prop := (s.turn desk text).1 = .ok .quit

/-- None of the texts quits, whether it fails or not. -/
def StaysOpen (s : Session) : Desk → List String → Prop
  | _, [] => True
  | desk, text :: later => ¬ s.Quits desk text ∧ s.StaysOpen (s.turn desk text).2 later

/-- How a session ends that has done some texts and has some pieces of its input left, and what it
shows at the end. -/
inductive Exit (s : Session) (desk : Desk) :
    List String → List (List UInt8) → Except StreamError ExitReason → ByteArray → Prop where
  | quit (front : List String) (last : String) : s.StaysOpen desk front →
      s.Quits (s.after desk front) last → Exit s desk (front ++ [last]) left (.ok .quit) .empty
  | endOfInput : s.StaysOpen desk texts → Exit s desk texts [] (.ok .endOfInput) s.prompt.toUTF8
  | invalidText : s.StaysOpen desk texts → (∀ text : String, text.toUTF8.data.toList ≠ piece) →
      Exit s desk texts (piece :: later) (.error .invalidText) s.prompt.toUTF8

variable {s : Session} {desk : Desk} {text : String}

theorem Exit.cons (goesOn : ¬ s.Quits desk text)
    (exit : s.Exit (s.turn desk text).2 texts left result tail) :
    s.Exit desk (text :: texts) left result tail := by
  cases exit with
  | quit front last before quits => exact .quit (text :: front) last ⟨goesOn, before⟩ quits
  | endOfInput before => exact .endOfInput ⟨goesOn, before⟩
  | invalidText before foreign => exact .invalidText ⟨goesOn, before⟩ foreign

/-- On the display of a session a text does what it does on one of its own. -/
theorem effect_execute_of_turn (commands : ∀ c ∈ s.registry.commands, c.Appends) (desk : Desk)
    (text : String) (written : ByteArray) :
    effect (execute s.registry text) ⟨desk.buffer, desk.files, ⟨written, none⟩⟩ =
      ((s.turn desk text).1, ⟨(s.turn desk text).2.buffer, (s.turn desk text).2.files,
        ⟨written ++ (s.turn desk text).2.sink.written, none⟩⟩) := by
  obtain ⟨result, after, left, shown, same⟩ :=
    appends_executeAt commands (maxDepth - 1) text.toList desk.buffer desk.files
  have alone : s.turn desk text = (result, ⟨after, left, ⟨.empty ++ shown, none⟩⟩) := same .empty
  rw [alone, ByteArray.empty_append]
  exact same written

/-- A session under way with this document and these files, and with what its display shows. -/
def At (p : Progress) (desk : Desk) (written : ByteArray) : Prop :=
  p.desk = ⟨desk.buffer, desk.files, ⟨written, none⟩⟩

variable {p : Progress}

theorem display_of_at (place : At p desk written) (text : String) :
    ∃ next, p.display text = .ok next ∧ At next desk (written ++ text.toUTF8) := by
  obtain ⟨current, events, done, failures⟩ := p
  obtain rfl : current = _ := place
  exact ⟨_, rfl, rfl⟩

theorem answer_quit (commands : ∀ c ∈ s.registry.commands, c.Appends) (place : At p desk written)
    (said : Says piece text) (quits : s.Quits desk text) :
    ∃ ended, s.answer p piece = .error ended ∧ ended.result = .ok .quit ∧
      ended.desk = ⟨(s.turn desk text).2.buffer, (s.turn desk text).2.files,
        ⟨written ++ (s.turn desk text).2.sink.written, none⟩⟩ := by
  have found := commandText?_eq_some_iff.mpr said
  have done := effect_execute_of_turn commands desk text written
  rw [← place, quits] at done
  obtain ⟨result, left⟩ := Prod.mk.inj done
  simp only [answer, found, result]
  exact ⟨_, rfl, rfl, left⟩

theorem display_empty (p : Progress) : p.display "" = .ok p := by
  rw [Progress.display, Sink.write_empty]
  rfl

/-- A text that does not quit is followed by a complaint, which says nothing if it has succeeded. -/
theorem answer_eq_display (said : Says piece text)
    (done : effect (execute s.registry text) p.desk = (result, left)) (goesOn : result ≠ .ok .quit) :
    ∃ next : Progress, next.desk = left ∧ s.answer p piece = next.display (complaint result) := by
  have found := commandText?_eq_some_iff.mpr said
  obtain ⟨outcome, there⟩ := Prod.mk.inj done
  cases result with
  | error e =>
    simp only [answer, found, outcome]
    exact ⟨_, there, rfl⟩
  | ok flow =>
    cases flow with
    | quit => exact (goesOn rfl).elim
    | proceed =>
      simp only [answer, found, outcome]
      exact ⟨_, there, (display_empty _).symm⟩

/-- A text that does not quit leaves the session open, and a failure is reported. -/
theorem answer_open (commands : ∀ c ∈ s.registry.commands, c.Appends) (place : At p desk written)
    (said : Says piece text) (goesOn : ¬ s.Quits desk text) :
    ∃ next, s.answer p piece = .ok next ∧
      At next (s.turn desk text).2
        (written ++ (s.turn desk text).2.sink.written ++ (complaint (s.turn desk text).1).toUTF8) := by
  have done := effect_execute_of_turn commands desk text written
  rw [← place] at done
  obtain ⟨next, there, answered⟩ := answer_eq_display said done goesOn
  rw [answered]
  exact display_of_at there _

/-- Without any input left the session ends behind a last prompt. -/
theorem runPieces_nil (place : At p desk written) :
    (s.runPieces [] p).result = .ok .endOfInput ∧
      (s.runPieces [] p).desk = ⟨desk.buffer, desk.files, ⟨written ++ s.prompt.toUTF8, none⟩⟩ := by
  obtain ⟨asked, shown, there⟩ := display_of_at place s.prompt
  rw [runPieces, ask, shown]
  exact ⟨rfl, there⟩

theorem runPieces_foreign (place : At p desk written) (foreign : commandText? piece = none)
    (rest : List (List UInt8)) :
    (s.runPieces (piece :: rest) p).result = .error .invalidText ∧
      (s.runPieces (piece :: rest) p).desk =
        ⟨desk.buffer, desk.files, ⟨written ++ s.prompt.toUTF8, none⟩⟩ := by
  obtain ⟨asked, shown, there⟩ := display_of_at place s.prompt
  rw [runPieces, ask, shown, Except.bind, answer, foreign]
  exact ⟨rfl, there⟩

theorem runPieces_quit (commands : ∀ c ∈ s.registry.commands, c.Appends) (place : At p desk written)
    (said : Says piece text) (quits : s.Quits desk text) :
    ∃ ended, (∀ rest, s.runPieces (piece :: rest) p = ended) ∧ ended.result = .ok .quit ∧
      ended.desk = ⟨(s.turn desk text).2.buffer, (s.turn desk text).2.files,
        ⟨written ++ s.reply desk text, none⟩⟩ := by
  obtain ⟨asked, shown, there⟩ := display_of_at place s.prompt
  obtain ⟨ended, answered, result, left⟩ := answer_quit commands there said quits
  have silent : (complaint (.ok .quit)).toUTF8 = .empty := rfl
  refine ⟨ended, ?_, result, ?_⟩
  · intro rest
    rw [runPieces, ask, shown, Except.bind, answered]
  · rw [left, reply, quits, silent, ByteArray.append_empty, ByteArray.append_assoc]

theorem runPieces_open (commands : ∀ c ∈ s.registry.commands, c.Appends) (place : At p desk written)
    (said : Says piece text) (goesOn : ¬ s.Quits desk text) :
    ∃ next, (∀ rest, s.runPieces (piece :: rest) p = s.runPieces rest next) ∧
      At next (s.turn desk text).2 (written ++ s.reply desk text) := by
  obtain ⟨asked, shown, there⟩ := display_of_at place s.prompt
  obtain ⟨next, answered, arrived⟩ := answer_open commands there said goesOn
  refine ⟨next, ?_, ?_⟩
  · intro rest
    rw [runPieces, ask, shown, Except.bind, answered]
  · simpa only [reply, ByteArray.append_assoc] using arrived

/-- What a session has done by its end, from a point on where it has some pieces of its input before
it, is to do the texts of the first of them. -/
def Folds (s : Session) (p : Progress) (parts : List (List UInt8)) (desk : Desk)
    (written : ByteArray) : Prop :=
  ∃ ran left texts tail, parts = ran ++ left ∧ List.Forall₂ Says ran texts ∧
    s.Exit desk texts left (s.runPieces parts p).result tail ∧
    (s.runPieces parts p).desk = ⟨(s.after desk texts).buffer, (s.after desk texts).files,
      ⟨written ++ s.transcript desk texts ++ tail, none⟩⟩ ∧
    ((s.runPieces parts p).result = .ok .quit →
      ∀ others, s.runPieces (ran ++ others) p = s.runPieces parts p)

/-- No text is done behind the last prompt. -/
theorem Folds.of_stop (exit : s.Exit desk [] parts (s.runPieces parts p).result s.prompt.toUTF8)
    (stays : (s.runPieces parts p).result ≠ .ok .quit)
    (there : (s.runPieces parts p).desk =
      ⟨desk.buffer, desk.files, ⟨written ++ s.prompt.toUTF8, none⟩⟩) :
    s.Folds p parts desk written := by
  refine ⟨[], parts, [], s.prompt.toUTF8, rfl, .nil, exit, ?_, fun quit => (stays quit).elim⟩
  rw [there, transcript, ByteArray.append_empty]
  rfl

theorem Folds.of_quit (commands : ∀ c ∈ s.registry.commands, c.Appends) (place : At p desk written)
    (said : Says piece text) (quits : s.Quits desk text) (rest : List (List UInt8)) :
    s.Folds p (piece :: rest) desk written := by
  obtain ⟨ended, same, result, there⟩ := runPieces_quit commands place said quits
  refine ⟨[piece], rest, [text], .empty, rfl, .cons said .nil, ?_, ?_, ?_⟩
  · rw [same, result]
    exact .quit [] text trivial quits
  · rw [same, there, transcript, transcript, ByteArray.append_empty, ByteArray.append_empty]
    rfl
  · intro _ others
    exact (same others).trans (same rest).symm

theorem Folds.cons (same : ∀ rest, s.runPieces (piece :: rest) p = s.runPieces rest next)
    (said : Says piece text) (goesOn : ¬ s.Quits desk text)
    (later : s.Folds next rest (s.turn desk text).2 (written ++ s.reply desk text)) :
    s.Folds p (piece :: rest) desk written := by
  obtain ⟨ran, left, texts, tail, split, all, exit, ends, ignored⟩ := later
  refine ⟨piece :: ran, left, text :: texts, tail, ?_, .cons said all, ?_, ?_, ?_⟩
  · rw [split, List.cons_append]
  · rw [same]
    exact exit.cons goesOn
  · rw [same, ends]
    simp only [transcript, ByteArray.append_assoc]
    rfl
  · rw [same]
    intro quit others
    exact (same (ran ++ others)).trans (ignored quit others)

theorem runPieces_folds (commands : ∀ c ∈ s.registry.commands, c.Appends)
    (parts : List (List UInt8)) (place : At p desk written) : s.Folds p parts desk written := by
  induction parts generalizing p desk written with
  | nil =>
    obtain ⟨result, there⟩ := runPieces_nil (s := s) place
    refine .of_stop ?_ ?_ there <;> rw [result]
    · exact .endOfInput trivial
    · simp
  | cons piece rest ih =>
    cases found : commandText? piece with
    | none =>
      obtain ⟨result, there⟩ := runPieces_foreign (s := s) place found rest
      refine .of_stop ?_ ?_ there <;> rw [result]
      · exact .invalidText trivial (commandText?_eq_none_iff.mp found)
      · simp
    | some text =>
      have said := commandText?_eq_some_iff.mp found
      by_cases quits : s.Quits desk text
      · exact .of_quit commands place said quits rest
      · obtain ⟨next, same, there⟩ := runPieces_open commands place said quits
        exact .cons same said quits (ih there)

/-- A session does the texts of its input one after the other until one quits, the input is used up or
a piece is no text. -/
theorem run_folds (s : Session) (input : ByteArray) (desk : Desk) (unlimited : desk.sink.room = none)
    (commands : ∀ c ∈ s.registry.commands, c.Appends) :
    ∃ ran left texts tail, Cut input.data.toList (ran ++ left) ∧ List.Forall₂ Says ran texts ∧
      s.Exit desk texts left (s.run input desk).result tail ∧
      (s.run input desk).desk = ⟨(s.after desk texts).buffer, (s.after desk texts).files,
        ⟨desk.sink.written ++ s.transcript desk texts ++ tail, none⟩⟩ ∧
      ((s.run input desk).result = .ok .quit → ∀ (other : ByteArray) (others : List (List UInt8)),
        Cut other.data.toList (ran ++ others) → s.run other desk = s.run input desk) := by
  have place : At (.start desk) desk desk.sink.written := by
    obtain ⟨b, files, written, room⟩ := desk
    obtain rfl : room = none := unlimited
    rfl
  obtain ⟨ran, left, texts, tail, split, all, exit, ends, ignored⟩ :=
    runPieces_folds commands (pieces input.data.toList) place
  have cut := Cut.of_pieces input.data.toList
  rw [split] at cut
  refine ⟨ran, left, texts, tail, cut, all, exit, ends, ?_⟩
  intro quit other others cutOther
  rw [run, ← cutOther.eq_pieces]
  exact ignored quit others

theorem run_folds_complaint :
    let s : Session := ⟨.builtin, "> "⟩
    let desk : Desk := ⟨.empty, ⟨[], []⟩, .unlimited⟩
    let input := "i x\nzz\nq\np\n".toUTF8
    desk.sink.room = none ∧ (∀ c ∈ s.registry.commands, c.Appends) ∧
      (s.run input desk).desk.buffer.lines = ["x"] ∧
      (s.run input desk).desk.sink.written = "> > error: zz: command not found\n> ".toUTF8 ∧
      ∃ ran left texts tail, Cut input.data.toList (ran ++ left) ∧ List.Forall₂ Says ran texts ∧
        s.Exit desk texts left (.ok .quit) tail := by
  intro s desk input
  have commands : ∀ c ∈ s.registry.commands, c.Appends := fun _ => Registry.builtin_appends
  have lines : (s.run input desk).desk.buffer.lines = ["x"] := by decide +kernel
  have shown : (s.run input desk).desk.sink.written =
      "> > error: zz: command not found\n> ".toUTF8 := by decide +kernel
  have quit : (s.run input desk).result = .ok .quit := by decide +kernel
  obtain ⟨ran, left, texts, tail, cut, all, exit, -, -⟩ := run_folds s input desk rfl commands
  rw [quit] at exit
  exact ⟨rfl, commands, lines, shown, ran, left, texts, tail, cut, all, exit⟩

end Session
end LineEditor
