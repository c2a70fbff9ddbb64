import LineEditor.Proofs.Association

/-! Which terminator a document is stored with. A document without lines takes on that of a file that is
read into it, behind any ranges. Nothing else changes it, and nothing changes the numbering. -/
namespace LineEditor

/-- The text of the file that a call reads, if it is for reading and can read it. A file that it does not
name is the one that the document belongs to. -/
def Call.readText? (call : Call) (files : FileTree) : Option String :=
  if call.command.name = "r" then
    ((call.values.text? "filename").or call.document.file).bind fun path =>
      (files.readText path).toOption
  else none

/-- The terminator that a request brings into a document without lines: the one that is found in the file
that it reads, if it succeeds. -/
def Registry.adoptedEnding? (registry : Registry) (desk : Desk) (request : Request) :
    Option LineEnding :=
  if (registry.perform desk request).1.isOk ∧ desk.buffer.isEmpty then
    ((registry.called? desk request).bind (·.readText? desk.files)).map fun text =>
      (Text.Loaded.ofText text).ending
  else none

variable {registry : Registry} {desk : Desk} {request : Request} {call : Call}

/-- A call that succeeds leaves what it was given with the terminator of the file that it has read, if
there were no lines. -/
theorem Call.outcome_ending (builtin : registry.commands = Registry.builtin.commands)
    (found : registry.get? call.command.name = some call.command) (desk : Desk)
    (done : (call.outcome registry desk).1.isOk) :
    (call.outcome registry desk).2.buffer.ending =
      if call.document.isEmpty then
        ((call.readText? desk.files).map fun text => (Text.Loaded.ofText text).ending).getD
          call.document.ending
      else call.document.ending := by
  rw [readText?]
  by_cases named : call.command.name = "r"
  · rw [if_pos named]
    rw [outcome_read builtin found named] at done ⊢
    cases chosen : (call.values.text? "filename").or call.document.file with
    | none =>
      rw [chosen] at done
      contradiction
    | some path =>
      cases opened : desk.files.readText path with
      | error e =>
        simp only [chosen, opened] at done
        contradiction
      | ok text =>
        simp only [opened, Option.bind_some, Commands.takeIn_ending]
        rfl
  · have member : call.command ∈ Registry.builtin.commands := builtin ▸ Registry.mem_of_get? found
    have makes := Registry.builtin_makes member registry.catalogue call.values
      { desk with buffer := call.document }
    rw [if_neg named]
    exact (makes.ending named).trans (ite_self _).symm

namespace Registry

theorem perform_ending (builtin : registry.commands = Registry.builtin.commands) (desk : Desk)
    (request : Request) :
    (registry.perform desk request).2.buffer.ending =
      (registry.adoptedEnding? desk request).getD desk.buffer.ending := by
  rw [adoptedEnding?]
  cases called : registry.called? desk request with
  | none =>
    obtain ⟨result, cursor, sink, done⟩ := registry.perform_uncalled called
    rw [done, Option.bind_none, Option.map_none, ite_self]
    rfl
  | some call =>
    have settles := registry.settles_perform builtin called
    have lends := registry.lends_called called
    rw [settles.ending, Option.bind_some]
    by_cases adopts : (registry.perform desk request).1.isOk ∧ desk.buffer.isEmpty
    · rw [if_pos adopts, if_pos adopts, ← lends.ending,
        call.outcome_ending builtin (call?_get? called) _ (settles.result ▸ adopts.1),
        if_pos (lends.empty adopts.2)]
    · rw [if_neg adopts, if_neg adopts, Option.getD_none]

/-- Reading a file into a document without lines succeeds if the file can be read, and the document takes
on the terminator of the file. -/
theorem adoptedEnding?_read (builtin : registry.commands = Registry.builtin.commands)
    (called : registry.called? desk request = some call) (named : call.command.name = "r")
    (chosen : (call.values.text? "filename").or desk.buffer.file = some path)
    (opened : desk.files.readText path = .ok text) (empty : desk.buffer.isEmpty = true) :
    registry.adoptedEnding? desk request = some (Text.Loaded.ofText text).ending := by
  have works := registry.perform_read builtin called chosen named
  have done : (registry.perform desk request).1.isOk := by
    cases works with
    | read _ _ _ done => rw [done]; rfl
    | unread e _ unread => simp [opened] at unread
    | written notRead => simp [named] at notRead
    | unwritten e notRead => simp [named] at notRead
  have same := (registry.lends_called called).file
  rw [adoptedEnding?, if_pos ⟨done, empty⟩, called, Option.bind_some, Call.readText?, if_pos named, same,
    chosen, Option.bind_some, opened]
  rfl

theorem perform_firstNumber (builtin : registry.commands = Registry.builtin.commands) (desk : Desk)
    (request : Request) :
    (registry.perform desk request).2.buffer.firstNumber = desk.buffer.firstNumber := by
  cases called : registry.called? desk request with
  | none =>
    obtain ⟨result, cursor, sink, done⟩ := registry.perform_uncalled called
    rw [done]
  | some call => exact (registry.settles_perform builtin called).firstNumber

theorem performAll_firstNumber (builtin : registry.commands = Registry.builtin.commands) (desk : Desk)
    (requests : List Request) :
    (registry.performAll desk requests).buffer.firstNumber = desk.buffer.firstNumber := by
  induction requests generalizing desk with
  | nil => rfl
  | cons request later ih => exact (ih _).trans (registry.perform_firstNumber builtin desk request)

/-- After any run the document has the terminator that it adopted last in reading a file while it had no
lines, or else the one that it had before, and its numbering is the one that it had before. From there
the terminator stays if there are lines, and with every request that does not read. -/
theorem performAll_ending (width : Nat) (desk : Desk) (requests : List Request) :
    let registry := { Registry.builtin with numberWidth := width }
    let here := registry.performAll desk requests
    here.buffer.ending =
        (registry.noted registry.adoptedEnding? desk requests).getLast?.getD desk.buffer.ending ∧
    here.buffer.firstNumber = desk.buffer.firstNumber ∧
    ∀ request, (here.buffer.isEmpty = false ∨
        ∀ call, registry.called? here request = some call → call.command.name ≠ "r") →
      (registry.perform here request).2.buffer.ending = here.buffer.ending := by
  intro registry here
  have builtin : registry.commands = Registry.builtin.commands := rfl
  refine ⟨?_, registry.performAll_firstNumber builtin desk requests, fun request stays => ?_⟩
  · have step : ∀ desk request, (registry.perform desk request).2.buffer.ending =
        ((registry.adoptedEnding? desk request).map id).getD desk.buffer.ending := by
      intro desk request
      rw [Option.map_id, id, registry.perform_ending builtin]
    have last := registry.performAll_last (fun desk => desk.buffer.ending) step desk requests
    rwa [Option.map_id] at last
  · rw [registry.perform_ending builtin]
    suffices none : registry.adoptedEnding? here request = none by rw [none, Option.getD_none]
    rw [adoptedEnding?]
    rcases stays with filled | other
    · rw [filled, if_neg (by simp)]
    · cases called : registry.called? here request with
      | none => simp
      | some call => simp [Call.readText?, other call called]

/-- A file with CRLF brings that into a document without lines, also behind a range, but not into one
that has a line. -/
theorem performAll_ending_crlf :
    let files : FileTree := ⟨[], [(["a"], .file "x\r\n".toUTF8)]⟩
    (builtin.performAll ⟨.empty, files, .unlimited⟩ [⟨",r -f a", .unlimited⟩]).buffer.ending = .crlf ∧
      (builtin.perform ⟨.ofText "q", files, .unlimited⟩ ⟨"1,$r -f a", .unlimited⟩).2.buffer.ending =
        .lf := by
  intro files
  have said : (builtin.called? ⟨.empty, files, .unlimited⟩ ⟨",r -f a", .unlimited⟩).map
      (fun call => (call.command.name, call.values.text? "filename")) = some ("r", some "a") := by
    decide +kernel
  obtain ⟨call, called, same⟩ := Option.map_eq_some_iff.mp said
  obtain ⟨read, path⟩ := Prod.mk.injEq .. ▸ same
  have located : files.locate "a" = .ok (.file ["a"] "x\r\n".toUTF8) :=
    files.locate_name (by decide) rfl (by decide) (by decide) (by decide)
  have opened : files.readText "a" = .ok "x\r\n" :=
    FileTree.readText_eq_ok_iff.mpr (FileTree.readBytes_eq_ok_iff.mpr ⟨rfl, _, located⟩)
  have adopted := builtin.adoptedEnding?_read rfl called read (by rw [path, Option.some_or]) opened rfl
  have empty := (performAll_ending Config.defaultWidth ⟨.empty, files, .unlimited⟩
    [⟨",r -f a", .unlimited⟩]).1
  have filled := (performAll_ending Config.defaultWidth ⟨.ofText "q", files, .unlimited⟩ []).2.2
    ⟨"1,$r -f a", .unlimited⟩ (.inl (by decide +kernel))
  change _ = (builtin.noted builtin.adoptedEnding? _ _).getLast?.getD _ at empty
  rw [noted, adopted] at empty
  exact ⟨empty, filled⟩

end Registry
end LineEditor
