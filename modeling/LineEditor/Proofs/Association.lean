import LineEditor.Program
import LineEditor.Proofs.Calls
import LineEditor.Proofs.Files

/-! Which file a document belongs to, and so where reading and writing go that name no file. It is the
file that was named last when a file was read or written, at whatever depth of ranges, and failures do
not count. A document that belongs to no file cannot be written anywhere until one is named. -/
namespace LineEditor
open LineEditor.Action (effect)

def Call.filename? (call : Call) : Option String :=
  if call.command.name ∈ ["r", "w"] then call.values.text? "filename" else none

/-- The filename that a request names in reading or writing a file, if it succeeds in that. -/
def Registry.namedFile? (registry : Registry) (desk : Desk) (request : Request) : Option String :=
  if (registry.perform desk request).1.isOk then
    (registry.called? desk request).bind Call.filename?
  else none

/-- What a call has come to that works with the file of this path. It reads that file, or writes there
what it was given. A document that has been read into or written belongs to the file. -/
inductive WorksWith (path : String) (call : Call) (files : FileTree)
    (outcome : Except CommandError Flow × Desk) : Prop where
  | read (text : String) : call.command.name = "r" → files.readText path = .ok text →
      outcome.1 = .ok .proceed → outcome.2.files = files →
      (Text.Loaded.ofText text).lines <:+: outcome.2.buffer.lines →
      outcome.2.buffer.file = some path → WorksWith path call files outcome
  | unread (e : IoError) : call.command.name = "r" → files.readText path = .error e →
      outcome.1 = .error (.io path e) → outcome.2.files = files → WorksWith path call files outcome
  | written : call.command.name = "w" →
      files.writeText path call.document.render = .ok outcome.2.files →
      outcome.1 = .ok .proceed → outcome.2.buffer.file = some path → WorksWith path call files outcome
  | unwritten (e : IoError) : call.command.name = "w" →
      files.writeText path call.document.render = .error e →
      outcome.1 = .error (.io path e) → outcome.2.files = files → WorksWith path call files outcome

variable {registry : Registry} {desk : Desk} {request : Request} {call : Call}

theorem Call.outcome_read (builtin : registry.commands = Registry.builtin.commands)
    (found : registry.get? call.command.name = some call.command) (named : call.command.name = "r")
    (desk : Desk) :
    call.outcome registry desk =
      match (call.values.text? "filename").or call.document.file with
      | none => (.error .noFilename, { desk with buffer := call.document })
      | some path =>
        match desk.files.readText path with
        | .error e => (.error (.io path e), { desk with buffer := call.document })
        | .ok text =>
          (.ok .proceed,
            { desk with buffer := Commands.takeIn path (.ofText text) call.document }) := by
  rw [named] at found
  have handler := Registry.handler_of_get? (d := Commands.read) builtin found (by simp [Commands.all])
  rw [outcome, handler]
  exact Commands.effect_read registry.catalogue call.values { desk with buffer := call.document }

theorem Call.outcome_write (builtin : registry.commands = Registry.builtin.commands)
    (found : registry.get? call.command.name = some call.command) (named : call.command.name = "w")
    (desk : Desk) :
    call.outcome registry desk =
      match (call.values.text? "filename").or call.document.file with
      | none => (.error .noFilename, { desk with buffer := call.document })
      | some path =>
        match desk.files.writeText path call.document.render with
        | .error e => (.error (.io path e), { desk with buffer := call.document })
        | .ok left => (.ok .proceed, ⟨{ call.document with file := some path }, left, desk.sink⟩) := by
  rw [named] at found
  have handler := Registry.handler_of_get? (d := Commands.write) builtin found (by simp [Commands.all])
  rw [outcome, handler]
  exact Commands.effect_write registry.catalogue call.values { desk with buffer := call.document }

/-- Every other command leaves the files alone and changes lines and the current line at most. -/
theorem Call.outcome_relined (builtin : registry.commands = Registry.builtin.commands)
    (found : registry.get? call.command.name = some call.command)
    (other : call.command.name ∉ ["r", "w"]) (desk : Desk) :
    (call.outcome registry desk).2.files = desk.files ∧ ∃ lines cursor,
      (call.outcome registry desk).2.buffer = { call.document with lines, cursor } := by
  obtain ⟨notRead, notWrite⟩ : call.command.name ≠ "r" ∧ call.command.name ≠ "w" := by
    simpa using other
  have member : call.command ∈ Registry.builtin.commands := builtin ▸ Registry.mem_of_get? found
  exact (Registry.builtin_makes member registry.catalogue call.values
    { desk with buffer := call.document }).relined notRead notWrite

section Works

variable (builtin : registry.commands = Registry.builtin.commands)
  (called : registry.called? desk request = some call)
include builtin called

theorem Registry.perform_homeless (named : call.command.name ∈ ["r", "w"])
    (homeless : (call.values.text? "filename").or desk.buffer.file = none) :
    (registry.perform desk request).1 = .error .noFilename ∧
      (registry.perform desk request).2.files = desk.files := by
  have settles := registry.settles_perform builtin called
  have found := call?_get? called
  rw [← (registry.lends_called called).file] at homeless
  simp only [List.mem_cons, List.not_mem_nil, or_false] at named
  rcases named with isRead | isWrite
  · simp only [Call.outcome_read builtin found isRead, homeless] at settles
    obtain ⟨failed, kept, -⟩ := settles.of_error
    exact ⟨failed, kept⟩
  · simp only [Call.outcome_write builtin found isWrite, homeless] at settles
    obtain ⟨failed, kept, -⟩ := settles.of_error
    exact ⟨failed, kept⟩

variable (chosen : (call.values.text? "filename").or desk.buffer.file = some path)
include chosen

theorem Registry.perform_read (named : call.command.name = "r") :
    WorksWith path call desk.files (registry.perform desk request) := by
  have settles := registry.settles_perform builtin called
  rw [← (registry.lends_called called).file] at chosen
  simp only [Call.outcome_read builtin (call?_get? called) named, chosen] at settles
  cases opened : desk.files.readText path with
  | error e =>
    simp only [opened] at settles
    obtain ⟨failed, kept, -⟩ := settles.of_error
    exact .unread e named opened failed kept
  | ok text =>
    simp only [opened] at settles
    obtain ⟨done, kept, takes⟩ := settles.of_ok
    have inside := (Commands.infix_takeIn path (.ofText text) call.document).trans takes.lines
    exact .read text named opened done kept inside takes.file

theorem Registry.perform_write (named : call.command.name = "w") :
    WorksWith path call desk.files (registry.perform desk request) := by
  have settles := registry.settles_perform builtin called
  rw [← (registry.lends_called called).file] at chosen
  simp only [Call.outcome_write builtin (call?_get? called) named, chosen] at settles
  cases stored : desk.files.writeText path call.document.render with
  | error e =>
    simp only [stored] at settles
    obtain ⟨failed, kept, -⟩ := settles.of_error
    exact .unwritten e named stored failed kept
  | ok saved =>
    simp only [stored] at settles
    obtain ⟨done, kept, takes⟩ := settles.of_ok
    exact .written named (stored.trans (congrArg Except.ok kept.symm)) done takes.file

end Works

/-- A file that the call does not name is the one that the document belongs to. -/
theorem Registry.perform_works (builtin : registry.commands = Registry.builtin.commands)
    (called : registry.called? desk request = some call) (named : call.command.name ∈ ["r", "w"]) :
    match (call.values.text? "filename").or desk.buffer.file with
    | none => (registry.perform desk request).1 = .error .noFilename ∧
        (registry.perform desk request).2.files = desk.files
    | some path => WorksWith path call desk.files (registry.perform desk request) := by
  cases chosen : (call.values.text? "filename").or desk.buffer.file with
  | none => exact registry.perform_homeless builtin called named chosen
  | some path =>
    simp only [List.mem_cons, List.not_mem_nil, or_false] at named
    rcases named with isRead | isWrite
    · exact registry.perform_read builtin called chosen isRead
    · exact registry.perform_write builtin called chosen isWrite

variable {path : String} {before : FileTree} {outcome : Except CommandError Flow × Desk}

theorem WorksWith.file (works : WorksWith path call before outcome) (done : outcome.1.isOk) :
    outcome.2.buffer.file = some path := by
  cases works with
  | read _ _ _ _ _ _ file => exact file
  | written _ _ _ file => exact file
  | unread e _ _ failed _ =>
    rw [failed] at done
    contradiction
  | unwritten e _ _ failed _ =>
    rw [failed] at done
    contradiction

theorem WorksWith.files (works : WorksWith path call before outcome) (failed : ¬ outcome.1.isOk) :
    outcome.2.files = before := by
  cases works with
  | read _ _ _ _ kept _ _ => exact kept
  | written _ _ done _ =>
    rw [done] at failed
    exact (failed rfl).elim
  | unread _ _ _ _ kept => exact kept
  | unwritten _ _ _ _ kept => exact kept

namespace Registry

/-- One request leaves the document with the file that it names, or with the one that it had. -/
theorem perform_file (builtin : registry.commands = Registry.builtin.commands) (desk : Desk)
    (request : Request) :
    (registry.perform desk request).2.buffer.file =
      (registry.namedFile? desk request).or desk.buffer.file := by
  cases called : registry.called? desk request with
  | none =>
    obtain ⟨result, cursor, sink, done⟩ := registry.perform_uncalled called
    simp [namedFile?, called, done]
  | some call =>
    have settles := registry.settles_perform builtin called
    rw [namedFile?, called, Option.bind_some]
    by_cases done : (registry.perform desk request).1.isOk
    · rw [if_pos done]
      by_cases named : call.command.name ∈ ["r", "w"]
      · have works := registry.perform_works builtin called named
        rw [Call.filename?, if_pos named]
        cases chosen : (call.values.text? "filename").or desk.buffer.file with
        | none =>
          rw [chosen] at works
          rw [works.1] at done
          contradiction
        | some path =>
          rw [chosen] at works
          exact works.file done
      · obtain ⟨-, lines, cursor, same⟩ := call.outcome_relined builtin (call?_get? called) named
          { desk with sink := request.sink }
        rw [settles.file, if_pos done, same, Call.filename?, if_neg named]
        exact (registry.lends_called called).file
    · rw [settles.file, if_neg done, if_neg done, Option.none_or]

/-- A document that belongs to no file and has none named for it cannot be written. -/
theorem perform_files (builtin : registry.commands = Registry.builtin.commands)
    (homeless : desk.buffer.file = none) (unnamed : registry.namedFile? desk request = none) :
    (registry.perform desk request).2.files = desk.files := by
  cases called : registry.called? desk request with
  | none =>
    obtain ⟨result, cursor, sink, done⟩ := registry.perform_uncalled called
    rw [done]
  | some call =>
    by_cases named : call.command.name ∈ ["r", "w"]
    · have works := registry.perform_works builtin called named
      cases given : call.values.text? "filename" with
      | none =>
        rw [given, homeless] at works
        exact works.2
      | some path =>
        rw [given] at works
        refine WorksWith.files works fun done => ?_
        simp [namedFile?, called, done, Call.filename?, named, given] at unnamed
    · rw [(registry.settles_perform builtin called).files]
      exact (call.outcome_relined builtin (call?_get? called) named _).1

theorem performAll_files (builtin : registry.commands = Registry.builtin.commands)
    (homeless : desk.buffer.file = none)
    (unnamed : registry.noted registry.namedFile? desk requests = []) :
    (registry.performAll desk requests).files = desk.files := by
  induction requests generalizing desk with
  | nil => rfl
  | cons request later ih =>
    obtain ⟨first, rest⟩ := List.append_eq_nil_iff.mp unnamed
    have none : registry.namedFile? desk request = none := Option.toList_eq_nil_iff.mp first
    have still : (registry.perform desk request).2.buffer.file = .none := by
      rw [registry.perform_file builtin, none, homeless]
      rfl
    exact (ih still rest).trans (registry.perform_files builtin homeless none)

/-- After any run the document belongs to the file that was named last in a successful reading or writing,
or else to the same as before. From there reading and writing go to the file that they name, or else to
that one, and fail if there is none. A document that was opened from a file that cannot be read is not
written anywhere until a file has been named. -/
theorem performAll_file (width : Nat) (desk : Desk) (requests : List Request) :
    let registry := { Registry.builtin with numberWidth := width }
    let here := registry.performAll desk requests
    let named := registry.noted registry.namedFile? desk requests
    here.buffer.file = named.getLast?.or desk.buffer.file ∧
    (∀ request call, registry.called? here request = some call → call.command.name ∈ ["r", "w"] →
      match (call.values.text? "filename").or here.buffer.file with
      | none => (registry.perform here request).1 = .error .noFilename ∧
          (registry.perform here request).2.files = here.files
      | some path => WorksWith path call here.files (registry.perform here request)) ∧
    ∀ earlier path e, FileTree.readText earlier path = .error e → e ≠ .notFound →
      desk.buffer = (Program.openFile earlier (some path)).1 → named = [] → here.files = desk.files := by
  intro registry here named
  have builtin : registry.commands = Registry.builtin.commands := rfl
  refine ⟨?_, fun request call => registry.perform_works builtin, ?_⟩
  · have step : ∀ desk request, (registry.perform desk request).2.buffer.file =
        ((registry.namedFile? desk request).map some).getD desk.buffer.file := by
      intro desk request
      rw [registry.perform_file builtin]
      cases registry.namedFile? desk request <;> rfl
    have last := registry.performAll_last (fun desk => desk.buffer.file) step desk requests
    change here.buffer.file = (named.getLast?.map some).getD desk.buffer.file at last
    rw [last]
    cases named.getLast? <;> rfl
  · intro earlier path e unread present opened unnamed
    have homeless : desk.buffer.file = none := by
      rw [opened, Program.openFile, unread]
      cases e with
      | notFound => exact (present rfl).elim
      | _ => rfl
    exact registry.performAll_files builtin homeless unnamed

/-- The file to edit is a directory. A text that is typed can then not be written behind any range, and
the files stay as they were. -/
theorem performAll_file_homeless :
    let files : FileTree := ⟨[], [(["d"], .directory)]⟩
    let here := builtin.performAll ⟨.empty, files, .unlimited⟩
      [⟨"i x", .unlimited⟩, ⟨"1,$w", .unlimited⟩]
    Program.openFile files (some "d") = (.empty, true) ∧
      here.buffer.lines = ["x"] ∧ here.buffer.file = none ∧ here.files = files ∧
      (builtin.perform here ⟨",,w", .unlimited⟩).1 = .error .noFilename := by
  intro files here
  have located : files.locate "d" = .ok (.directory ["d"]) :=
    files.locate_name (by decide) rfl (by decide) (by decide) (by decide)
  have unread : files.readText "d" = .error .isDirectory := by
    rw [FileTree.readText, FileTree.readBytes, located]
    rfl
  have opened : Program.openFile files (some "d") = (.empty, true) := by rw [Program.openFile, unread]
  have unnamed : builtin.noted builtin.namedFile? ⟨.empty, files, .unlimited⟩
      [⟨"i x", .unlimited⟩, ⟨"1,$w", .unlimited⟩] = [] := by decide +kernel
  have said : (builtin.called? here ⟨",,w", .unlimited⟩).map
      (fun call => (call.command.name, call.values.text? "filename")) = some ("w", none) := by
    decide +kernel
  obtain ⟨call, called, same⟩ := Option.map_eq_some_iff.mp said
  obtain ⟨write, bare⟩ := Prod.mk.injEq .. ▸ same
  obtain ⟨file, works, kept⟩ := performAll_file Config.defaultWidth ⟨.empty, files, .unlimited⟩
    [⟨"i x", .unlimited⟩, ⟨"1,$w", .unlimited⟩]
  change here.buffer.file = (builtin.noted builtin.namedFile? _ _).getLast?.or none at file
  rw [unnamed] at file
  have failed := works ⟨",,w", .unlimited⟩ call called (by rw [write]; decide)
  change match (call.values.text? "filename").or here.buffer.file with
    | none => (builtin.perform here ⟨",,w", .unlimited⟩).1 = .error .noFilename ∧ _
    | some _ => _ at failed
  rw [bare, file] at failed
  exact ⟨opened, by decide +kernel, file,
    kept files "d" .isDirectory unread (by decide) (by rw [opened]) unnamed, failed.1⟩

end Registry
end LineEditor
