import LineEditor.Proofs.Execute
import LineEditor.Proofs.Registered
import LineEditor.Proofs.Sink

/-! What actions show. On a display without limit they add to what has been shown and take no notice of
it, as long as the commands of the registry do. -/
namespace LineEditor
open LineEditor.Action (effect)

/-- What comes of showing a text: the display takes all of it, or it is full. -/
def Desk.shown (desk : Desk) (text : String) (a : α) : Except CommandError α × Desk :=
  (if (desk.sink.write text).2 then .ok a else .error (.output .full),
    { desk with sink := (desk.sink.write text).1 })

namespace Action

/-- Whatever the display, the action comes to the same and leaves the display as it was. -/
def Silent (x : Action α) : Prop :=
  ∀ b files, ∃ result after left, ∀ sink, effect x ⟨b, files, sink⟩ = (result, ⟨after, left, sink⟩)

theorem silent_pure (a : α) : Silent (pure a : Action α) :=
  fun b files => ⟨.ok a, b, files, fun _ => rfl⟩

theorem silent_fail (e : CommandError) : Silent (fail e : Action α) :=
  fun b files => ⟨.error e, b, files, fun _ => rfl⟩

theorem silent_report (event : Event) : Silent (report event) :=
  fun b files => ⟨.ok (), b, files, fun _ => rfl⟩

theorem silent_buffer : Silent buffer :=
  fun b files => ⟨.ok b, b, files, fun _ => rfl⟩

theorem silent_edit (f : Buffer → Buffer) : Silent (edit f) :=
  fun b files => ⟨.ok (), f b, files, fun _ => rfl⟩

theorem silent_ofExcept (result : Except CommandError α) : Silent (ofExcept result) := by
  cases result with
  | error e => exact silent_fail e
  | ok a => exact silent_pure a

theorem silent_readFile (path : String) : Silent (readFile path) := by
  intro b files
  cases found : files.readText path with
  | error e =>
    refine ⟨.error (.io path e), b, files, fun sink => ?_⟩
    rw [effect_readFile]
    simp only [found]
  | ok text =>
    refine ⟨.ok (.ofText text), b, files, fun sink => ?_⟩
    rw [effect_readFile]
    simp only [found]

theorem silent_writeFile (path : String) : Silent (writeFile path) := by
  intro b files
  cases stored : files.writeText path b.render with
  | error e =>
    refine ⟨.error (.io path e), b, files, fun sink => ?_⟩
    rw [effect_writeFile]
    simp only [stored]
  | ok left =>
    refine ⟨.ok (), b, left, fun sink => ?_⟩
    rw [effect_writeFile]
    simp only [stored]

theorem Silent.bind {x : Action α} {f : α → Action β} (first : Silent x) (rest : ∀ a, Silent (f a)) :
    Silent (x >>= f) := by
  intro b files
  obtain ⟨result, after, left, same⟩ := first b files
  cases result with
  | error e =>
    refine ⟨.error e, after, left, fun sink => ?_⟩
    rw [effect_bind, same, andThen_error]
  | ok a =>
    obtain ⟨result, after, left, again⟩ := rest a after left
    refine ⟨result, after, left, fun sink => ?_⟩
    rw [effect_bind, same, andThen_ok, again]

/-- Showing one text and then another one is showing both together. -/
theorem effect_bind_shown {x : Action α} {f : α → Action β} {desk : Desk}
    (first : effect x desk = desk.shown text a)
    (rest : ∀ sink, effect (f a) { desk with sink } = Desk.shown { desk with sink } more c) :
    effect (x >>= f) desk = desk.shown (text ++ more) c := by
  rw [effect_bind, first, Desk.shown, Desk.shown, Sink.write_append]
  cases written : desk.sink.write text with
  | mk next complete =>
    cases complete with
    | true => exact rest next
    | false => rfl

theorem effect_pure_shown (a : α) (desk : Desk) :
    effect (pure a : Action α) desk = desk.shown "" a := by
  rw [Desk.shown, Sink.write_empty]
  rfl

theorem effect_shown_pure {x : Action α} {desk : Desk} (first : effect x desk = desk.shown text a)
    (c : β) : effect (x >>= fun _ => pure c) desk = desk.shown text c := by
  have both : effect (x >>= fun _ => pure c) desk = desk.shown (text ++ "") c :=
    effect_bind_shown first fun sink => effect_pure_shown c { desk with sink }
  rwa [String.append_empty] at both

theorem effect_printAll (texts : List String) (desk : Desk) :
    effect (printAll texts) desk = desk.shown (String.join texts) () := by
  induction texts generalizing desk with
  | nil => exact effect_pure_shown () desk
  | cons text texts ih =>
    rw [String.join_cons]
    exact effect_bind_shown rfl fun sink => ih { desk with sink }

/-- All that the action does is to show a text, which depends on nothing but the document. -/
def Prints (x : Action α) (a : α) : Prop :=
  ∀ b, ∃ text, ∀ files sink, effect x ⟨b, files, sink⟩ = Desk.shown ⟨b, files, sink⟩ text a

theorem Prints.exists_shown {x : Action α} (prints : Prints x a) (desk : Desk) :
    ∃ text, effect x desk = desk.shown text a := by
  obtain ⟨text, same⟩ := prints desk.buffer
  exact ⟨text, same desk.files desk.sink⟩

theorem prints_pure (a : α) : Prints (pure a : Action α) a :=
  fun b => ⟨"", fun files sink => effect_pure_shown a ⟨b, files, sink⟩⟩

theorem prints_print (text : String) : Prints (print text) () :=
  fun _ => ⟨text, fun _ _ => rfl⟩

theorem Prints.bind {x : Action α} {f : α → Action β} (first : Prints x a) (rest : Prints (f a) c) :
    Prints (x >>= f) c := by
  intro b
  obtain ⟨text, same⟩ := first b
  obtain ⟨more, again⟩ := rest b
  exact ⟨text ++ more, fun files sink => effect_bind_shown (same files sink) (again files)⟩

theorem prints_buffer {f : Buffer → Action β} (rest : ∀ b, Prints (f b) c) :
    Prints (buffer >>= f) c := by
  intro b
  obtain ⟨text, same⟩ := rest b b
  refine ⟨text, fun files sink => ?_⟩
  rw [effect_bind, effect_buffer, andThen_ok, same]

theorem prints_printAll (texts : List String) : Prints (printAll texts) () :=
  fun b => ⟨String.join texts, fun files sink => effect_printAll texts ⟨b, files, sink⟩⟩

/-- Whatever has been written already, the action comes to the same and writes the same behind it. -/
def Appends (x : Action α) : Prop :=
  ∀ b files, ∃ result after left shown, ∀ written,
    effect x ⟨b, files, ⟨written, none⟩⟩ = (result, ⟨after, left, ⟨written ++ shown, none⟩⟩)

theorem Silent.appends {x : Action α} (silent : Silent x) : Appends x := by
  intro b files
  obtain ⟨result, after, left, same⟩ := silent b files
  refine ⟨result, after, left, .empty, fun written => ?_⟩
  rw [same, ByteArray.append_empty]

theorem Prints.appends {x : Action α} (prints : Prints x a) : Appends x := by
  intro b files
  obtain ⟨text, same⟩ := prints b
  exact ⟨.ok a, b, files, text.toUTF8, fun written => same files ⟨written, none⟩⟩

theorem Appends.bind {x : Action α} {f : α → Action β} (first : Appends x)
    (rest : ∀ a, Appends (f a)) : Appends (x >>= f) := by
  intro b files
  obtain ⟨result, after, left, shown, same⟩ := first b files
  cases result with
  | error e =>
    refine ⟨.error e, after, left, shown, fun written => ?_⟩
    rw [effect_bind, same, andThen_error]
  | ok a =>
    obtain ⟨result, after, left, more, again⟩ := rest a after left
    refine ⟨result, after, left, shown ++ more, fun written => ?_⟩
    rw [effect_bind, same, andThen_ok, again, ByteArray.append_assoc]

theorem Appends.on {x : Action α} (inner : Appends x) (slice : Buffer) : Appends (on slice x) := by
  intro b files
  obtain ⟨result, after, left, shown, same⟩ := inner slice files
  refine ⟨result.map (·, after), b, left, shown, fun written => ?_⟩
  rw [effect_on, same]

end Action

def Command.Appends (c : Command) : Prop :=
  ∀ catalogue values, (c.handler catalogue values).Appends

namespace Commands
open LineEditor.Action

theorem effect_printLines (desk : Desk) :
    effect printLines desk = desk.shown (String.join (desk.buffer.lines.map (· ++ "\n"))) () := by
  rw [printLines, effect_bind, effect_buffer, andThen_ok, effect_printAll]

theorem effect_print (catalogue : Catalogue) (values : Options.Values) (desk : Desk) :
    effect (print.handler catalogue values) desk =
      desk.shown (String.join (desk.buffer.lines.map (· ++ "\n"))) .proceed :=
  effect_shown_pure (effect_printLines desk) _

theorem prints_printLines : Prints printLines () :=
  prints_buffer fun _ => prints_printAll _

theorem silent_chosenFile (values : Options.Values) : Silent (chosenFile values) := by
  apply silent_buffer.bind
  intro b
  cases (values.text? "filename").or b.file with
  | none => exact silent_fail _
  | some path => exact silent_pure path

theorem silent_textHandler (name : String) (f : Buffer → List String → Buffer)
    (catalogue : Catalogue) (values : Options.Values) :
    Silent (textHandler name f catalogue values) := by
  unfold textHandler
  cases values.text? "text" with
  | none => exact silent_fail _
  | some text => exact (silent_edit _).bind fun _ => silent_pure _

theorem print_prints (catalogue : Catalogue) (values : Options.Values) :
    Prints (print.handler catalogue values) .proceed :=
  prints_printLines.bind (prints_pure _)

theorem number_prints (catalogue : Catalogue) (values : Options.Values) :
    Prints (number.handler catalogue values) .proceed :=
  prints_buffer fun _ => (prints_printAll _).bind (prints_pure _)

/-- No command both shows and changes something. -/
theorem silent_or_prints_of_mem_all (member : d ∈ all) (catalogue : Catalogue)
    (values : Options.Values) :
    Silent (d.handler catalogue values) ∨ Prints (d.handler catalogue values) .proceed := by
  simp only [all, List.mem_cons, List.not_mem_nil, or_false] at member
  rcases member with rfl | rfl | rfl | rfl | rfl | rfl | rfl | rfl | rfl
  · exact .inl (silent_textHandler _ _ catalogue values)
  · exact .inl (silent_textHandler _ _ catalogue values)
  · exact .inl (silent_textHandler _ _ catalogue values)
  · exact .inl ((silent_edit _).bind fun _ => silent_pure _)
  · exact .inr (print_prints catalogue values)
  · exact .inr (number_prints catalogue values)
  · exact .inl ((silent_chosenFile values).bind fun path =>
      (silent_readFile path).bind fun _ => (silent_edit _).bind fun _ => silent_pure _)
  · exact .inl ((silent_chosenFile values).bind fun path =>
      (silent_writeFile path).bind fun _ => (silent_edit _).bind fun _ => silent_pure _)
  · exact .inl (silent_pure _)

end Commands

open LineEditor.Action (Silent Prints)

theorem help_prints (catalogue : Catalogue) (values : Options.Values) :
    Prints (help.handler catalogue values) .proceed :=
  (Action.prints_print _).bind ((Action.prints_printAll _).bind (Action.prints_pure _))

theorem Registry.builtin_silent_or_prints (member : c ∈ builtin.commands) (catalogue : Catalogue)
    (values : Options.Values) :
    Silent (c.handler catalogue values) ∨ Prints (c.handler catalogue values) .proceed := by
  rcases builtin_command member with rfl | ⟨d, isBuiltin, -, own⟩
  · exact .inr (help_prints catalogue values)
  · rw [own]
    exact Commands.silent_or_prints_of_mem_all isBuiltin catalogue values

/-- The editor's own commands only ever write behind what has been shown. -/
theorem Registry.builtin_appends (member : c ∈ builtin.commands) : c.Appends := by
  intro catalogue values
  rcases builtin_silent_or_prints member catalogue values with silent | prints
  · exact silent.appends
  · exact prints.appends

theorem effect_usage (usage : String) (desk : Desk) :
    effect (do .print usage; return Flow.proceed) desk = desk.shown usage .proceed :=
  Action.effect_shown_pure rfl _

theorem prints_usage (usage : String) : Prints (do .print usage; return Flow.proceed) .proceed :=
  (Action.prints_print usage).bind (Action.prints_pure _)

variable {registry : Registry}

theorem Command.Appends.run {c : Command} (appends : c.Appends) (catalogue : Catalogue)
    (arguments : List String) : (c.run catalogue arguments).Appends := by
  unfold Command.run
  split
  · exact appends catalogue _
  · exact (Action.silent_fail _).appends
  · exact (prints_usage _).appends
  · exact (prints_usage _).appends

theorem silent_readRange (text : List Char) : Silent (readRange text) := by
  intro b files
  refine ⟨(b.range text).mapError .address, { b with cursor := b.cursorAfter text }, files, ?_⟩
  intro sink
  exact effect_readRange text ⟨b, files, sink⟩

theorem appends_runCommand (commands : ∀ c ∈ registry.commands, c.Appends) (depth : Nat)
    (text : List Char) : (runCommand registry depth text).Appends := by
  apply (Action.silent_ofExcept _).appends.bind
  intro line
  cases found : registry.get? line.name with
  | none => exact (Action.silent_fail _).appends
  | some c =>
    apply Action.silent_buffer.appends.bind
    intro b
    apply (Action.silent_report _).appends.bind
    intro _
    exact (commands c (Registry.mem_of_get? found)).run registry.catalogue line.arguments

theorem silent_cutOut (range : LineRange) : Silent (cutOut range) := by
  apply Action.silent_buffer.bind
  intro b
  cases b.slice? range.start range.stop with
  | none => exact Action.silent_fail _
  | some slice => exact Action.silent_pure slice

theorem silent_putBack (depth : Nat) (range : LineRange) (slice : Buffer) :
    Silent (putBack depth range slice) := by
  apply (Action.silent_edit _).bind
  intro _
  apply Action.silent_buffer.bind
  intro b
  cases b.splice? range.start range.stop slice.lines with
  | none => exact Action.silent_fail _
  | some b =>
    exact (Action.silent_edit fun _ => b).bind fun _ => (Action.silent_report _).bind fun _ =>
      Action.silent_report _

theorem appends_showRange (depth : Nat) (range : LineRange) (slice : Buffer) :
    (showRange depth range slice).Appends := by
  apply (Commands.prints_printLines.appends.on slice).bind
  intro _
  exact ((Action.silent_edit _).bind fun _ => (Action.silent_report _).bind fun _ =>
    Action.silent_pure _).appends

theorem appends_executeAt_of (commands : ∀ c ∈ registry.commands, c.Appends)
    (nested : ∀ lower, levels = lower + 1 → ∀ text, (executeAt registry lower text).Appends)
    (text : List Char) : (executeAt registry levels text).Appends := by
  unfold executeAt
  apply (silent_readRange text).appends.bind
  intro found
  cases found with
  | none => exact appends_runCommand commands _ text
  | some p =>
    apply (silent_cutOut p.range).appends.bind
    intro slice
    cases Text.allBlank p.rest with
    | true => exact appends_showRange _ p.range slice
    | false =>
      cases levels with
      | zero => exact ((Action.silent_report _).bind fun _ => Action.silent_fail _).appends
      | succ lower =>
        apply ((nested lower rfl p.rest).on slice).bind
        intro inner
        exact ((silent_putBack _ p.range inner.2).bind fun _ => Action.silent_pure inner.1).appends

/-- A command text takes no notice of what has been shown before it, unless its command does. -/
theorem appends_executeAt (commands : ∀ c ∈ registry.commands, c.Appends) (levels : Nat)
    (text : List Char) : (executeAt registry levels text).Appends := by
  induction levels generalizing text with
  | zero =>
    refine appends_executeAt_of commands ?_ text
    intro lower same
    contradiction
  | succ levels ih =>
    refine appends_executeAt_of commands ?_ text
    intro lower same
    cases same
    exact ih

end LineEditor
