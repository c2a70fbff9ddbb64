import LineEditor.Action

/-! What computations that may fail come to, and actions, apart from the events that they report. Every
rule here opens one way of building them, so that later proofs need not look into the monad. -/
namespace LineEditor

theorem except_bind_eq_ok_iff {x : Except ε α} {f : α → Except ε β} :
    x >>= f = .ok b ↔ ∃ a, x = .ok a ∧ f a = .ok b := by
  cases x with
  | error e => simp [bind, Except.bind]
  | ok a => simp [bind, Except.bind]

theorem except_map_eq_ok_iff {x : Except ε α} {f : α → β} :
    x.map f = .ok b ↔ ∃ a, x = .ok a ∧ f a = b := by
  cases x <;> simp [Except.map]

theorem except_mapError_ok (a : α) (f : ε → ε') : (Except.ok a).mapError f = .ok a := rfl

theorem except_mapError_eq_ok_iff {x : Except ε α} {f : ε → ε'} :
    x.mapError f = .ok a ↔ x = .ok a := by
  cases x with
  | error e => exact ⟨nofun, nofun⟩
  | ok b => rw [except_mapError_ok, Except.ok.injEq, Except.ok.injEq]

theorem except_pure_eq_ok_iff : (pure a : Except ε α) = .ok b ↔ a = b := by
  simp [pure, Except.pure]

theorem except_throw_eq_ok_iff : (throw e : Except ε α) = .ok a ↔ False := by
  simp [throw, throwThe, MonadExceptOf.throw]

namespace Action

def effect (x : Action α) (desk : Desk) : Except CommandError α × Desk :=
  ((x desk).result, (x desk).desk)

@[simp] theorem effect_pure (a : α) (desk : Desk) :
    effect (pure a : Action α) desk = (.ok a, desk) := rfl

@[simp] theorem effect_fail (e : CommandError) (desk : Desk) :
    effect (fail e : Action α) desk = (.error e, desk) := rfl

@[simp] theorem effect_report (event : Event) (desk : Desk) :
    effect (report event) desk = (.ok (), desk) := rfl

@[simp] theorem effect_buffer (desk : Desk) : effect buffer desk = (.ok desk.buffer, desk) := rfl

@[simp] theorem effect_setBuffer (b : Buffer) (desk : Desk) :
    effect (setBuffer b) desk = (.ok (), { desk with buffer := b }) := rfl

@[simp] theorem effect_edit (f : Buffer → Buffer) (desk : Desk) :
    effect (edit f) desk = (.ok (), { desk with buffer := f desk.buffer }) := rfl

def andThen (first : Except CommandError α × Desk) (f : α → Action β) :
    Except CommandError β × Desk :=
  match first with
  | (.error e, desk) => (.error e, desk)
  | (.ok a, desk) => effect (f a) desk

@[simp] theorem andThen_ok (a : α) (desk : Desk) (f : α → Action β) :
    andThen (.ok a, desk) f = effect (f a) desk := rfl

@[simp] theorem andThen_error (e : CommandError) (desk : Desk) (f : α → Action β) :
    andThen (.error e, desk) f = (.error e, desk) := rfl

@[simp] theorem effect_bind (x : Action α) (f : α → Action β) (desk : Desk) :
    effect (x >>= f) desk = andThen (effect x desk) f := by
  simp only [effect, bind, Action.bind, andThen]
  cases (x desk).result <;> rfl

@[simp] theorem effect_ofExcept_ok (a : α) (desk : Desk) :
    effect (ofExcept (.ok a)) desk = (.ok a, desk) := rfl

theorem effect_readFile (path : String) (desk : Desk) :
    effect (readFile path) desk =
      match desk.files.readText path with
      | .error e => (.error (.io path e), desk)
      | .ok text => (.ok (.ofText text), desk) := by
  simp only [effect, readFile]
  cases desk.files.readText path <;> rfl

theorem effect_writeFile (path : String) (desk : Desk) :
    effect (writeFile path) desk =
      match desk.files.writeText path desk.buffer.render with
      | .error e => (.error (.io path e), desk)
      | .ok files => (.ok (), { desk with files }) := by
  simp only [effect, writeFile]
  cases desk.files.writeText path desk.buffer.render <;> rfl

/-- Whatever an action does to another document, it leaves this one as it was. -/
theorem effect_on (b : Buffer) (x : Action α) (desk : Desk) :
    effect (on b x) desk =
      ((effect x { desk with buffer := b }).1.map
          (·, (effect x { desk with buffer := b }).2.buffer),
        { (effect x { desk with buffer := b }).2 with buffer := desk.buffer }) := rfl

end Action
end LineEditor
