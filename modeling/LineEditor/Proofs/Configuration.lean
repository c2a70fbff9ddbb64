import LineEditor.Config.Load
import LineEditor.Proofs.Files

/-! What the configuration comes to. A file counts as a whole or not at all: if it can be read, and is a
document in which every setting that is given has the right type, each setting is the given one or its
default, whatever else the document says. Otherwise all settings are the defaults. -/
namespace LineEditor.Config

structure Setting (α : Type) where
  table : String
  key : String
  Means : Toml.Value → α → Prop
  default : α

namespace Setting

/-- What stands under a key in what stands for a table: an array holds it in front, and in a date there is
nothing. All else has no place for it. -/
inductive Place (key : String) : Toml.Value → Option Toml.Value → Prop where
  | table (origin : Toml.Origin) (entries : Toml.Entries) :
      Place key (.table origin entries) (entries.get? key)
  | array (items : List Toml.Value) : Place key (.array items) items.head?
  | tables : (earlier ++ [latest]).head? = some first →
      Place key (.tables earlier latest) (some (.table .header first))
  | dateTime : Place key .dateTime none

inductive Stands (setting : Setting α) (document : Toml.Entries) : Option Toml.Value → Prop where
  | missing : document.get? setting.table = none → Stands setting document none
  | placed : document.get? setting.table = some value → Place setting.key value found →
      Stands setting document found

/-- A setting is its default where nothing stands for it, and else what the value there means. -/
inductive Is (setting : Setting α) (document : Toml.Entries) : α → Prop where
  | default : setting.Stands document none → Is setting document setting.default
  | given : setting.Stands document (some value) → setting.Means value a → Is setting document a

def prompt : Setting String :=
  ⟨"prompt", "text", fun value text => value = .string text, "dl> "⟩

def welcome : Setting Bool :=
  ⟨"startup", "welcome", fun value b => value = .boolean b, true⟩

def numberWidth : Setting Nat :=
  ⟨"print", "number_width", fun value n => value = .integer n ∧ n < 0x10000000000000000, 6⟩

end Setting

/-- The settings of a document, of which none depends on the others. -/
structure Settings.Of (document : Toml.Entries) (s : Settings) : Prop where
  prompt : Setting.prompt.Is document s.prompt
  welcome : Setting.welcome.Is document s.welcome
  numberWidth : Setting.numberWidth.Is document s.numberWidth

structure Holds (files : FileTree) (path text : String) (s : Settings) : Prop where
  stored : files.readBytes path = .ok text.toUTF8
  document : ∃ document, Toml.document? text = some document ∧ s.Of document

/-- The path of the file to load: the one that is given, or else that of a file in the working directory if
it is there, or else that of a file where the configuration of all programs is kept. -/
inductive Chooses (e : Environment) (files : FileTree) : Option String → String → Prop where
  | given (path : String) : Chooses e files (some path) path
  | here : files.has "deepline.toml" = true → Chooses e files none "deepline.toml"
  | kept : files.has "deepline.toml" = false → directory? e = some directory →
      Chooses e files none (Path.join (Path.join directory "deepline") "deepline.toml")
  | nowhere : files.has "deepline.toml" = false → directory? e = none →
      Chooses e files none "deepline.toml"

inductive Limited : Nat → Nat → Prop where
  | narrow : n < 1 → Limited n 1
  | within : 1 ≤ n → n ≤ 16 → Limited n n
  | wide : 16 < n → Limited n 16

/-! ### One setting -/

variable {document : Toml.Entries}

theorem setting?_eq_some_iff : setting? key value = some found ↔ Setting.Place key value found := by
  constructor
  · intro placed
    cases value with
    | table origin entries =>
      cases placed
      exact .table origin entries
    | array items =>
      cases placed
      exact .array items
    | tables earlier latest =>
      cases placed
      refine .tables ?_
      cases earlier <;> rfl
    | dateTime =>
      cases placed
      exact .dateTime
    | string _ | integer _ | float | boolean _ => contradiction
  · intro placed
    cases placed with
    | @tables earlier latest first front => cases earlier <;> cases front <;> rfl
    | _ => rfl

/-- A setting is looked up in the place of its key, which may be empty, and in none if there is no table
for it. -/
theorem Setting.stands_iff (setting : Setting α) : setting.Stands document found ↔
    (document.get? setting.table).elim (some none) (setting? setting.key) = some found := by
  constructor
  · intro stands
    cases stands with
    | missing absent =>
      rw [absent]
      rfl
    | placed here place =>
      rw [here]
      exact setting?_eq_some_iff.mpr place
  · intro looked
    cases here : document.get? setting.table with
    | none =>
      rw [here] at looked
      cases looked
      exact .missing here
    | some value =>
      rw [here] at looked
      exact .placed here (setting?_eq_some_iff.mp looked)

theorem lookUp?_eq_some_iff (setting : Setting α) {read : Toml.Value → Option α}
    (reads : ∀ value a, read value = some a ↔ setting.Means value a) :
    lookUp? document setting.table setting.key read setting.default = some a ↔ setting.Is document a := by
  have looked : lookUp? document setting.table setting.key read setting.default =
      ((document.get? setting.table).elim (some none) (setting? setting.key)).bind fun found =>
        found.elim (some setting.default) read := by
    unfold lookUp?
    cases document.get? setting.table <;> rfl
  rw [looked, Option.bind_eq_some_iff]
  constructor
  · rintro ⟨found, there, result⟩
    have stands := setting.stands_iff.mpr there
    cases found with
    | none =>
      cases result
      exact .default stands
    | some value => exact .given stands ((reads value a).mp result)
  · intro is
    cases is with
    | default stands => exact ⟨none, setting.stands_iff.mp stands, rfl⟩
    | given stands meant => exact ⟨some _, setting.stands_iff.mp stands, (reads _ a).mpr meant⟩

/-! ### All settings -/

theorem count?_eq_some_iff : count? value = some n ↔ value = .integer n ∧ n < 0x10000000000000000 := by
  cases value with
  | integer m =>
    simp only [count?, Toml.Value.integer.injEq, Option.ite_none_right_eq_some, Option.some.injEq]
    omega
  | _ => simp [count?]

theorem text?_eq_some_iff : text? value = some text ↔ value = .string text := by
  cases value <;> simp [text?]

theorem boolean?_eq_some_iff : boolean? value = some b ↔ value = .boolean b := by
  cases value <;> simp [boolean?]

theorem Settings.ofEntries?_eq_some_iff : ofEntries? document = some s ↔ s.Of document := by
  have prompt (text : String) : lookUp? document "prompt" "text" text? "dl> " = some text ↔
      Setting.prompt.Is document text :=
    lookUp?_eq_some_iff Setting.prompt fun _ _ => text?_eq_some_iff
  have welcome (b : Bool) : lookUp? document "startup" "welcome" boolean? true = some b ↔
      Setting.welcome.Is document b :=
    lookUp?_eq_some_iff Setting.welcome fun _ _ => boolean?_eq_some_iff
  have numberWidth (n : Nat) : lookUp? document "print" "number_width" count? 6 = some n ↔
      Setting.numberWidth.Is document n :=
    lookUp?_eq_some_iff Setting.numberWidth fun _ _ => count?_eq_some_iff
  obtain ⟨text, b, n⟩ := s
  unfold ofEntries?
  constructor
  · intro found
    obtain ⟨_, first, found⟩ := Option.bind_eq_some_iff.mp found
    obtain ⟨_, second, found⟩ := Option.bind_eq_some_iff.mp found
    obtain ⟨_, third, found⟩ := Option.bind_eq_some_iff.mp found
    cases found
    exact ⟨(prompt text).mp first, (welcome b).mp second, (numberWidth n).mp third⟩
  · rintro ⟨first, second, third⟩
    refine Option.bind_eq_some_iff.mpr ⟨text, (prompt text).mpr first, ?_⟩
    refine Option.bind_eq_some_iff.mpr ⟨b, (welcome b).mpr second, ?_⟩
    exact Option.bind_eq_some_iff.mpr ⟨n, (numberWidth n).mpr third, rfl⟩

theorem Settings.ofText?_eq_some_iff : ofText? text = some s ↔
    ∃ document, Toml.document? text = some document ∧ s.Of document := by
  rw [ofText?, Option.bind_eq_some_iff]
  simp only [ofEntries?_eq_some_iff]

/-- The prompt is not kept if another setting has the wrong type. -/
example : Settings.ofText? "[prompt]\ntext = \"* \"\n[print]\nnumber_width = \"wide\"\n" = none := by
  decide +kernel

/-! ### Loading -/

theorem limited_shownWidth (s : Settings) : Limited s.numberWidth s.shownWidth := by
  unfold Settings.shownWidth clampWidth minWidth maxWidth
  by_cases narrow : s.numberWidth < 1
  · have width : max 1 (min 16 s.numberWidth) = 1 := by omega
    rw [width]
    exact .narrow narrow
  by_cases wide : 16 < s.numberWidth
  · have width : max 1 (min 16 s.numberWidth) = 16 := by omega
    rw [width]
    exact .wide wide
  · have width : max 1 (min 16 s.numberWidth) = s.numberWidth := by omega
    rw [width]
    exact .within (Nat.not_lt.mp narrow) (Nat.not_lt.mp wide)

namespace Loaded

variable {e : Environment} {files : FileTree} {path text : String} {s : Settings}

theorem chooses_discover (e : Environment) (files : FileTree) (choice : Option String) :
    Chooses e files choice (choice.getD (discover e files)) := by
  cases choice with
  | some path => exact .given path
  | none =>
    unfold discover
    dsimp only [Option.getD_none]
    split
    · rename_i here
      exact .here here
    · rename_i absent
      rw [Bool.not_eq_true] at absent
      split
      · rename_i directory kept
        exact .kept absent kept
      · rename_i nowhere
        exact .nowhere absent nowhere

theorem holds_iff : Holds files path text s ↔
    files.readText path = .ok text ∧ Settings.ofText? text = some s := by
  rw [FileTree.readText_eq_ok_iff, Settings.ofText?_eq_some_iff]
  exact ⟨fun holds => ⟨holds.stored, holds.document⟩, fun ⟨stored, document⟩ => ⟨stored, document⟩⟩

theorem ofFile_of_holds (holds : Holds files path text s) :
    (ofFile files path).1 = ⟨s, some text, some path⟩ := by
  obtain ⟨read, understood⟩ := holds_iff.mp holds
  simp only [ofFile, read, understood]

theorem ofFile_of_not_holds (refused : ∀ text s, ¬ Holds files path text s) :
    (ofFile files path).1 = ⟨⟨"dl> ", true, 6⟩, none, none⟩ := by
  cases read : files.readText path with
  | error e =>
    rw [ofFile, read]
    rfl
  | ok text =>
    cases understood : Settings.ofText? text with
    | none =>
      simp only [ofFile, read, understood]
      rfl
    | some s => exact (refused text s (holds_iff.mpr ⟨read, understood⟩)).elim

/-- Loading always comes to settings. Either the file that is chosen holds a document in which all settings
given have the right types, and then these are the settings, with the text of the file and its path. Or the
settings are the defaults, all three of them, with neither a text nor a path. The width is shown within its
limits in any case. -/
theorem load_whole (e : Environment) (files : FileTree) (choice : Option String) :
    ∃ path, Chooses e files choice path ∧
      ((∃ text s, Holds files path text s ∧ (load e files choice).1 = ⟨s, some text, some path⟩) ∨
        ((∀ text s, ¬ Holds files path text s) ∧
          (load e files choice).1 = ⟨⟨"dl> ", true, 6⟩, none, none⟩)) ∧
      Limited (load e files choice).1.settings.numberWidth (load e files choice).1.settings.shownWidth := by
  refine ⟨_, chooses_discover e files choice, ?_, limited_shownWidth _⟩
  by_cases holds : ∃ text s, Holds files (choice.getD (discover e files)) text s
  · obtain ⟨text, s, holds⟩ := holds
    exact .inl ⟨text, s, holds, ofFile_of_holds holds⟩
  · have refused : ∀ text s, ¬ Holds files (choice.getD (discover e files)) text s :=
      fun text s here => holds ⟨text, s, here⟩
    exact .inr ⟨refused, ofFile_of_not_holds refused⟩

end Loaded
end LineEditor.Config
