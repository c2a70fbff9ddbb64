import LineEditor.Proofs.Stored

/-! How a text that is typed is cut, next to how a stored one is. As long as no CR stands alone both find
the same lines, but behind a final terminator a typed text goes on with an empty line. Lines that are put
together with LF or CRLF between them are found again. -/
namespace LineEditor.Text

/-- There is a line even in a text without characters. -/
theorem splitTyped_ne_nil (text : String) : splitTyped text ≠ [] := by
  have pieces (text : List Char) : splitAt '\n' text ≠ [] := by
    cases text with
    | nil => nofun
    | cons c text =>
      rw [splitAt, List.foldr_cons]
      split
      · nofun
      · split <;> nofun
  intro none
  exact pieces text.toList (List.map_eq_nil_iff.mp none)

theorem not_mem_splitAt (separator : Char) (text : List Char) :
    ∀ piece ∈ splitAt separator text, separator ∉ piece := by
  induction text with
  | nil => simp [splitAt]
  | cons c text ih =>
    rw [splitAt, List.foldr_cons]
    change ∀ piece ∈ splitAt separator text, separator ∉ piece at ih
    split
    · exact List.forall_mem_cons.mpr ⟨List.not_mem_nil, ih⟩
    · rename_i other
      have grows {piece : List Char} (clean : separator ∉ piece) : separator ∉ c :: piece :=
        List.not_mem_cons_of_ne_of_not_mem (Ne.symm other) clean
      split
      · rename_i piece later found
        rw [splitAt, found] at ih
        obtain ⟨first, rest⟩ := List.forall_mem_cons.mp ih
        exact List.forall_mem_cons.mpr ⟨grows first, rest⟩
      · exact List.forall_mem_singleton.mpr (grows List.not_mem_nil)

/-- No typed line holds an LF. -/
theorem not_mem_splitTyped {typed line : String} (member : line ∈ splitTyped typed) :
    '\n' ∉ line.toList := by
  obtain ⟨piece, isPiece, rfl⟩ := List.mem_map.mp member
  have clean := not_mem_splitAt '\n' typed.toList piece isPiece
  rw [String.toList_ofList, dropFinalCR]
  split
  · exact fun inside => clean (List.dropLast_subset piece inside)
  · exact clean

theorem splitAt_append_cons (clean : separator ∉ piece) (rest : List Char) :
    splitAt separator (piece ++ separator :: rest) = piece :: splitAt separator rest := by
  induction piece with
  | nil => exact if_pos rfl
  | cons c piece ih =>
    obtain ⟨other, clean⟩ := List.ne_and_not_mem_of_not_mem_cons clean
    have step (text later : List Char) (pieces : List (List Char))
        (cut : splitAt separator text = later :: pieces) :
        splitAt separator (c :: text) = (c :: later) :: pieces := by
      rw [splitAt, List.foldr_cons, if_neg other.symm]
      rw [splitAt] at cut
      rw [cut]
    exact step _ _ _ (ih clean)

theorem splitAt_of_not_mem (clean : separator ∉ piece) : splitAt separator piece = [piece] := by
  induction piece with
  | nil => rfl
  | cons c piece ih =>
    obtain ⟨other, clean⟩ := List.ne_and_not_mem_of_not_mem_cons clean
    have behind : piece.foldr _ [[]] = [piece] := ih clean
    rw [splitAt, List.foldr_cons, if_neg other.symm, behind]

variable {line text tail : List Char} {parts : List (List Char × LineEnding)}

theorem Unbroken.not_mem (unbroken : Unbroken line) : '\n' ∉ line ∧ '\r' ∉ line :=
  ⟨fun feed => (unbroken '\n' feed).1 rfl, fun ret => (unbroken '\r' ret).2 rfl⟩

theorem dropFinalCR_of_unbroken (unbroken : Unbroken line) : dropFinalCR line = line :=
  if_neg fun last => unbroken.not_mem.2 (List.mem_of_getLast? last)

theorem dropFinalCR_concat (line : List Char) : dropFinalCR (line ++ ['\r']) = line := by
  rw [dropFinalCR, if_pos List.getLast?_concat, List.dropLast_concat]

/-- Of a text in which no CR ends a line alone typing makes the terminated lines and the tail. -/
theorem Apart.typed (apart : Apart text parts tail) (paired : ∀ part ∈ parts, part.2 ≠ .cr) :
    (splitAt '\n' text).map dropFinalCR = parts.map (·.1) ++ [tail] := by
  induction apart with
  | last unbroken =>
    rw [splitAt_of_not_mem unbroken.not_mem.1, List.map_singleton, dropFinalCR_of_unbroken unbroken]
    rfl
  | @line line ending rest parts tail unbroken _ _ ih =>
    obtain ⟨here, later⟩ := List.forall_mem_cons.mp paired
    rw [List.map_cons, List.cons_append, ← ih later]
    cases ending with
    | cr => exact (here rfl).elim
    | lf =>
      have first := splitAt_append_cons unbroken.not_mem.1 rest
      rw [LineEnding.chars, List.append_assoc, List.singleton_append, first, List.map_cons,
        dropFinalCR_of_unbroken unbroken]
    | crlf =>
      have clean : '\n' ∉ line ++ ['\r'] := by simpa using unbroken.not_mem.1
      have first := splitAt_append_cons clean rest
      have whole : line ++ LineEnding.crlf.chars ++ rest = line ++ ['\r'] ++ '\n' :: rest := by
        simp [LineEnding.chars]
      rw [whole, first, List.map_cons, dropFinalCR_concat]

/-- Lines between which a terminator stands fall apart into themselves; the last one is the tail. -/
theorem apart_intercalate (ending : LineEnding) (joined : ending ≠ .cr) (lines : List (List Char))
    (unbroken : ∀ line ∈ lines, Unbroken line) (last : Unbroken final) :
    Apart (ending.chars.intercalate (lines ++ [final])) (lines.map (·, ending)) final := by
  induction lines with
  | nil => simpa using Apart.last last
  | cons line lines ih =>
    obtain ⟨here, later⟩ := List.forall_mem_cons.mp unbroken
    obtain ⟨next, others, more⟩ := List.exists_cons_of_ne_nil (List.append_ne_nil_of_right_ne_nil lines
      (List.cons_ne_nil final []))
    rw [List.cons_append, more, List.intercalate_cons_cons, ← more]
    exact .line here (fun cr => (joined cr).elim) (ih later)

theorem splitTyped_intercalate (ending : LineEnding) (joined : ending ≠ .cr) {lines : List String}
    (some : lines ≠ []) (unbroken : ∀ line ∈ lines, Unbroken line.toList) :
    splitTyped (ending.text.intercalate lines) = lines := by
  obtain ⟨front, final, rfl⟩ : ∃ front final, lines = front ++ [final] :=
    ⟨lines.dropLast, lines.getLast some, (List.dropLast_concat_getLast some).symm⟩
  have apart := apart_intercalate ending joined (front.map String.toList)
    (List.forall_mem_map.mpr fun line member => unbroken line (List.mem_append_left _ member))
    (unbroken final (List.mem_append_right _ List.mem_cons_self))
  have pieces := apart.typed (by
    intro part member
    obtain ⟨line, -, rfl⟩ := List.mem_map.mp member
    exact joined)
  have text : (ending.text.intercalate (front ++ [final])).toList =
      ending.chars.intercalate (front.map String.toList ++ [final.toList]) := by
    simp [LineEnding.text]
  have typed := congrArg (List.map String.ofList) pieces
  rw [List.map_map, ← text] at typed
  exact typed.trans (by simp [Function.comp_def])

/-- Without a CR that ends a line alone, what is left behind the last terminator is empty exactly if
nothing stands in the text or an LF at its end. -/
theorem Apart.tail_eq_nil_iff (apart : Apart text parts tail) (paired : ∀ part ∈ parts, part.2 ≠ .cr) :
    tail = [] ↔ text = [] ∨ ['\n'] <:+ text := by
  constructor
  · intro complete
    refine (apart.ended complete).imp_right ?_
    rintro ⟨ending, member, ended⟩
    obtain ⟨part, isPart, rfl⟩ := List.mem_map.mp member
    cases found : part.2 with
    | cr => exact (paired part isPart found).elim
    | lf => rwa [found] at ended
    | crlf =>
      rw [found] at ended
      exact List.IsSuffix.trans ⟨['\r'], rfl⟩ ended
  · rintro (rfl | ended)
    · exact (apart.unique (.last (List.forall_mem_nil _))).2
    · have lf : LineEnding.lf.chars <:+ text := ended
      exact apart.tail_eq_nil lf

/-- A text in which each CR stands in front of an LF is cut alike when it is typed and when it is loaded,
except that an empty line follows if it is empty or ends with LF. Lines that hold no terminator are found
again in what is made of them with LF or with CRLF between them. -/
theorem splitTyped_loaded :
    (∀ text : String,
      (∀ front back, text.toList = front ++ '\r' :: back → back.head? = some '\n') →
      splitTyped text = (Loaded.ofText text).lines ++
        if text = "" ∨ ['\n'] <:+ text.toList then [""] else []) ∧
    ∀ lines : List String, lines ≠ [] → (∀ line ∈ lines, Unbroken line.toList) →
      splitTyped ("\n".intercalate lines) = lines ∧ splitTyped ("\r\n".intercalate lines) = lines := by
  constructor
  · intro text followed
    obtain ⟨parts, tail, apart⟩ := exists_apart text.toList
    have paired : ∀ part ∈ parts, part.2 ≠ .cr := by
      intro part member alone
      obtain ⟨front, back, whole, -, ret⟩ := apart.occursIn_of_mem (List.mem_map_of_mem member)
      rw [alone, LineEnding.chars, List.append_assoc, List.singleton_append] at whole
      exact ret alone (followed front back whole)
    have typed := congrArg (List.map String.ofList) (apart.typed paired)
    have final : tail = [] ↔ text = "" ∨ ['\n'] <:+ text.toList := by
      rw [apart.tail_eq_nil_iff paired, String.toList_eq_nil_iff]
    rw [List.map_map] at typed
    rw [Loaded.ofText, apart.loaded, partLines]
    refine Eq.trans typed ?_
    by_cases complete : tail = []
    · rw [if_pos (final.mp complete), complete]
      simp
    · rw [if_neg (mt final.mpr complete)]
      simp [complete]
  · intro lines some unbroken
    exact ⟨splitTyped_intercalate .lf (by decide) some unbroken,
      splitTyped_intercalate .crlf (by decide) some unbroken⟩

theorem splitTyped_loaded_blank :
    let text := "a\r\n\n"
    let lines := ["a", "", "ü"]
    (∀ front back, text.toList = front ++ '\r' :: back → back.head? = some '\n') ∧
      splitTyped text = (Loaded.ofText text).lines ++ [""] ∧
      lines ≠ [] ∧ (∀ line ∈ lines, Unbroken line.toList) ∧
      splitTyped ("\n".intercalate lines) = lines ∧ splitTyped ("\r\n".intercalate lines) = lines := by
  intro text lines
  have followed : ∀ front back, text.toList = front ++ '\r' :: back → back.head? = some '\n' := by
    intro front back whole
    have chars : text.toList = ['a', '\r', '\n', '\n'] := by decide +kernel
    rw [chars] at whole
    match front with
    | [] => cases whole
    | [_] => cases whole; rfl
    | [_, _] => cases whole
    | [_, _, _] => cases whole
    | _ :: _ :: _ :: _ :: _ => simp at whole
  have some : lines ≠ [] := by decide
  have unbroken : ∀ line ∈ lines, Unbroken line.toList := by decide +kernel
  have ended : text = "" ∨ ['\n'] <:+ text.toList := by decide +kernel
  have typed := splitTyped_loaded.1 text followed
  rw [if_pos ended] at typed
  obtain ⟨feeds, returns⟩ := splitTyped_loaded.2 lines some unbroken
  exact ⟨followed, typed, some, unbroken, feeds, returns⟩

end LineEditor.Text
