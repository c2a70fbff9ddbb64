import LineEditor.Files.Tree
import LineEditor.Proofs.Action
import LineEditor.Proofs.Pieces
import Mathlib.Data.String.Basic

/-! Files that have been written are read back. Writing changes what one path leads to and no directory
on the way to it. -/
namespace LineEditor

namespace Path
open String (ofList utf8Len)

/-- The search for slashes gets through a text that holds none and cuts nothing off it. -/
theorem splitOnAux_plain (passed ahead : List Char) (plain : '/' ∉ ahead) :
    (ofList (passed ++ ahead)).splitOnAux "/" 0 ⟨utf8Len passed⟩ 0 [] = [ofList (passed ++ ahead)] := by
  induction ahead generalizing passed with
  | nil =>
    have whole : String.Pos.Raw.extract (ofList passed) 0 ⟨utf8Len passed⟩ = ofList passed := by
      simpa using String.extract_of_valid [] passed []
    rw [String.splitOnAux, if_pos ((String.atEnd_of_valid passed []).mpr rfl), List.append_nil, whole]
    rfl
  | cons c ahead ih =>
    rw [List.mem_cons, not_or] at plain
    have more : ¬ String.Pos.Raw.atEnd (ofList (passed ++ c :: ahead)) ⟨utf8Len passed⟩ :=
      mt (String.atEnd_of_valid passed (c :: ahead)).mp (List.cons_ne_nil c ahead)
    have here : String.Pos.Raw.get (ofList (passed ++ c :: ahead)) ⟨utf8Len passed⟩ = c :=
      String.get_of_valid passed (c :: ahead)
    have slash : String.Pos.Raw.get "/" 0 = '/' := rfl
    have next := String.next_of_valid passed c ahead
    have later := ih (passed ++ [c]) plain.2
    rw [List.append_assoc, List.singleton_append, String.utf8Len_append, String.utf8Len_cons,
      String.utf8Len_nil, Nat.zero_add] at later
    rw [String.splitOnAux, if_neg more, here, slash, if_neg (by simpa using Ne.symm plain.1)]
    exact (congrArg (fun i => (ofList (passed ++ c :: ahead)).splitOnAux "/" 0 i 0 []) next).trans later

/-- A text without slashes is a single name. -/
theorem segments_name (plain : '/' ∉ name.toList) (nonempty : name ≠ "") : segments name = [name] := by
  have cut := splitOnAux_plain [] name.toList plain
  rw [List.nil_append, String.ofList_toList] at cut
  have pieces : name.splitOn "/" = [name] := by
    rw [String.splitOn, if_neg (by decide)]
    exact cut
  simp [segments, pieces, nonempty]

end Path

def Place.target? : Place → Option Location
  | .directory _ => none
  | .file location _ => some location
  | .free location => some location

namespace FileTree

theorem lookup_put (t : FileTree) (entry : Entry) (below : location ≠ []) :
    (t.put location entry).lookup location = some entry := by
  cases location with
  | nil => exact (below rfl).elim
  | cons name rest => simp [lookup, put]

theorem lookup_put_of_ne (t : FileTree) (entry : Entry) (other : location ≠ changed) :
    (t.put changed entry).lookup location = t.lookup location := by
  cases location with
  | nil => rfl
  | cons name rest =>
    have skipped : (changed == name :: rest) = false := beq_eq_false_iff_ne.mpr other.symm
    simp only [lookup, put, List.find?_cons, skipped, List.find?_filter]
    congr 2
    funext e
    by_cases here : e.1 = name :: rest <;> simp [here, other]

variable {t : FileTree} {directory location : Location} {names rest : List String} {place : Place}

/-- A step to a name that is neither special nor too long. -/
theorem walk_name (t : FileTree) (directory : Location) (name : String) (rest : List String)
    (notDot : name ≠ ".") (notUp : name ≠ "..") (short : ¬ maxNameSize < name.utf8ByteSize) :
    t.walk directory (name :: rest) =
      match t.lookup (directory ++ [name]) with
      | some .directory => t.walk (directory ++ [name]) rest
      | some (.file content) =>
        if rest.isEmpty then .ok (.file (directory ++ [name]) content) else .error .notDirectory
      | none => if rest.isEmpty then .ok (.free (directory ++ [name])) else .error .notFound := by
  rw [walk]
  exact (if_neg notDot).trans ((if_neg notUp).trans (if_neg short))

theorem walk_put_last (t : FileTree) (directory : Location) (notDot : name ≠ ".") (notUp : name ≠ "..")
    (short : ¬ maxNameSize < name.utf8ByteSize) (last : rest.isEmpty = true) (content : ByteArray) :
    (t.put (directory ++ [name]) (.file content)).walk directory (name :: rest) =
      .ok (.file (directory ++ [name]) content) := by
  have below : directory ++ [name] ≠ [] := List.append_ne_nil_of_right_ne_nil _ (List.cons_ne_nil _ _)
  rw [walk_name _ _ _ _ notDot notUp short, lookup_put t _ below]
  exact if_pos last

/-- A place to write at is no directory. -/
theorem lookup_target (reached : t.walk directory names = .ok place)
    (target : place.target? = some location) : t.lookup location ≠ some .directory := by
  fun_induction walk t directory names with
  | case1 directory => cases reached; contradiction
  | case2 directory rest ih => exact ih reached
  | case3 directory rest _ ih => exact ih reached
  | case4 => contradiction
  | case5 directory name rest _ _ _ here found ih => exact ih reached
  | case6 directory name rest _ _ _ here content found last =>
    cases reached
    rw [← Option.some.inj target, found]
    nofun
  | case7 => contradiction
  | case8 directory name rest _ _ _ here free last =>
    cases reached
    rw [← Option.some.inj target, free]
    nofun
  | case9 => contradiction

/-- The same names lead to a file that has been written. -/
theorem walk_put (reached : t.walk directory names = .ok place)
    (target : place.target? = some location) (content : ByteArray) :
    (t.put location (.file content)).walk directory names = .ok (.file location content) := by
  have notDirectory := lookup_target reached target
  fun_induction walk t directory names with
  | case1 directory => cases reached; contradiction
  | case2 directory rest ih =>
    rw [walk, if_pos rfl]
    exact ih reached
  | case3 directory rest notDot ih =>
    rw [walk, if_neg notDot, if_pos rfl]
    exact ih reached
  | case4 => contradiction
  | case5 directory name rest notDot notUp short here found ih =>
    have other : here ≠ location := by
      rintro rfl
      exact notDirectory found
    rw [walk_name _ _ _ _ notDot notUp short, lookup_put_of_ne t _ other, found]
    exact ih reached
  | case6 directory name rest notDot notUp short here old found last =>
    cases reached
    rw [← Option.some.inj target]
    exact walk_put_last t directory notDot notUp short last content
  | case7 => contradiction
  | case8 directory name rest notDot notUp short here free last =>
    cases reached
    rw [← Option.some.inj target]
    exact walk_put_last t directory notDot notUp short last content
  | case9 => contradiction

theorem locate_eq_ok_iff : t.locate path = .ok place ↔
    checkPath path = .ok () ∧ t.walk (t.origin path) (Path.segments path) = .ok place := by
  rw [locate, follow, except_bind_eq_ok_iff]
  constructor
  · rintro ⟨_, checked, reached⟩
    exact ⟨checked, reached⟩
  · rintro ⟨checked, reached⟩
    exact ⟨_, checked, reached⟩

/-- A name by itself leads to what there is of this name in the working directory. -/
theorem locate_name (t : FileTree) (plain : '/' ∉ name.toList) (checked : checkPath name = .ok ())
    (notDot : name ≠ ".") (notUp : name ≠ "..") (short : ¬ maxNameSize < name.utf8ByteSize) :
    t.locate name =
      match t.lookup (t.here ++ [name]) with
      | some .directory => .ok (.directory (t.here ++ [name]))
      | some (.file content) => .ok (.file (t.here ++ [name]) content)
      | none => .ok (.free (t.here ++ [name])) := by
  have nonempty : name ≠ "" := by
    rintro rfl
    contradiction
  have relative : t.origin name = t.here := by
    have first : name.toList.head? ≠ some '/' := fun slash => plain (List.mem_of_head? slash)
    simp [origin, Path.isAbsolute, first]
  rw [locate, follow, checked, relative, Path.segments_name plain nonempty]
  exact t.walk_name t.here name [] notDot notUp short

theorem readBytes_eq_ok_iff : t.readBytes path = .ok content ↔
    Path.endsWithSlash path = false ∧ ∃ location, t.locate path = .ok (.file location content) := by
  rw [readBytes, except_bind_eq_ok_iff]
  constructor
  · rintro ⟨place, located, read⟩
    cases place with
    | file location found =>
      cases slash : Path.endsWithSlash path with
      | true => simp [slash, except_throw_eq_ok_iff] at read
      | false =>
        obtain rfl : found = content := by simpa [slash, except_pure_eq_ok_iff] using read
        exact ⟨rfl, location, located⟩
    | _ => contradiction
  · rintro ⟨noSlash, location, located⟩
    exact ⟨_, located, by simp [noSlash, except_pure_eq_ok_iff]⟩

theorem readText_eq_ok_iff : t.readText path = .ok text ↔ t.readBytes path = .ok text.toUTF8 := by
  rw [readText, except_bind_eq_ok_iff]
  constructor
  · rintro ⟨content, read, decoded⟩
    cases known : String.fromUTF8? content with
    | none =>
      rw [known] at decoded
      contradiction
    | some found =>
      obtain rfl : found = text := by simpa [known, except_pure_eq_ok_iff] using decoded
      rw [(fromUTF8?_eq_some_iff content).mp known, read]
  · intro read
    have known := (fromUTF8?_eq_some_iff text.toUTF8).mpr rfl
    exact ⟨_, read, by rw [known]; rfl⟩

theorem target_eq_ok_iff : t.target path = .ok location ↔
    Path.endsWithSlash path = false ∧
      ∃ place, t.locate path = .ok place ∧ place.target? = some location := by
  unfold target
  cases slash : Path.endsWithSlash path with
  | true => simp [except_bind_eq_ok_iff, except_throw_eq_ok_iff]
  | false =>
    simp only [Bool.false_eq_true, if_false, true_and]
    rw [except_bind_eq_ok_iff]
    refine exists_congr fun place => and_congr_right fun _ => ?_
    cases place <;> simp [Place.target?, except_pure_eq_ok_iff, except_throw_eq_ok_iff]

/-- A file can be written wherever one can be read. -/
theorem exists_writeText (opened : t.readText path = .ok old) (text : String) :
    ∃ saved, t.writeText path text = .ok saved := by
  obtain ⟨noSlash, location, located⟩ := readBytes_eq_ok_iff.mp (readText_eq_ok_iff.mp opened)
  have found : t.target path = .ok location := target_eq_ok_iff.mpr ⟨noSlash, _, located, rfl⟩
  exact ⟨_, except_bind_eq_ok_iff.mpr ⟨location, found, rfl⟩⟩

/-- What has been written at a path is read there. -/
theorem readText_of_writeText (written : t.writeText path text = .ok saved) :
    saved.readText path = .ok text := by
  obtain ⟨location, found, put⟩ := except_bind_eq_ok_iff.mp written
  cases put
  obtain ⟨noSlash, place, located, target⟩ := target_eq_ok_iff.mp found
  obtain ⟨checked, reached⟩ := locate_eq_ok_iff.mp located
  have again := locate_eq_ok_iff.mpr ⟨checked, walk_put reached target text.toUTF8⟩
  exact readText_eq_ok_iff.mpr (readBytes_eq_ok_iff.mpr ⟨noSlash, location, again⟩)

end FileTree
end LineEditor
