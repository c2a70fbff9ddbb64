import LineEditor.Sink
import Mathlib.Data.Nat.Basic

/-! What a display takes of a text. Writing a text is writing its parts one after the other, as long as
nothing is written behind a part that was cut off. -/
namespace LineEditor.Sink

theorem extract_append_of_le {front back : ByteArray} (inside : stop ≤ front.size) :
    (front ++ back).extract 0 stop = front.extract 0 stop := by
  have nothing : back.extract (0 - front.size) (stop - front.size) = .empty :=
    ByteArray.extract_eq_empty_iff.mpr (by omega)
  rw [ByteArray.extract_append, nothing, ByteArray.append_empty]

theorem extract_of_size_le {bytes : ByteArray} (beyond : bytes.size ≤ stop) :
    bytes.extract 0 stop = bytes := by
  apply ByteArray.ext
  rw [ByteArray.data_extract, Array.extract_eq_self_of_le beyond]

theorem extract_append_of_ge {front back : ByteArray} (beyond : front.size ≤ stop) :
    (front ++ back).extract 0 stop = front ++ back.extract 0 (stop - front.size) := by
  rw [ByteArray.extract_append, extract_of_size_le beyond, Nat.zero_sub]

variable {text more : String} {written : ByteArray} {room : Nat}

theorem write_of_le (fits : text.toUTF8.size ≤ room) :
    write ⟨written, some room⟩ text =
      (⟨written ++ text.toUTF8, some (room - text.toUTF8.size)⟩, true) :=
  if_pos fits

theorem write_of_gt (exceeds : room < text.toUTF8.size) :
    write ⟨written, some room⟩ text = (⟨written ++ text.toUTF8.extract 0 room, some 0⟩, false) :=
  if_neg (Nat.not_le.mpr exceeds)

theorem write_empty (sink : Sink) : sink.write "" = (sink, true) := by
  obtain ⟨written, room⟩ := sink
  cases room <;> simp [write]

theorem write_append (sink : Sink) (text more : String) :
    sink.write (text ++ more) =
      if (sink.write text).2 then (sink.write text).1.write more else sink.write text := by
  have bytes : (text ++ more).toUTF8 = text.toUTF8 ++ more.toUTF8 := String.toByteArray_append
  have size : (text ++ more).toUTF8.size = text.toUTF8.size + more.toUTF8.size := by
    rw [bytes, ByteArray.size_append]
  obtain ⟨written, room⟩ := sink
  cases room with
  | none => simp only [write, bytes, ByteArray.append_assoc, if_true]
  | some room =>
    rcases Nat.lt_or_ge room text.toUTF8.size with exceeds | fits
    · have cut : room < (text ++ more).toUTF8.size := by omega
      rw [write_of_gt cut, write_of_gt exceeds, bytes, extract_append_of_le (Nat.le_of_lt exceeds)]
      rfl
    rw [write_of_le fits, if_pos rfl]
    rcases Nat.lt_or_ge (room - text.toUTF8.size) more.toUTF8.size with exceeds | rest
    · have cut : room < (text ++ more).toUTF8.size := by omega
      rw [write_of_gt cut, write_of_gt exceeds, bytes, extract_append_of_ge fits,
        ByteArray.append_assoc]
    · have all : (text ++ more).toUTF8.size ≤ room := by omega
      rw [write_of_le all, write_of_le rest, size, bytes, ByteArray.append_assoc, Nat.sub_sub]

end LineEditor.Sink
