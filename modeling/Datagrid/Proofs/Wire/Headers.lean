import Datagrid.Proofs.Wire.Frames
import Datagrid.Wire.Message

/-!
# Headers: fields of messages

A field that has been set reads back, and whether it can be set does not depend on
what it is set to.
-/
namespace Datagrid

namespace Field

variable {α β : Type} {field : Field α} {bytes written : Octets} {offset : Nat} {value : α}

private theorem misfit_of_write (done : field.write bytes offset value = .ok written) :
    misfit? field.width offset bytes.length = none := by
  unfold write at done
  cases misfit : misfit? field.width offset bytes.length with
  | some fault => simp [misfit] at done
  | none => rfl

private theorem written_eq (width : (field.encode value).length = field.width)
    (done : field.write bytes offset value = .ok written) :
    written = bytes.take offset ++ (field.encode value ++ bytes.drop (offset + field.width)) ∧
      (bytes.take offset).length = offset ∧ written.length = bytes.length := by
  have misfit := misfit_of_write done
  simp only [write, misfit, Except.ok.injEq] at done
  have inside : ¬ bytes.length < offset + field.width := by
    intro short
    unfold misfit? at misfit
    rw [if_pos short] at misfit
    split at misfit <;> cases misfit
  have before : (bytes.take offset).length = offset := by
    rw [List.length_take]
    omega
  refine ⟨by rw [← done, List.append_assoc], before, ?_⟩
  rw [← done]
  simp only [List.length_append, before, width, List.length_drop]
  omega

private theorem misfit_eq_none {width size : Nat} (fits : offset + width < UInt64.size) (inside : offset + width ≤ size) :
    misfit? width offset size = none := by
  simp only [misfit?, Nat.not_le.mpr fits, Nat.not_lt.mpr inside, if_false]

/-- What was written at an offset is what is read there. -/
theorem read_write (width : (field.encode value).length = field.width)
    (done : field.write bytes offset value = .ok written) :
    field.read written offset = .ok (field.decode (field.encode value)) := by
  obtain ⟨parts, before, same⟩ := written_eq width done
  have there : (written.drop offset).take field.width = field.encode value := by
    rw [parts, List.drop_left' before, List.take_left' width]
  unfold read
  rw [same, misfit_of_write done, there]

/-- What is written at an offset leaves the fields elsewhere as they are. -/
theorem read_write_of_apart {other : Field β} {place : Nat} (width : (field.encode value).length = field.width)
    (done : field.write bytes offset value = .ok written)
    (apart : place + other.width ≤ offset ∨ offset + field.width ≤ place) :
    other.read written place = other.read bytes place := by
  obtain ⟨parts, before, same⟩ := written_eq width done
  have there : (written.drop place).take other.width = (bytes.drop place).take other.width := by
    rw [parts]
    rcases apart with left | right
    · have within : other.width ≤ ((bytes.take offset).drop place).length := by
        rw [List.length_drop, before]
        omega
      rw [List.drop_append_of_le_length (by omega), List.take_append_of_le_length within, List.drop_take,
        List.take_take, Nat.min_eq_left (by omega)]
    · have beyond : (bytes.take offset ++ field.encode value).length ≤ place := by
        rw [List.length_append, before, width]
        exact right
      rw [← List.append_assoc, List.drop_append, List.drop_of_length_le beyond, List.nil_append, List.drop_drop]
      congr 2
      rw [List.length_append, before, width]
      omega
  unfold read
  rw [same, there]

/-- A field reads back from where it stands. -/
theorem read_append {left right : Octets} (width : (field.encode value).length = field.width)
    (fits : left.length + field.width < UInt64.size) :
    field.read (left ++ (field.encode value ++ right)) left.length = .ok (field.decode (field.encode value)) := by
  have inside : left.length + field.width ≤ (left ++ (field.encode value ++ right)).length := by
    simp only [List.length_append, width]
    omega
  unfold read
  rw [misfit_eq_none fits inside, List.drop_left, List.take_left' width]

/-- Whether a field can be written does not depend on its value. -/
theorem write_any (other : α) (done : field.write bytes offset value = .ok written) :
    ∃ others, field.write bytes offset other = .ok others := by
  unfold write
  rw [misfit_of_write done]
  exact ⟨_, rfl⟩

/-- A field of some width whose bytes read back. -/
class Lawful (field : Field α) : Prop where
  positive : 0 < field.width
  length_encode (a : α) : (field.encode a).length = field.width
  decode_encode (a : α) : field.decode (field.encode a) = a

instance : Lawful int := ⟨by decide, length_encode_int, decode_encode_int⟩

instance : Lawful long := ⟨by decide, length_encode_long, decode_encode_long⟩

instance : Lawful byte := ⟨by decide, fun _ => rfl, fun _ => rfl⟩

instance : Lawful bool := ⟨by decide, fun _ => rfl, by decide⟩

instance : Lawful guid where
  positive := by decide
  length_encode := length_encode_guid
  decode_encode
    | none => rfl
    | some u => decode_encode_guid u

section
variable [Lawful field]

/-- A field reads back from where its bytes begin. -/
theorem read_of_drop {bytes right : Octets} {offset : Nat} {a : α}
    (here : bytes.drop offset = field.encode a ++ right) (fits : offset + field.width < UInt64.size) :
    field.read bytes offset = .ok a := by
  have width : (field.encode a).length = field.width := Lawful.length_encode a
  have positive : 0 < field.width := Lawful.positive
  have before : (bytes.take offset).length = offset := by
    have size := congrArg List.length here
    simp only [List.length_drop, List.length_append, width] at size
    rw [List.length_take]
    omega
  have read : field.read (bytes.take offset ++ (field.encode a ++ right)) (bytes.take offset).length =
      .ok (field.decode (field.encode a)) :=
    read_append width (by rw [before]; exact fits)
  rwa [← here, List.take_append_drop, before, Lawful.decode_encode] at read

/-- What follows a field stands right after it. -/
theorem drop_of_drop {right : Octets} {a : α} (here : bytes.drop offset = field.encode a ++ right) :
    bytes.drop (offset + field.width) = right := by
  rw [← List.drop_drop, here, List.drop_left' (Lawful.length_encode a)]

/-- A field is written over another value of it. -/
theorem write_append (left right : Octets) (a b : α) (fits : left.length + field.width < UInt64.size) :
    field.write (left ++ (field.encode a ++ right)) left.length b = .ok (left ++ (field.encode b ++ right)) := by
  have width : (field.encode a).length = field.width := Lawful.length_encode a
  have inside : left.length + field.width ≤ (left ++ (field.encode a ++ right)).length := by
    simp only [List.length_append, width]
    omega
  unfold write
  rw [misfit_eq_none fits inside, List.take_left, ← List.drop_drop, List.drop_left, List.drop_left' width,
    List.append_assoc]

end

end Field

namespace Message

variable {m set : Message} {k : Int64}

private theorem frames_of_setCorrelation (done : m.setCorrelation k = .ok set) :
    ∃ first rest content, m.frames = first :: rest ∧ set.frames = { first with content } :: rest ∧
      Field.long.write first.content correlationOffset k = .ok content := by
  unfold setCorrelation setHeader at done
  cases frames : m.frames with
  | nil => simp [frames] at done
  | cons first rest =>
    simp only [frames, Frame.write] at done
    cases written : Field.long.write first.content correlationOffset k with
    | error fault => simp [written, bind, Except.bind] at done
    | ok content =>
      simp only [written, bind, Except.bind, pure, Except.pure, Except.ok.injEq] at done
      exact ⟨first, rest, content, rfl, by simp [← done], written⟩

/-- A message has the correlation id that it was given. -/
theorem correlation_of_setCorrelation (done : m.setCorrelation k = .ok set) : set.correlation = .ok k := by
  obtain ⟨first, rest, content, -, frames, written⟩ := frames_of_setCorrelation done
  unfold correlation header
  simp only [frames, Frame.read]
  rw [Field.read_write (Field.length_encode_long k) written, Field.decode_encode_long]

/-- A correlation id leaves the other fields of the header as they are. -/
theorem header_of_setCorrelation {α : Type} {field : Field α} {offset : Nat} (done : m.setCorrelation k = .ok set)
    (apart : offset + field.width ≤ correlationOffset ∨ correlationOffset + Field.long.width ≤ offset) :
    set.header field offset = m.header field offset := by
  obtain ⟨first, rest, content, frames, frames', written⟩ := frames_of_setCorrelation done
  unfold header
  simp only [frames, frames', Frame.read]
  exact Field.read_write_of_apart (Field.length_encode_long k) written apart

/-- A message that takes one correlation id takes any. -/
theorem setCorrelation_any (done : m.setCorrelation k = .ok set) (other : Int64) :
    ∃ others, m.setCorrelation other = .ok others := by
  obtain ⟨first, rest, content, frames, -, written⟩ := frames_of_setCorrelation done
  obtain ⟨others, written'⟩ := Field.write_any other written
  unfold setCorrelation setHeader
  simp only [frames, Frame.write, written', bind, Except.bind]
  exact ⟨_, rfl⟩

end Message

/-- The bytes of a first frame up to the end of its correlation id. -/
def correlationEnd : Nat := correlationOffset + Field.long.width

/-- A first frame with the eight bytes of another correlation id, and all else as it was. -/
def Frame.stamped (f : Frame) (k : Int64) : Frame :=
  { f with content := f.content.take correlationOffset ++ Field.long.encode k ++ f.content.drop correlationEnd }

/-- What is stamped twice bears the second stamp. -/
theorem Frame.stamped_stamped {f : Frame} (room : correlationEnd ≤ f.content.length) (k k' : Int64) :
    (f.stamped k).stamped k' = f.stamped k' := by
  have before : (f.content.take correlationOffset).length = correlationOffset :=
    List.length_take_of_le (Nat.le_trans (Nat.le_add_right ..) room)
  have upto : (f.content.take correlationOffset ++ Field.long.encode k).length = correlationEnd := by
    rw [List.length_append, before, Field.length_encode_long]
    rfl
  have front : (f.content.take correlationOffset ++ Field.long.encode k ++ f.content.drop correlationEnd).take
      correlationOffset = f.content.take correlationOffset := by
    rw [List.append_assoc, List.take_left' before]
  have back : (f.content.take correlationOffset ++ Field.long.encode k ++ f.content.drop correlationEnd).drop
      correlationEnd = f.content.drop correlationEnd := List.drop_left' upto
  simp only [stamped, front, back]

theorem Frame.length_stamped {f : Frame} (room : correlationEnd ≤ f.content.length) (k : Int64) :
    (f.stamped k).content.length = f.content.length := by
  have before : (f.content.take correlationOffset).length = correlationOffset :=
    List.length_take_of_le (Nat.le_trans (Nat.le_add_right ..) room)
  have width : correlationEnd = correlationOffset + 8 := rfl
  simp only [stamped, List.length_append, before, Field.length_encode_long, List.length_drop]
  omega

namespace Message

/-- A message that is sent again under a correlation id of its own. All its frames have the flags and the
    bytes of the original, but for the eight bytes of the id in the first one. -/
structure Repeats (m original : Message) (k : Int64) : Prop where
  operation : m.operation = original.operation
  retryable : m.retryable = original.retryable
  /-- It is open, and lent to nobody, whatever the original is. -/
  unsealed : m.isSealed = false
  free : m.lent = false
  frames : ∃ first rest, original.frames = first :: rest ∧ correlationEnd ≤ first.content.length ∧
    m.frames = first.stamped k :: rest

variable {m set original : Message} {k : Int64}

theorem repeats_of_setCorrelation (done : m.copy.setCorrelation k = .ok set) : set.Repeats m k := by
  obtain ⟨first, rest, content, frames, frames', written⟩ := frames_of_setCorrelation done
  obtain ⟨parts, before, same⟩ := Field.written_eq (Field.length_encode_long k) written
  have room : correlationEnd ≤ first.content.length := by
    rw [← same, parts, List.length_append, before, List.length_append, Field.length_encode_long]
    exact Nat.add_le_add_left (Nat.le_add_right ..) _
  have others : set = { m.copy with frames := set.frames } := by
    unfold setCorrelation setHeader at done
    simp only [frames, Frame.write, written, bind, Except.bind, pure, Except.pure, Except.ok.injEq] at done
    rw [← done]
  rw [others]
  refine ⟨rfl, rfl, rfl, rfl, first, rest, frames, room, ?_⟩
  rw [frames', parts, Frame.stamped, List.append_assoc]
  rfl

/-- Two messages that repeat the same one repeat each other. -/
theorem Repeats.other {m' : Message} {k' : Int64} (repeats : m.Repeats original k)
    (repeats' : m'.Repeats original k') : m'.Repeats m k' := by
  obtain ⟨first, rest, frames, room, same⟩ := repeats.frames
  obtain ⟨first', rest', frames', -, same'⟩ := repeats'.frames
  obtain ⟨rfl, rfl⟩ := List.cons.inj (frames.symm.trans frames')
  refine ⟨repeats'.operation.trans repeats.operation.symm, repeats'.retryable.trans repeats.retryable.symm,
    repeats'.unsealed, repeats'.free, first.stamped k, rest, same, ?_, ?_⟩
  · rw [Frame.length_stamped room]
    exact room
  · rw [same', Frame.stamped_stamped room]

end Message
end Datagrid
