import Datagrid.Proofs.Wire.Extensions
import Datagrid.Proofs.Wire.Headers

/-!
# Fixed fields as a store

A frame is a store of fields. Whether a field can be read or set depends on where it ends, and on
nothing else; setting it changes its own bytes and no other; so what lies elsewhere reads as before,
and fields that lie apart are set in any order. What cannot be set leaves the frame as it was.
-/
namespace Datagrid

/-! ## Kinds of fields -/

inductive FieldKind where
  | int
  | long
  | byte
  | bool
  | guid
  deriving DecidableEq

namespace FieldKind

/-- The values of a kind. An identifier may be absent. -/
abbrev Value : FieldKind → Type
  | int => Int32
  | long => Int64
  | byte => UInt8
  | bool => Bool
  | guid => Option Uuid

def field : (kind : FieldKind) → Field kind.Value
  | int => .int
  | long => .long
  | byte => .byte
  | bool => .bool
  | guid => .guid

instance : (kind : FieldKind) → Field.Lawful kind.field
  | int => inferInstanceAs (Field.Lawful Field.int)
  | long => inferInstanceAs (Field.Lawful Field.long)
  | byte => inferInstanceAs (Field.Lawful Field.byte)
  | bool => inferInstanceAs (Field.Lawful Field.bool)
  | guid => inferInstanceAs (Field.Lawful Field.guid)

end FieldKind

/-! ## Fields of bytes -/

namespace Field

variable {α β : Type} {field : Field α} {bytes written : Octets} {offset width size : Nat} {value : α}

/-- Whether a field of `width` bytes lies within `size` bytes, its end being a 64-bit offset. -/
def Fits (width offset size : Nat) : Prop := offset + width < UInt64.size ∧ offset + width ≤ size

instance : Decidable (Fits width offset size) := inferInstanceAs (Decidable (_ ∧ _))

theorem misfit_eq_none_iff : misfit? width offset size = none ↔ Fits width offset size := by
  unfold misfit? Fits
  by_cases large : UInt64.size ≤ offset + width
  · simp [large, Nat.not_lt.mpr large]
  by_cases short : size < offset + width
  · simp [large, short, Nat.not_le.mpr short]
  · simp [large, short, Nat.not_le.mp large, Nat.not_lt.mp short]

/-- Why a field does not fit: its end is no offset, or there are too few bytes. -/
theorem misfit_eq_some (misfit : ¬ Fits width offset size) :
    misfit? width offset size = some
      (if UInt64.size ≤ offset + width then .offsetOverflow offset else .short .field (offset + width) size) := by
  unfold misfit?
  unfold Fits at misfit
  by_cases large : UInt64.size ≤ offset + width
  · rw [if_pos large, if_pos large]
  · rw [if_neg large, if_neg large, if_pos (by omega)]

theorem exists_read_iff : (∃ a, field.read bytes offset = .ok a) ↔ Fits field.width offset bytes.length := by
  simp [read_eq_ok_iff, Fits]

theorem write_eq_ok_iff :
    field.write bytes offset value = .ok written ↔
      Fits field.width offset bytes.length ∧
        bytes.take offset ++ field.encode value ++ bytes.drop (offset + field.width) = written := by
  rw [← misfit_eq_none_iff, write]
  cases misfit? field.width offset bytes.length <;> simp

section
variable [Lawful field] (done : field.write bytes offset value = .ok written)
include done

theorem length_write : written.length = bytes.length := by
  obtain ⟨⟨-, inside⟩, rfl⟩ := write_eq_ok_iff.1 done
  simp only [List.length_append, List.length_take, List.length_drop, Lawful.length_encode]
  omega

/-- The bytes after setting a field: those of the value within it, those that were there elsewhere. -/
theorem getElem?_write (i : Nat) :
    written[i]? = if offset ≤ i ∧ i < offset + field.width then (field.encode value)[i - offset]? else bytes[i]? := by
  obtain ⟨⟨-, inside⟩, rfl⟩ := write_eq_ok_iff.1 done
  have width : (field.encode value).length = field.width := Lawful.length_encode value
  have before : (bytes.take offset).length = offset := List.length_take_of_le (by omega)
  rw [List.append_assoc]
  by_cases left : i < offset
  · rw [List.getElem?_append_left (by omega), List.getElem?_take_of_lt left, if_neg (by omega)]
  rw [List.getElem?_append_right (by omega), before]
  by_cases within : i < offset + field.width
  · rw [List.getElem?_append_left (by omega), if_pos (by omega)]
  · rw [List.getElem?_append_right (by omega), List.getElem?_drop, if_neg (by omega), width]
    congr 1
    omega

end

end Field

/-! ## Fields of frames -/

namespace Frame

variable {α β : Type} {f g : Frame} {field : Field α} {other : Field β} {offset place : Nat} {value : α} {further : β}

/-- A frame after a field of it was to be set, and whether it could be. -/
def store (f : Frame) (field : Field α) (offset : Nat) (value : α) : Except Fault Unit × Frame :=
  match f.write field offset value with
  | .ok f => (.ok (), f)
  | .error fault => (.error fault, f)

theorem write_eq_ok_iff :
    f.write field offset value = .ok g ↔ ∃ content, field.write f.content offset value = .ok content ∧
      { f with content } = g := by
  rw [write]
  cases field.write f.content offset value <;> simp [bind, Except.bind, pure, Except.pure]

theorem exists_write_iff :
    (∃ g, f.write field offset value = .ok g) ↔ Field.Fits field.width offset f.content.length := by
  simp [write_eq_ok_iff, Field.write_eq_ok_iff]

theorem read_write [Field.Lawful field] (done : f.write field offset value = .ok g) :
    g.read field offset = .ok value := by
  obtain ⟨content, written, rfl⟩ := write_eq_ok_iff.1 done
  rw [read, Field.read_write (Field.Lawful.length_encode value) written, Field.Lawful.decode_encode]

theorem read_write_of_apart [Field.Lawful field] (done : f.write field offset value = .ok g)
    (apart : place + other.width ≤ offset ∨ offset + field.width ≤ place) :
    g.read other place = f.read other place := by
  obtain ⟨content, written, rfl⟩ := write_eq_ok_iff.1 done
  exact Field.read_write_of_apart (Field.Lawful.length_encode value) written apart

/-! ### Setting fields one after the other -/

/-- What comes of setting a field depends on the number of bytes of the frame, and not on them. -/
theorem store_fst (f : Frame) (field : Field α) (offset : Nat) (value : α) :
    (f.store field offset value).1 = match Field.misfit? field.width offset f.content.length with
      | none => .ok ()
      | some cause => .error (.framing cause) := by
  rw [store, write, Field.write]
  cases Field.misfit? field.width offset f.content.length <;> rfl

theorem store_snd_of_misfit (misfit : ¬ Field.Fits field.width offset f.content.length) (value : α) :
    (f.store field offset value).2 = f := by
  rw [store, write, Field.write, Field.misfit_eq_some misfit]
  rfl

theorem write_of_fits (fits : Field.Fits field.width offset f.content.length) (value : α) :
    f.write field offset value = .ok (f.store field offset value).2 := by
  obtain ⟨g, done⟩ := exists_write_iff.2 fits
  rw [store, done]

theorem store_keeps (f : Frame) (field : Field α) [Field.Lawful field] (offset : Nat) (value : α) :
    (f.store field offset value).2.flags = f.flags ∧
      (f.store field offset value).2.content.length = f.content.length := by
  by_cases fits : Field.Fits field.width offset f.content.length
  · obtain ⟨content, written, stored⟩ := write_eq_ok_iff.1 (write_of_fits fits value)
    rw [← stored]
    exact ⟨rfl, Field.length_write written⟩
  · rw [store_snd_of_misfit fits]
    exact ⟨rfl, rfl⟩

/-- The bytes of a frame after setting a field, byte by byte. -/
theorem getElem?_store (f : Frame) (field : Field α) [Field.Lawful field] (offset : Nat) (value : α) (i : Nat) :
    (f.store field offset value).2.content[i]? =
      if Field.Fits field.width offset f.content.length ∧ offset ≤ i ∧ i < offset + field.width then
        (field.encode value)[i - offset]?
      else f.content[i]? := by
  by_cases fits : Field.Fits field.width offset f.content.length
  · obtain ⟨content, written, stored⟩ := write_eq_ok_iff.1 (write_of_fits fits value)
    rw [← stored]
    simp only [fits, true_and]
    exact Field.getElem?_write written i
  · rw [store_snd_of_misfit fits, if_neg fun inside => fits inside.1]

/-- Fields that lie apart are set in any order, and each can be set or cannot, whichever comes first. -/
theorem store_comm [Field.Lawful field] [Field.Lawful other] (f : Frame)
    (apart : place + other.width ≤ offset ∨ offset + field.width ≤ place) (value : α) (further : β) :
    ((f.store field offset value).2.store other place further).2 =
        ((f.store other place further).2.store field offset value).2 ∧
      ((f.store field offset value).2.store other place further).1 = (f.store other place further).1 ∧
      ((f.store other place further).2.store field offset value).1 = (f.store field offset value).1 := by
  obtain ⟨flags, length⟩ := store_keeps f field offset value
  obtain ⟨flags', length'⟩ := store_keeps f other place further
  refine ⟨?_, by rw [store_fst, length, store_fst], by rw [store_fst, length', store_fst]⟩
  have content : ((f.store field offset value).2.store other place further).2.content =
      ((f.store other place further).2.store field offset value).2.content := by
    refine List.ext_getElem? fun i => ?_
    rw [getElem?_store, getElem?_store, getElem?_store, getElem?_store, length, length']
    -- A byte of the first field is none of the other, so that the last writer is the only one.
    by_cases here : Field.Fits field.width offset f.content.length ∧ offset ≤ i ∧ i < offset + field.width
    · rw [if_pos here, if_pos here, if_neg (by omega)]
    · rw [if_neg here, if_neg here]
  have same : ((f.store field offset value).2.store other place further).2.flags =
      ((f.store other place further).2.store field offset value).2.flags := by
    rw [(store_keeps _ other place further).1, flags, (store_keeps _ field offset value).1, flags']
  exact congrArg₂ Frame.mk same content

/-! ### The store -/

/-- What reading and setting a field of some kind comes to. -/
structure Stores (f : Frame) (kind : FieldKind) (offset : Nat) (value : kind.Value) : Prop where
  /-- A field can be read exactly where it fits. -/
  readable : (∃ v, f.read kind.field offset = .ok v) ↔ Field.Fits kind.field.width offset f.content.length
  /-- A field can be set exactly where it fits. -/
  writable : (∃ g, f.write kind.field offset value = .ok g) ↔ Field.Fits kind.field.width offset f.content.length
  /-- It then reads as it was set, -/
  back (g : Frame) : f.write kind.field offset value = .ok g → g.read kind.field offset = .ok value
  /-- and no more than its own bytes were written. -/
  confined (g : Frame) : f.write kind.field offset value = .ok g →
    g.flags = f.flags ∧ g.content.length = f.content.length ∧
      ∀ i, i < offset ∨ offset + kind.field.width ≤ i → g.content[i]? = f.content[i]?
  /-- Fields that lie apart read as before, whether they can be read or not, -/
  apart (g : Frame) (other : FieldKind) (place : Nat) : f.write kind.field offset value = .ok g →
    place + other.field.width ≤ offset ∨ offset + kind.field.width ≤ place →
      g.read other.field place = f.read other.field place
  /-- and are set with the same outcome in either order. -/
  commutes (other : FieldKind) (place : Nat) (further : other.Value) :
    place + other.field.width ≤ offset ∨ offset + kind.field.width ≤ place →
      let first := f.store kind.field offset value
      let second := f.store other.field place further
      (first.2.store other.field place further).2 = (second.2.store kind.field offset value).2 ∧
        (first.2.store other.field place further).1 = second.1 ∧
        (second.2.store kind.field offset value).1 = first.1
  /-- What does not fit can neither be read nor set, for the same reason, and the frame stays as it was. -/
  refused : ¬ Field.Fits kind.field.width offset f.content.length →
    let cause : FramingFault :=
      if UInt64.size ≤ offset + kind.field.width then .offsetOverflow offset
      else .short .field (offset + kind.field.width) f.content.length
    f.read kind.field offset = .error (.framing cause) ∧ f.write kind.field offset value = .error (.framing cause) ∧
      f.store kind.field offset value = (.error (.framing cause), f)

/-- A frame is a store of fixed fields. -/
theorem fields_are_stored (f : Frame) (kind : FieldKind) (offset : Nat) (value : kind.Value) :
    f.Stores kind offset value where
  readable := Field.exists_read_iff
  writable := exists_write_iff
  back _ := read_write
  confined g done := by
    obtain ⟨content, written, rfl⟩ := write_eq_ok_iff.1 done
    refine ⟨rfl, Field.length_write written, fun i outside => ?_⟩
    rw [Field.getElem?_write written, if_neg (by omega)]
  apart _ _ _ := read_write_of_apart
  commutes _ _ further disjoint := store_comm f disjoint value further
  refused misfit := by
    refine ⟨?_, ?_, ?_⟩
    · rw [read, Field.read, Field.misfit_eq_some misfit]
    · rw [write, Field.write, Field.misfit_eq_some misfit]
      rfl
    · rw [store, write, Field.write, Field.misfit_eq_some misfit]
      rfl

end Frame
end Datagrid
