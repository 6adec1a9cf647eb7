import Datagrid.Payload.Serializer
import Datagrid.Proofs.Wire.Inverses
import Datagrid.Proofs.Wire.Values

/-!
# Streams of payloads: what is written is read, and what is read was written

Values that are written one after the other are read again, and nothing is left. Whatever bytes are
read, and as whatever types, what was read and what remains always make the whole. A reading is
refused for a reason that lies in the bytes, and what a reading gives is what its bytes are written
for; a truth value alone may be read off a byte that is not written for it.
-/
namespace Datagrid

namespace Octets

variable {bytes : Octets} {width n : Nat}

theorem ofBigEndian_lt (bytes : Octets) : ofBigEndian bytes < 256 ^ bytes.length := by
  rw [ofBigEndian, ← List.length_reverse]
  exact ofLittleEndian_lt _

theorem bigEndian_ofBigEndian (size : bytes.length = width) : bigEndian width (ofBigEndian bytes) = bytes := by
  rw [bigEndian, ofBigEndian, littleEndian_ofLittleEndian_of_length (by simpa using size), List.reverse_reverse]

theorem ofBigEndian_bigEndian_of_lt (small : n < 256 ^ width) : ofBigEndian (bigEndian width n) = n := by
  rw [ofBigEndian_bigEndian, Nat.mod_eq_of_lt small]

end Octets

theorem Text.Utf8.encode_of_decode {bytes : Octets} {text : String} (read : decode bytes = .ok text) :
    encode text = bytes := by
  unfold decode at read
  split at read
  · next t valid =>
    obtain rfl := Except.ok.inj read
    unfold String.fromUTF8? at valid
    split at valid
    · obtain rfl := Option.some.inj valid
      rfl
    · cases valid
  · cases read

namespace Source

variable {α β : Type} {s s' : Source}

/-! ## Readers and writers -/

/-- Something is read off the front of what remains. -/
structure Consumes (s s' : Source) (taken : Octets) : Prop where
  rest : s.rest = taken ++ s'.rest
  position : s'.position = s.position + taken.length

/-- Why a reading is refused: too little remains, or what was read last is a negative length, or no text. -/
inductive Refuses (s s' : Source) : Fault → Prop
  | short (needed : Nat) : s'.remaining < needed → Refuses s s' (.payload (.insufficient needed s'.remaining))
  | negative (length : Int32) : length < 0 → Data.intOctets length ++ s'.rest <:+ s.rest →
      Refuses s s' (.payload (.negativeLength length))
  | notText (content : Octets) (fault : Text.Utf8.Fault) : Text.Utf8.decode content = .error fault →
      Primitive.counted content ++ s'.rest <:+ s.rest → Refuses s s' (.payload (.notText fault))

/-- A reader gives a value off the bytes that are a form of it, whatever follows them, off no others, and else
    refuses for a reason. -/
structure Reads (read : OnSource α) (form : α → Octets → Prop) : Prop where
  accepts : ∀ v taken position rest, form v taken →
    read.run ⟨position, taken ++ rest⟩ = (.ok v, ⟨position + taken.length, rest⟩)
  gives : ∀ s v s', read.run s = (.ok v, s') → ∃ taken, form v taken ∧ s.Consumes s' taken
  refuses : ∀ s fault s', read.run s = (.error fault, s') → (∃ taken, s.Consumes s' taken) ∧ s.Refuses s' fault

theorem run_bind (read : OnSource α) (next : α → OnSource β) (s : Source) :
    (read >>= next).run s =
      match read.run s with
      | (.ok v, s') => (next v).run s'
      | (.error fault, s') => (.error fault, s') := by
  show ((ExceptT.bind read next).run s : Except Fault β × Source) = _
  simp only [ExceptT.bind, ExceptT.run, ExceptT.mk, bind, StateT.bind, ExceptT.bindCont]
  rcases read s with ⟨_ | _, _⟩ <;> rfl

theorem run_of_ok {read : OnSource α} {next : α → OnSource β} {v : α} (first : read.run s = (.ok v, s')) :
    (read >>= next).run s = (next v).run s' := by
  rw [run_bind, first]

theorem run_of_error {read : OnSource α} {next : α → OnSource β} {fault : Fault}
    (first : read.run s = (.error fault, s')) : (read >>= next).run s = (.error fault, s') := by
  rw [run_bind, first]

/-! ## Distances -/

theorem Consumes.refl (s : Source) : s.Consumes s [] := ⟨rfl, rfl⟩

theorem Consumes.trans {s'' : Source} {taken more : Octets} (first : s.Consumes s' taken)
    (then' : s'.Consumes s'' more) : s.Consumes s'' (taken ++ more) where
  rest := by rw [first.rest, then'.rest, List.append_assoc]
  position := by rw [then'.position, first.position, List.length_append, Nat.add_assoc]

theorem Consumes.suffix {taken : Octets} (consumes : s.Consumes s' taken) : s'.rest <:+ s.rest :=
  ⟨taken, consumes.rest.symm⟩

/-- Whatever refuses a reading refuses also one that has read something before. -/
theorem Refuses.after {s'' : Source} {taken : Octets} {fault : Fault} (consumes : s.Consumes s' taken)
    (refuses : s'.Refuses s'' fault) : s.Refuses s'' fault := by
  cases refuses with
  | short needed few => exact .short needed few
  | negative length below read => exact .negative length below (read.trans consumes.suffix)
  | notText content fault invalid read => exact .notText content fault invalid (read.trans consumes.suffix)

/-! ## Rules -/

section
variable {read : OnSource α} {form form' : α → Octets → Prop}

theorem Reads.congr (reads : Reads read form) (same : ∀ v taken, form v taken ↔ form' v taken) : Reads read form' := by
  obtain rfl : form = form' := funext fun v => funext fun taken => propext (same v taken)
  exact reads

theorem reads_pure (v : α) : Reads (pure v) (fun w taken => w = v ∧ taken = []) where
  accepts w taken position rest form := by
    obtain ⟨rfl, rfl⟩ := form
    rfl
  gives s w s' run := by
    cases run
    exact ⟨[], ⟨rfl, rfl⟩, .refl s⟩
  refuses s fault s' run := by cases run

theorem Reads.bind {next : α → OnSource β} {after : α → β → Octets → Prop} (first : Reads read form)
    (second : ∀ v, Reads (next v) (after v)) :
    Reads (read >>= next) (fun w taken => ∃ v one two, taken = one ++ two ∧ form v one ∧ after v w two) where
  accepts w taken position rest form := by
    obtain ⟨v, one, two, rfl, form, after⟩ := form
    rw [List.append_assoc, run_of_ok (first.accepts v one position _ form),
      (second v).accepts w two _ rest after, List.length_append, Nat.add_assoc]
  gives s w s' run := by
    rcases one : read.run s with ⟨fault | v, mid⟩
    · rw [run_of_error one] at run
      cases run
    · rw [run_of_ok one] at run
      obtain ⟨taken, form, consumes⟩ := first.gives s v mid one
      obtain ⟨more, after, consumes'⟩ := (second v).gives mid w s' run
      exact ⟨taken ++ more, ⟨v, taken, more, rfl, form, after⟩, consumes.trans consumes'⟩
  refuses s fault s' run := by
    rcases one : read.run s with ⟨fault' | v, mid⟩
    · rw [run_of_error one] at run
      cases run
      exact first.refuses s fault s' one
    · rw [run_of_ok one] at run
      obtain ⟨taken, -, consumes⟩ := first.gives s v mid one
      obtain ⟨⟨more, consumes'⟩, refuses⟩ := (second v).refuses mid fault s' run
      exact ⟨⟨taken ++ more, consumes.trans consumes'⟩, refuses.after consumes⟩

theorem Reads.map (reads : Reads read form) (f : α → β) :
    Reads (read >>= fun v => pure (f v)) (fun w taken => ∃ v, form v taken ∧ w = f v) :=
  (reads.bind fun v => reads_pure (f v)).congr fun w taken => by
    constructor
    · rintro ⟨v, one, two, rfl, form, rfl, rfl⟩
      exact ⟨v, by simpa using form, rfl⟩
    · rintro ⟨v, form, rfl⟩
      exact ⟨v, taken, [], by simp, form, rfl, rfl⟩

end

/-! ## Numbers -/

theorem octets_run (count : Nat) (s : Source) :
    (octets count).run s = if s.remaining < count then (.error (.payload (.insufficient count s.remaining)), s)
      else (.ok (s.rest.take count), ⟨s.position + count, s.rest.drop count⟩) := rfl

theorem reads_octets (count : Nat) : Reads (octets count) (fun bytes taken => bytes.length = count ∧ taken = bytes) where
  accepts bytes taken position rest form := by
    obtain ⟨rfl, rfl⟩ := form
    rw [octets_run, if_neg (by simp [remaining])]
    simp
  gives s bytes s' run := by
    rw [octets_run] at run
    split at run
    · cases run
    · next enough =>
      cases run
      have length : (s.rest.take count).length = count := List.length_take_of_le (Nat.le_of_not_lt enough)
      exact ⟨_, ⟨length, rfl⟩, (List.take_append_drop count s.rest).symm, by rw [length]⟩
  refuses s fault s' run := by
    rw [octets_run] at run
    split at run
    · next few =>
      cases run
      exact ⟨⟨[], .refl s⟩, .short count few⟩
    · cases run

theorem reads_number (width : Nat) :
    Reads (number width) (fun n taken => n < 256 ^ width ∧ taken = Octets.bigEndian width n) := by
  refine ((reads_octets width).map Octets.ofBigEndian).congr fun n taken => ?_
  constructor
  · rintro ⟨bytes, ⟨rfl, rfl⟩, rfl⟩
    exact ⟨Octets.ofBigEndian_lt taken, (Octets.bigEndian_ofBigEndian rfl).symm⟩
  · rintro ⟨small, rfl⟩
    exact ⟨_, ⟨Octets.length_bigEndian width n, rfl⟩, (Octets.ofBigEndian_bigEndian_of_lt small).symm⟩

/-- A value that is known by its number. -/
theorem reads_numbered {width : Nat} (value : Nat → α) (numberOf : α → Nat) (below : ∀ v, numberOf v < 256 ^ width)
    (value_numberOf : ∀ v, value (numberOf v) = v) (numberOf_value : ∀ n < 256 ^ width, numberOf (value n) = n) :
    Reads (do let n ← number width; return value n) (fun v taken => taken = Octets.bigEndian width (numberOf v)) := by
  refine ((reads_number width).map value).congr fun v taken => ?_
  constructor
  · rintro ⟨n, ⟨small, rfl⟩, rfl⟩
    rw [numberOf_value n small]
  · rintro rfl
    exact ⟨numberOf v, ⟨below v, rfl⟩, (value_numberOf v).symm⟩

theorem reads_byte : Reads byte (fun n taken => taken = Octets.bigEndian 1 n.toUInt8.toNat) :=
  reads_numbered _ (fun n : Int8 => n.toUInt8.toNat) (fun n => n.toUInt8.toNat_lt) (by simp)
    (fun n small => by simpa using Nat.mod_eq_of_lt small)

theorem reads_short : Reads short (fun n taken => taken = Octets.bigEndian 2 n.toUInt16.toNat) :=
  reads_numbered _ (fun n : Int16 => n.toUInt16.toNat) (fun n => n.toUInt16.toNat_lt) (by simp)
    (fun n small => by simpa using Nat.mod_eq_of_lt small)

theorem reads_int : Reads int (fun n taken => taken = Data.intOctets n) :=
  reads_numbered _ (fun n : Int32 => n.toUInt32.toNat) (fun n => n.toUInt32.toNat_lt) (by simp)
    (fun n small => by simpa using Nat.mod_eq_of_lt small)

theorem reads_long : Reads long (fun n taken => taken = Octets.bigEndian 8 n.toUInt64.toNat) :=
  reads_numbered _ (fun n : Int64 => n.toUInt64.toNat) (fun n => n.toUInt64.toNat_lt) (by simp)
    (fun n small => by simpa using Nat.mod_eq_of_lt small)

theorem reads_float : Reads float (fun bits taken => taken = Octets.bigEndian 4 bits.toNat) :=
  reads_numbered _ UInt32.toNat UInt32.toNat_lt (by simp) (fun n small => by simpa using Nat.mod_eq_of_lt small)

theorem reads_double : Reads double (fun bits taken => taken = Octets.bigEndian 8 bits.toNat) :=
  reads_numbered _ UInt64.toNat UInt64.toNat_lt (by simp) (fun n small => by simpa using Nat.mod_eq_of_lt small)

/-- A truth value has many forms: it is read off any byte, and is false for zero only. -/
theorem reads_bool : Reads bool (fun b taken => ∃ n : UInt8, taken = [n] ∧ b = (n != 0)) := by
  have zero (n : Int8) : (n != 0) = (n.toUInt8 != 0) := by
    have same : n = 0 ↔ n.toUInt8 = 0 :=
      ⟨fun none => by rw [none]; rfl, fun none => by rw [← Int8.toInt8_toUInt8 n, none]; rfl⟩
    rw [Bool.eq_iff_iff, bne_iff_ne, bne_iff_ne, Ne, Ne, same]
  have one (n : UInt8) : Octets.bigEndian 1 n.toNat = [n] := by simp [Octets.bigEndian, Octets.littleEndian]
  refine (reads_byte.map fun n => n != 0).congr fun b taken => ?_
  constructor
  · rintro ⟨n, rfl, rfl⟩
    exact ⟨n.toUInt8, one _, zero n⟩
  · rintro ⟨n, rfl, rfl⟩
    exact ⟨n.toInt8, by rw [UInt8.toUInt8_toInt8, one], by rw [zero, UInt8.toUInt8_toInt8]⟩

theorem reads_uuid : Reads uuid (fun u taken => taken = (Primitive.uuid u).octets) := by
  refine ((reads_number 8).bind fun high => (reads_number 8).map fun low =>
    (⟨UInt64.ofNat high, UInt64.ofNat low⟩ : Uuid)).congr fun u taken => ?_
  constructor
  · rintro ⟨high, one, two, rfl, ⟨smallHigh, rfl⟩, low, ⟨smallLow, rfl⟩, rfl⟩
    rw [Primitive.octets, UInt64.toNat_ofNat_of_lt' smallHigh, UInt64.toNat_ofNat_of_lt' smallLow]
  · rintro rfl
    exact ⟨_, _, _, rfl, ⟨u.high.toNat_lt, rfl⟩, _, ⟨u.low.toNat_lt, rfl⟩, by simp⟩

/-! ## Texts and bytes -/

theorem bytes_run_of_ok {length : Int32} (first : int.run s = (.ok length, s')) :
    bytes.run s = if length < 0 then (.error (.payload (.negativeLength length)), s')
      else (octets length.toInt.toNat).run s' := by
  rw [bytes, run_of_ok first]
  split <;> rfl

theorem intOctets_ofNat {count : Nat} (small : count < 2 ^ 31) :
    Data.intOctets (.ofNat count) = Octets.bigEndian 4 count := by
  have number : (UInt32.ofNat count).toNat = count := UInt32.toNat_ofNat_of_lt' (Nat.lt_trans small (by decide))
  rw [Data.intOctets, ← UInt32.toInt32_ofNat', UInt32.toUInt32_toInt32, number]

/-- A length that is not negative is the number of so many bytes. -/
theorem ofNat_toNat_of_nonneg {length : Int32} (positive : ¬ length < 0) :
    length.toInt.toNat < 2 ^ 31 ∧ Int32.ofNat length.toInt.toNat = length := by
  have below : length.toInt < 2 ^ 31 := length.toInt_lt
  have above : 0 ≤ length.toInt := by
    rw [Int32.lt_iff_toInt_lt] at positive
    exact Int.not_lt.1 positive
  have small : length.toInt.toNat < 2 ^ 31 := by omega
  refine ⟨small, ?_⟩
  rw [← Int32.toInt_inj, Int32.toInt_ofNat_of_lt small, Int.toNat_of_nonneg above]

theorem reads_bytes :
    Reads bytes (fun content taken => content.length < 2 ^ 31 ∧ taken = Primitive.counted content) where
  accepts content taken position rest form := by
    obtain ⟨short, rfl⟩ := form
    have count : (Int32.ofNat content.length).toInt = content.length := Int32.toInt_ofNat_of_lt short
    have positive : ¬ Int32.ofNat content.length < 0 := by
      rw [Int32.lt_iff_toInt_lt, count]
      simp
    have first := reads_int.accepts (.ofNat content.length) _ position (content ++ rest) rfl
    rw [intOctets_ofNat short] at first
    rw [Primitive.counted, List.append_assoc, bytes_run_of_ok first, if_neg positive, count, Int.toNat_natCast,
      (reads_octets content.length).accepts content content _ rest ⟨rfl, rfl⟩, List.length_append, Nat.add_assoc]
  gives s content s' run := by
    rcases first : int.run s with ⟨fault | length, mid⟩
    · rw [bytes, run_of_error first] at run
      cases run
    · rw [bytes_run_of_ok first] at run
      obtain ⟨_, rfl, consumes⟩ := reads_int.gives s length mid first
      split at run
      · cases run
      · next positive =>
        obtain ⟨_, ⟨size, rfl⟩, consumes'⟩ := (reads_octets _).gives mid content s' run
        obtain ⟨small, same⟩ := ofNat_toNat_of_nonneg positive
        rw [← size] at small same
        rw [← same, intOctets_ofNat small] at consumes
        exact ⟨_, ⟨small, rfl⟩, consumes.trans consumes'⟩
  refuses s fault s' run := by
    rcases first : int.run s with ⟨fault' | length, mid⟩
    · rw [bytes, run_of_error first] at run
      cases run
      exact reads_int.refuses s fault s' first
    · rw [bytes_run_of_ok first] at run
      obtain ⟨_, rfl, consumes⟩ := reads_int.gives s length mid first
      split at run
      · next below =>
        cases run
        exact ⟨⟨_, consumes⟩, .negative length below ⟨[], consumes.rest.symm⟩⟩
      · obtain ⟨⟨taken, consumes'⟩, refuses⟩ := (reads_octets _).refuses mid fault s' run
        exact ⟨⟨_, consumes.trans consumes'⟩, refuses.after consumes⟩

theorem text_run_of_ok {content : Octets} (first : bytes.run s = (.ok content, s')) :
    text.run s = match Text.Utf8.decode content with
      | .ok t => (.ok t, s')
      | .error fault => (.error (.payload (.notText fault)), s') := by
  rw [text, run_of_ok first]
  cases Text.Utf8.decode content <;> rfl

theorem reads_text :
    Reads text (fun t taken => (Text.Utf8.encode t).length < 2 ^ 31 ∧ taken = (Primitive.text t).octets) where
  accepts t taken position rest form := by
    rw [text_run_of_ok (reads_bytes.accepts _ taken position rest form), Text.Utf8.decode_encode]
  gives s t s' run := by
    rcases first : bytes.run s with ⟨fault | content, mid⟩
    · rw [text, run_of_error first] at run
      cases run
    · rw [text_run_of_ok first] at run
      obtain ⟨taken, form, consumes⟩ := reads_bytes.gives s content mid first
      split at run
      · next decoded =>
        cases run
        obtain rfl := Text.Utf8.encode_of_decode decoded
        exact ⟨taken, form, consumes⟩
      · cases run
  refuses s fault s' run := by
    rcases first : bytes.run s with ⟨fault' | content, mid⟩
    · rw [text, run_of_error first] at run
      cases run
      exact reads_bytes.refuses s fault s' first
    · rw [text_run_of_ok first] at run
      obtain ⟨taken, ⟨-, rfl⟩, consumes⟩ := reads_bytes.gives s content mid first
      split at run
      · cases run
      · next invalid =>
        cases run
        exact ⟨⟨_, consumes⟩, .notText content _ invalid ⟨[], consumes.rest.symm⟩⟩

end Source

/-! ## Pieces -/

namespace Written

/-- What is written as a whole, each by each, is written as a whole. -/
theorem all_map_whole {α : Type} {write : α → Written} {octets : α → Octets} {values : List α}
    (wholes : ∀ v ∈ values, write v = .whole (octets v)) : all (values.map write) = .whole (values.flatMap octets) := by
  induction values with
  | nil => rfl
  | cons v values ih =>
    obtain ⟨first, others⟩ := List.forall_mem_cons.1 wholes
    have rest : all (values.map write) = .whole (values.flatMap octets) := ih others
    show (write v).andThen (all (values.map write)) = _
    rw [first, rest]
    rfl

end Written

namespace Primitive

/-- The number of bytes of a text, or of bytes, fits the four bytes before them. -/
def Fits : Primitive → Prop
  | text s => (Text.Utf8.encode s).length < 2 ^ 31
  | bytes content => content.length < 2 ^ 31
  | _ => True

/-- What fits is written as a whole. -/
theorem write_of_fits {p : Primitive} (fits : p.Fits) : p.write = .whole p.octets := by
  cases p with
  | text s => exact if_pos fits
  | bytes content => exact if_pos fits
  | _ => rfl

/-- Of what does not fit nothing is written. -/
theorem write_of_misfit {p : Primitive} (misfit : ¬ p.Fits) :
    ∃ length ≥ 2 ^ 31, p.write = .failed [] (.payload (.excessiveLength length)) := by
  cases p with
  | text s => exact ⟨_, Nat.not_lt.1 misfit, if_neg misfit⟩
  | bytes content => exact ⟨_, Nat.not_lt.1 misfit, if_neg misfit⟩
  | _ => exact absurd trivial misfit

/-- The bytes that a primitive is read off: those that are written for it, but any byte for a truth value. -/
def Form : Primitive → Octets → Prop
  | bool b, taken => ∃ n : UInt8, taken = [n] ∧ b = (n != 0)
  | p, taken => p.Fits ∧ taken = p.octets

theorem form_octets {p : Primitive} (fits : p.Fits) : p.Form p.octets := by
  cases p with
  | bool b => cases b <;> exact ⟨_, rfl, rfl⟩
  | _ => exact ⟨fits, rfl⟩

theorem Form.fits {p : Primitive} {taken : Octets} (form : p.Form taken) : p.Fits := by
  cases p with
  | bool b => trivial
  | _ => exact form.1

theorem Form.octets_eq {p : Primitive} {taken : Octets} (form : p.Form taken) (other : p.type ≠ .bool) :
    taken = p.octets := by
  cases p with
  | bool b => exact absurd rfl other
  | _ => exact form.2

end Primitive

/-- A piece of a payload: a primitive, or bytes whose number is known without being written. -/
inductive Piece where
  | primitive (p : Primitive)
  | raw (bytes : Octets)
  deriving DecidableEq

inductive PieceType where
  | primitive (type : PrimitiveType)
  | raw (count : Nat)
  deriving DecidableEq

namespace Piece

def type : Piece → PieceType
  | primitive p => .primitive p.type
  | raw bytes => .raw bytes.length

def octets : Piece → Octets
  | primitive p => p.octets
  | raw bytes => bytes

def write : Piece → Written
  | primitive p => p.write
  | raw bytes => .whole bytes

def Fits : Piece → Prop
  | primitive p => p.Fits
  | raw _ => True

def Form : Piece → Octets → Prop
  | primitive p, taken => p.Form taken
  | raw bytes, taken => taken = bytes

variable {p : Piece} {taken : Octets}

theorem form_octets (fits : p.Fits) : p.Form p.octets := by
  cases p with
  | primitive p => exact Primitive.form_octets fits
  | raw bytes => rfl

theorem write_of_fits (fits : p.Fits) : p.write = .whole p.octets := by
  cases p with
  | primitive p => exact Primitive.write_of_fits fits
  | raw bytes => rfl

theorem Form.fits (form : p.Form taken) : p.Fits := by
  cases p with
  | primitive p => exact Primitive.Form.fits form
  | raw bytes => trivial

theorem Form.octets_eq (form : p.Form taken) (other : p.type ≠ .primitive .bool) : taken = p.octets := by
  cases p with
  | primitive p => exact Primitive.Form.octets_eq form fun same => other (congrArg PieceType.primitive same)
  | raw bytes => exact form

end Piece

namespace PieceType

def read : PieceType → OnSource Piece
  | primitive type => do return .primitive (← type.read)
  | raw count => do return .raw (← Source.octets count)

end PieceType

theorem PrimitiveType.reads (type : PrimitiveType) :
    Source.Reads type.read (fun p taken => p.type = type ∧ p.Form taken) := by
  cases type
  case' byte => refine (Source.reads_byte.map Primitive.byte).congr ?_
  case' bool => refine (Source.reads_bool.map Primitive.bool).congr ?_
  case' short => refine (Source.reads_short.map Primitive.short).congr ?_
  case' int => refine (Source.reads_int.map Primitive.int).congr ?_
  case' long => refine (Source.reads_long.map Primitive.long).congr ?_
  case' float => refine (Source.reads_float.map Primitive.float).congr ?_
  case' double => refine (Source.reads_double.map Primitive.double).congr ?_
  case' text => refine (Source.reads_text.map Primitive.text).congr ?_
  case' bytes => refine (Source.reads_bytes.map Primitive.bytes).congr ?_
  case' uuid => refine (Source.reads_uuid.map Primitive.uuid).congr ?_
  all_goals
    intro p taken
    cases p <;> simp [Primitive.type, Primitive.Form, Primitive.Fits, Primitive.octets, Data.intOctets]

namespace PieceType

theorem reads (type : PieceType) : Source.Reads type.read (fun p taken => p.type = type ∧ p.Form taken) := by
  cases type with
  | primitive type =>
    refine (type.reads.map Piece.primitive).congr fun p taken => ?_
    cases p <;> simp [Piece.type, Piece.Form]
  | raw count =>
    refine ((Source.reads_octets count).map Piece.raw).congr fun p taken => ?_
    cases p with
    | primitive p => simp [Piece.type]
    | raw bytes =>
      simp only [Piece.type, Piece.Form, Piece.raw.injEq, PieceType.raw.injEq]
      constructor
      · rintro ⟨_, ⟨length, rfl⟩, rfl⟩
        exact ⟨length, rfl⟩
      · rintro ⟨length, rfl⟩
        exact ⟨_, ⟨length, rfl⟩, rfl⟩

/-- Reads pieces one after the other, as long as that goes well. -/
def readAll (types : List PieceType) : OnSource (List Piece) := types.mapM read

/-- Pieces that were written are read again, whatever follows them. -/
theorem readAll_written {pieces : List Piece} (fits : ∀ p ∈ pieces, p.Fits) (position : Nat) (rest : Octets) :
    (readAll (pieces.map Piece.type)).run ⟨position, pieces.flatMap Piece.octets ++ rest⟩ =
      (.ok pieces, ⟨position + (pieces.flatMap Piece.octets).length, rest⟩) := by
  induction pieces generalizing position with
  | nil => rfl
  | cons p pieces ih =>
    obtain ⟨first, others⟩ := List.forall_mem_cons.1 fits
    have read := p.type.reads.accepts p p.octets position (pieces.flatMap Piece.octets ++ rest)
      ⟨rfl, Piece.form_octets first⟩
    have more := ih others (position + p.octets.length)
    rw [readAll] at more ⊢
    rw [List.map_cons, List.mapM_cons, List.flatMap_cons, List.append_assoc, Source.run_of_ok read,
      Source.run_of_ok more, List.length_append, Nat.add_assoc]
    rfl

end PieceType

/-! ## Readings -/

/-- A reading of a piece: where it began, what came of it, and where it ended. -/
structure Reading where
  type : PieceType
  before : Source
  result : Except Fault Piece
  after : Source

/-- Readings one after the other, whatever comes of them. -/
def readings : List PieceType → Source → List Reading
  | [], _ => []
  | type :: types, s =>
    let (result, after) := type.read.run s
    ⟨type, s, result, after⟩ :: readings types after

/-- What was read and what remains make the whole. -/
def Source.Within (s : Source) (bytes : Octets) : Prop :=
  bytes.drop s.position = s.rest ∧ s.position + s.remaining = bytes.length

/-- What is so of a reading of some bytes. -/
structure Reading.Faithful (r : Reading) (bytes : Octets) : Prop where
  began : r.before.Within bytes
  /-- Also after a reading that was refused. -/
  ended : r.after.Within bytes
  refused : ∀ fault, r.result = .error fault → r.before.Refuses r.after fault
  given : ∀ p, r.result = .ok p → p.type = r.type ∧ p.Fits
  /-- What was read is what is written, but for truth values. -/
  restored : ∀ p, r.result = .ok p → r.type ≠ .primitive .bool →
    p.write = .whole p.octets ∧ r.before.Consumes r.after p.octets

theorem Source.Within.consumes {s s' : Source} {bytes taken : Octets} (within : s.Within bytes)
    (consumes : s.Consumes s' taken) : s'.Within bytes := by
  obtain ⟨rest, total⟩ := within
  obtain ⟨rest', position⟩ := consumes
  rw [Source.remaining, rest', List.length_append] at total
  constructor
  · rw [position, ← List.drop_drop, rest, rest', List.drop_left]
  · rw [position, Source.remaining, ← total, Nat.add_assoc]

theorem Source.Reads.within {α : Type} {read : OnSource α} {form : α → Octets → Prop} (reads : Source.Reads read form)
    {s s' : Source} {result : Except Fault α} {bytes : Octets} (within : s.Within bytes)
    (run : read.run s = (result, s')) : s'.Within bytes := by
  cases result with
  | ok v =>
    obtain ⟨taken, -, consumes⟩ := reads.gives s v s' run
    exact within.consumes consumes
  | error fault =>
    obtain ⟨⟨taken, consumes⟩, -⟩ := reads.refuses s fault s' run
    exact within.consumes consumes

/-- One reading. -/
theorem faithful_reading {type : PieceType} {s s' : Source} {result : Except Fault Piece} {bytes : Octets}
    (within : s.Within bytes) (run : type.read.run s = (result, s')) :
    (Reading.mk type s result s').Faithful bytes where
  began := within
  ended := type.reads.within within run
  refused fault refused := by
    obtain rfl : result = .error fault := refused
    exact (type.reads.refuses s fault s' run).2
  given p given := by
    obtain rfl : result = .ok p := given
    obtain ⟨taken, ⟨same, form⟩, -⟩ := type.reads.gives s p s' run
    exact ⟨same, form.fits⟩
  restored p given other := by
    obtain rfl : result = .ok p := given
    obtain ⟨taken, ⟨same, form⟩, consumes⟩ := type.reads.gives s p s' run
    rw [← same] at other
    rw [form.octets_eq other] at consumes
    exact ⟨Piece.write_of_fits form.fits, consumes⟩

theorem faithful_readings {types : List PieceType} {s : Source} {bytes : Octets} (within : s.Within bytes) :
    ∀ r ∈ readings types s, r.Faithful bytes := by
  induction types generalizing s with
  | nil => simp [readings]
  | cons type types ih =>
    rcases run : type.read.run s with ⟨result, after⟩
    have first := faithful_reading within run
    rw [readings, run]
    exact List.forall_mem_cons.2 ⟨first, ih first.ended⟩

/-- Whatever pieces are written one after the other, they are read again, and nothing is left. Whatever is read off
    whatever bytes, the position and what remains go together; a reading is refused for a reason that lies in the bytes;
    and what a reading gives, unless it is a truth value, is written as the bytes that it was read off. -/
theorem payloads_round_trip (pieces : List Piece) (fits : ∀ p ∈ pieces, p.Fits) (bytes : Octets)
    (types : List PieceType) :
    Written.all (pieces.map Piece.write) = .whole (pieces.flatMap Piece.octets) ∧
      (PieceType.readAll (pieces.map Piece.type)).run (.ofOctets (pieces.flatMap Piece.octets)) =
        (.ok pieces, ⟨(pieces.flatMap Piece.octets).length, []⟩) ∧
      ∀ r ∈ readings types (.ofOctets bytes), r.Faithful bytes := by
  refine ⟨Written.all_map_whole fun p mem => Piece.write_of_fits (fits p mem), ?_, ?_⟩
  · have read := PieceType.readAll_written fits 0 []
    rwa [List.append_nil, Nat.zero_add] at read
  · exact faithful_readings ⟨rfl, Nat.zero_add _⟩

/-- Pieces with a length and without, and bytes that refuse a text, a number and a length, one after the other. -/
theorem payloads_round_trip_refused :
    (∀ p ∈ [Piece.primitive (.text "é"), .primitive (.bool true), .raw [1, 2]], p.Fits) ∧
      Written.all [Primitive.write (.text "é"), Primitive.write (.bool true), .whole [1, 2]] =
        .whole [0, 0, 0, 2, 0xC3, 0xA9, 1, 1, 2] ∧
      (PieceType.readAll [.primitive .text, .primitive .bool, .raw 2]).run
          (.ofOctets [0, 0, 0, 2, 0xC3, 0xA9, 1, 1, 2]) =
        (.ok [.primitive (.text "é"), .primitive (.bool true), .raw [1, 2]], ⟨9, []⟩) ∧
      ∀ r ∈ readings [.primitive .text, .primitive .uuid, .primitive .bytes, .primitive .bool]
          (.ofOctets [0, 0, 0, 1, 0xFF, 0x80, 0, 0, 0, 7]),
        r.Faithful [0, 0, 0, 1, 0xFF, 0x80, 0, 0, 0, 7] := by
  have fits : ∀ p ∈ [Piece.primitive (.text "é"), .primitive (.bool true), .raw [1, 2]], p.Fits := by
    simp only [List.forall_mem_cons]
    exact ⟨show (Text.Utf8.encode "é").length < 2 ^ 31 by decide, trivial, trivial, List.forall_mem_nil _⟩
  exact ⟨fits, payloads_round_trip _ fits _ _⟩

example :
    (readings [.primitive .text, .primitive .uuid, .primitive .bytes, .primitive .bool]
      (.ofOctets [0, 0, 0, 1, 0xFF, 0x80, 0, 0, 0, 7])).map Reading.result =
      [.error (.payload (.notText (.invalid 1 0))), .error (.payload (.insufficient 8 5)),
        .error (.payload (.negativeLength (-2147483648))), .ok (.primitive (.bool true))] := by
  decide

end Datagrid
