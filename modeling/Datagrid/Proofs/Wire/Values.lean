import Datagrid.Proofs.Wire.Headers
import Datagrid.Proofs.Wire.Units
import Datagrid.Wire.Shape
import Mathlib.Data.List.Forall2

/-!
# Values: what is written reads back

A reader takes a value off the frames that were written for it, whatever frames follow, and
stops right after them. The frames may have travelled: the last one of a message comes marked
as such, and a reader does not mind. Readers that are put together take what their parts take,
so that a codec made of codecs reads back what it writes, however deep it is nested. Only
something absent that may again be absent could not be told from an absent whole.
-/
namespace Datagrid

variable {α β : Type}

/-! ## Fields -/

namespace Field

variable (field : Field α) [Lawful field]

theorem length_flatMap_encode (items : List α) :
    (items.flatMap field.encode).length = items.length * field.width := by
  induction items with
  | nil => simp
  | cons a items ih =>
    rw [List.flatMap_cons, List.length_append, ih, Lawful.length_encode, List.length_cons, Nat.succ_mul, Nat.add_comm]

/-- Fields side by side are taken apart again. -/
theorem pieces_flatMap_encode (items : List α) :
    Cursor.pieces field.width items.length (items.flatMap field.encode) = items.map field.encode := by
  induction items with
  | nil => rfl
  | cons a items ih =>
    have width : (field.encode a).length = field.width := Lawful.length_encode a
    rw [List.length_cons, List.flatMap_cons, Cursor.pieces, List.take_left' width, List.drop_left' width, ih,
      List.map_cons]

end Field

theorem Text.Utf8.decode_encode (text : String) : decode (encode text) = .ok text := by
  have read : String.fromUTF8? text.toByteArray = some text := by
    rw [String.fromUTF8?, dif_pos text.isValidUTF8]
    rfl
  simp only [decode, encode, Array.toArray_toList, read]

/-! ## Frames that arrive -/

namespace Frame

variable (content : Octets)

@[simp] theorem isFinal_ofContent : (ofContent content).isFinal = false :=
  (by decide : Flags.plain.has .isFinal = false)

@[simp] theorem isNull_ofContent : (ofContent content).isNull = false :=
  (by decide : Flags.plain.has .isNull = false)

@[simp] theorem isBegin_ofContent : (ofContent content).isBegin = false :=
  (by decide : Flags.plain.has .beginStructure = false)

@[simp] theorem isEnd_ofContent : (ofContent content).isEnd = false :=
  (by decide : Flags.plain.has .endStructure = false)

@[simp] theorem isStructural_ofContent : (ofContent content).isStructural = false := by
  simp [isStructural]

end Frame

/-- A frame arrives as it was sent, but it may be marked as the last one. -/
def Frame.Arrives (f g : Frame) : Prop := g = f ∨ g = f.final

/-- Frames arrive one by one, in their order. -/
abbrev Arrive (sent arrived : List Frame) : Prop := List.Forall₂ Frame.Arrives sent arrived

namespace Frame.Arrives

variable {f g : Frame}

theorem content (arrives : f.Arrives g) : g.content = f.content := by
  rcases arrives with rfl | rfl <;> rfl

theorem isNull (arrives : f.Arrives g) : g.isNull = f.isNull := by
  rcases arrives with rfl | rfl <;> simp

theorem isBegin (arrives : f.Arrives g) : g.isBegin = f.isBegin := by
  rcases arrives with rfl | rfl <;> simp

theorem isEnd (arrives : f.Arrives g) : g.isEnd = f.isEnd := by
  rcases arrives with rfl | rfl <;> simp

theorem isEvent (arrives : f.Arrives g) : g.isEvent = f.isEvent := by
  rcases arrives with rfl | rfl <;> simp

theorem isStructural (arrives : f.Arrives g) : g.isStructural = f.isStructural := by
  simp only [Frame.isStructural, arrives.isNull, arrives.isBegin, arrives.isEnd]

end Frame.Arrives

theorem Arrive.refl (frames : List Frame) : Arrive frames frames :=
  List.forall₂_same.mpr fun _ _ => .inl rfl

/-- What is sent of a message is its frames as they arrive. -/
theorem Arrive.sentFrames (frames : List Frame) : Arrive frames (Message.sentFrames frames) := by
  induction frames with
  | nil => exact .nil
  | cons f frames ih =>
    cases frames with
    | nil => exact .cons (.inr rfl) .nil
    | cons g frames => exact .cons (.inl rfl) ih

theorem Arrive.of_append {first second arrived : List Frame} (arrive : Arrive (first ++ second) arrived) :
    ∃ front back, arrived = front ++ back ∧ Arrive first front ∧ Arrive second back := by
  refine ⟨arrived.take first.length, arrived.drop first.length, (List.take_append_drop ..).symm, ?_, ?_⟩
  · simpa using List.forall₂_take first.length arrive
  · simpa using List.forall₂_drop first.length arrive

/-! ## Readers -/

/-- A program goes on with what has been found, unless that has failed. -/
theorem run_bind {σ : Type} (body : ExceptT Fault (StateM σ) α) (next : α → ExceptT Fault (StateM σ) β) (s : σ) :
    (body >>= next).run s =
      match body.run s with
      | (.ok a, s') => (next a).run s'
      | (.error fault, s') => (.error fault, s') := by
  unfold ExceptT.run
  simp only [bind, ExceptT.bind, ExceptT.mk, StateT.bind, ExceptT.bindCont]
  cases body s with
  | mk result s' => cases result <;> rfl

namespace Cursor

@[simp] theorem run_pure (a : α) (c : Cursor) : (pure a : OnCursor α).run c = (.ok a, c) := rfl

@[simp] theorem run_get (c : Cursor) : (get : OnCursor Cursor).run c = (.ok c, c) := rfl

@[simp] theorem run_take (operation : String) (position : Nat) (f : Frame) (rest : List Frame) :
    take.run ⟨operation, position, f :: rest⟩ = (.ok f, ⟨operation, position + 1, rest⟩) := rfl

/-- A reader takes a value off frames that arrive: whatever follows them, it reads the value and
    stops after the last of them. -/
def Takes (body : OnCursor α) (frames : List Frame) (a : α) : Prop :=
  ∀ ⦃arrived⦄, Arrive frames arrived → ∀ operation position rest,
    body.run ⟨operation, position, arrived ++ rest⟩ = (.ok a, ⟨operation, position + arrived.length, rest⟩)

/-- A cursor before one of the frames. -/
def reached (operation : String) (frames : List Frame) (position : Nat) : Cursor :=
  ⟨operation, position, frames.drop position⟩

variable {body : OnCursor α} {next : α → OnCursor β} {frames later : List Frame} {f : Frame} {a : α} {b : β}

theorem Takes.pure (a : α) : Takes (Pure.pure a : OnCursor α) [] a := by
  rintro _ ⟨⟩ operation position rest
  rfl

/-- One reader after the other takes the frames of both. -/
theorem Takes.bind (first : Takes body frames a) (second : Takes (next a) later b) :
    Takes (body >>= next) (frames ++ later) b := by
  intro arrived arrive operation position rest
  obtain ⟨front, back, rfl, arriveFront, arriveBack⟩ := arrive.of_append
  rw [run_bind, List.append_assoc, first arriveFront]
  simp only [second arriveBack, List.length_append, Nat.add_assoc]

/-- What has been read may be gone on with where no frames are left to take. -/
theorem Takes.last (first : Takes body frames a) (second : Takes (next a) [] b) :
    Takes (body >>= next) frames b := by
  have whole := first.bind second
  rwa [List.append_nil] at whole

/-- What has been read may be put into something else. -/
theorem Takes.map (taken : Takes body frames a) (g : α → β) : Takes (do return g (← body)) frames (g a) :=
  taken.last (.pure (g a))

/-- A reader of a frame goes on with the frame as it arrives. -/
theorem Takes.take {next : Frame → OnCursor β} (onward : ∀ g, f.Arrives g → Takes (next g) frames b) :
    Takes (Cursor.take >>= next) (f :: frames) b := by
  rintro _ (_ | ⟨arrives, arrive⟩) operation position rest
  rw [run_bind, List.cons_append, run_take]
  simp only [onward _ arrives arrive, List.length_cons, Nat.add_comm 1, Nat.add_assoc]

/-- A reader that looks at the cursor finds all its frames there. -/
theorem Takes.get {next : Cursor → OnCursor β}
    (onward : ∀ c : Cursor, frames.length ≤ c.rest.length → Takes (next c) frames b) :
    Takes (MonadState.get >>= next) frames b := by
  intro arrived arrive operation position rest
  rw [run_bind, run_get]
  refine onward _ ?_ arrive operation position rest
  rw [arrive.length_eq, List.length_append]
  exact Nat.le_add_right ..

/-- A reader that looks at what comes next finds its first frame as it arrives. -/
theorem Takes.peek {next : Cursor → OnCursor β}
    (onward : ∀ (c : Cursor) (g : Frame), c.peek = some g → f.Arrives g → Takes (next c) (f :: frames) b) :
    Takes (MonadState.get >>= next) (f :: frames) b := by
  rintro _ (_ | ⟨arrives, arrive⟩) operation position rest
  rw [run_bind, run_get]
  exact onward _ _ rfl arrives (.cons arrives arrive) operation position rest

theorem Takes.skip : Takes skip [f] () := .take fun _ _ => .pure ()

theorem Takes.settle {result : Except Fault α} (found : result = .ok a) : Takes (settle result) [] a := by
  rw [found]
  exact .pure a

theorem Takes.closeStructure : Takes closeStructure [.closeStructure] () := by
  rintro _ (_ | ⟨arrives, _ | _⟩) operation position rest
  have ends : Frame.isEnd _ = true := arrives.isEnd.trans (by decide)
  simp [Cursor.closeStructure, ExceptT.run, skipStructures, ends]

/-- A frame that holds a value is taken for its content. -/
theorem Takes.takeValue {expected : FrameValue} {next : Frame → OnCursor β} (holds : f.isStructural = false)
    (onward : ∀ g, g.content = f.content → Takes (next g) frames b) :
    Takes (takeValue expected >>= next) (f :: frames) b := by
  simp only [Cursor.takeValue, bind_assoc]
  refine .take fun g arrives => ?_
  simp only [arrives.isStructural, holds, Bool.false_eq_true, if_false, pure_bind]
  exact onward g arrives.content

/-- What is taken somewhere in a message is read from where it begins up to where it ends. -/
theorem Takes.run_reached {before after arrived : List Frame} (taken : Takes body frames a)
    (arrive : Arrive (before ++ (frames ++ after)) arrived) (operation : String) :
    body.run (reached operation arrived before.length) =
      (.ok a, reached operation arrived (before.length + frames.length)) := by
  obtain ⟨front, rest, rfl, arriveBefore, arriveRest⟩ := arrive.of_append
  obtain ⟨middle, back, rfl, arriveFrames, -⟩ := arriveRest.of_append
  have read := taken arriveFrames operation front.length back
  rw [arriveBefore.length_eq, arriveFrames.length_eq]
  simp only [reached, List.drop_left, read, List.drop_length_add_append]

end Cursor

/-! ## Codecs -/

/-- A codec that reads back what it writes. What it writes is not taken for the end of a list, and
    marks no frame as the last one of the message. -/
structure Codec.Faithful (codec : Codec α) : Prop where
  reads (a : α) : Cursor.Takes codec.read (codec.frames a) a
  opens (a : α) : ∃ f rest, codec.frames a = f :: rest ∧ f.isEnd = false
  unmarked (a : α) : ∀ f ∈ codec.frames a, f.isFinal = false

/-- A codec that writes nothing that could be taken for an absent value. -/
def Codec.Present (codec : Codec α) : Prop := ∀ a, ∀ f ∈ (codec.frames a).head?, f.isNull = false

namespace Codec

open Cursor

/-- A codec whose values take a frame each. -/
theorem faithful_of_content {codec : Codec α} {content : α → Octets}
    (frames : ∀ a, codec.frames a = [.ofContent (content a)])
    (reads : ∀ a, Takes codec.read [.ofContent (content a)] a) : codec.Faithful where
  reads a := frames a ▸ reads a
  opens a := ⟨_, _, frames a, Frame.isEnd_ofContent _⟩
  unmarked a := by simp [frames a]

theorem present_of_content {codec : Codec α} {content : α → Octets}
    (frames : ∀ a, codec.frames a = [.ofContent (content a)]) : codec.Present := fun a => by
  simp [frames a]

theorem faithful_text : text.Faithful :=
  faithful_of_content (fun _ => rfl) fun s => .takeValue (Frame.isStructural_ofContent _) fun g content => by
    rw [content, Frame.ofContent, Text.Utf8.decode_encode]
    exact .pure s

theorem faithful_bytes : bytes.Faithful :=
  faithful_of_content (fun _ => rfl) fun bytes => .takeValue (Frame.isStructural_ofContent _) fun g content => by
    rw [content]
    exact .pure bytes

theorem faithful_data : data.Faithful :=
  faithful_of_content (fun _ => rfl) fun d => .takeValue (Frame.isStructural_ofContent _) fun g content => by
    rw [content, Frame.ofContent, Data.ofOctets, dif_pos d.complete]
    exact .pure d

theorem takes_packed (field : Field α) [Field.Lawful field] (items : List α) :
    Takes (takePacked field) ((packed field).frames items) items := by
  refine .take fun g arrives => ?_
  have even : (items.flatMap field.encode).length % field.width = 0 := by
    rw [Field.length_flatMap_encode, Nat.mul_mod_left]
  have count : (items.flatMap field.encode).length / field.width = items.length := by
    rw [Field.length_flatMap_encode, Nat.mul_div_cancel _ Field.Lawful.positive]
  have decoded : (items.map field.encode).map field.decode = items := by
    rw [List.map_map]
    exact List.map_id'' (Field.Lawful.decode_encode) items
  simp only [arrives.content, Frame.ofContent, even, bne_self_eq_false, Bool.false_eq_true, if_false, count,
    Field.pieces_flatMap_encode, decoded]
  exact .pure items

theorem faithful_packed (field : Field α) [Field.Lawful field] : (packed field).Faithful :=
  faithful_of_content (fun _ => rfl) (takes_packed field)

theorem faithful_uuids : uuids.Faithful := by
  let content : List Uuid → Octets := fun items => (items.map some).flatMap Field.guid.encode
  have frames : ∀ items, uuids.frames items = [.ofContent (content items)] := fun _ => rfl
  refine faithful_of_content frames fun items => ?_
  have all : (items.map some).mapM id = some items := by
    rw [List.mapM_map]
    exact (List.mapM_pure (m := Option) (f := id)).trans (by simp)
  have found : Takes (takePacked .guid) [.ofContent (content items)] (items.map some) :=
    takes_packed .guid (items.map some)
  refine found.last ?_
  rw [all]
  exact .pure items

/-- What is not taken for an absent value may be absent. -/
theorem takes_nullable {codec : Codec α} {frames : List Frame} {a : α} (taken : Takes codec.read frames a)
    (present : ∃ f rest, frames = f :: rest ∧ f.isNull = false) : Takes (nullable codec).read frames (some a) := by
  obtain ⟨f, rest, rfl, present⟩ := present
  refine .peek fun c g peek arrives => ?_
  have value : ¬ c.peek.any Frame.isNull = true := by
    rw [peek, Option.any_some, arrives.isNull, present]
    simp
  rw [if_neg value]
  exact taken.map some

/-- The frame of an absent value is taken for one. -/
theorem takes_absent (codec : Codec α) : Takes (nullable codec).read [.absent] none := by
  refine .peek fun c g peek arrives => ?_
  have null : c.peek.any Frame.isNull = true := by
    rw [peek, Option.any_some, arrives.isNull]
    decide
  rw [if_pos null]
  exact .bind .skip (.pure none)

/-- What can be told from an absent value may be absent. -/
theorem Faithful.nullable {codec : Codec α} (faithful : codec.Faithful) (present : codec.Present) :
    (nullable codec).Faithful where
  reads
    | none => takes_absent codec
    | some a => by
      obtain ⟨f, rest, frames, -⟩ := faithful.opens a
      exact takes_nullable (faithful.reads a) ⟨f, rest, frames, present a f (by rw [frames]; rfl)⟩
  opens
    | none => ⟨_, _, rfl, by decide⟩
    | some a => faithful.opens a
  unmarked
    | none => by simp [Codec.nullable]; decide
    | some a => faithful.unmarked a

/-- What may be absent twice over cannot be read back: one frame would stand for either. -/
theorem not_faithful_nullable_nullable (codec : Codec α) : ¬ (Codec.nullable (Codec.nullable codec)).Faithful := by
  intro faithful
  have whole := faithful.reads none (.refl [.absent]) "" 0 []
  have inner := faithful.reads (some none) (.refl [.absent]) "" 0 []
  cases whole.symm.trans inner

/-- A reader of items takes frames for one of them, and they do not begin with the end of the list. -/
structure TakesItem (body : OnCursor α) (a : α) (frames : List Frame) : Prop where
  taken : Takes body frames a
  opens : ∃ f rest, frames = f :: rest ∧ f.isEnd = false

theorem Faithful.takesItem {codec : Codec α} (faithful : codec.Faithful) (a : α) :
    TakesItem codec.read a (codec.frames a) :=
  ⟨faithful.reads a, faithful.opens a⟩

/-- The items of a list are read up to the end frame of the list, and what comes then goes on
    from there. -/
theorem takes_takeItems {item : OnCursor α} {f : Frame} (ends : f.isEnd = true) {frames : List Frame} {b : β}
    {items : List α} {each : List (List Frame)} (taken : List.Forall₂ (TakesItem item) items each)
    {next : List α → OnCursor β} {fuel : Nat} (enough : items.length < fuel)
    (onward : Takes (next items) (f :: frames) b) :
    Takes (takeItems item fuel >>= next) (each.flatten ++ f :: frames) b := by
  induction taken generalizing fuel next with
  | nil =>
    obtain ⟨fuel, rfl⟩ := Nat.exists_eq_add_one_of_ne_zero (Nat.ne_of_gt enough)
    simp only [takeItems, bind_assoc]
    refine .peek fun c g peek arrives => ?_
    have ended : c.nextIsEnd = true := by rw [nextIsEnd, peek, Option.any_some, arrives.isEnd, ends]
    rw [if_pos ended]
    exact onward
  | @cons a _ items each takesItem _ ih =>
    obtain ⟨fuel, rfl⟩ := Nat.exists_eq_add_one_of_ne_zero (Nat.ne_of_gt (Nat.zero_lt_of_lt enough))
    obtain ⟨taken, first, rest, rfl, goesOn⟩ := takesItem
    let goOn (first : α) : OnCursor β := takeItems item fuel >>= fun others => next (first :: others)
    have others : Takes (goOn a) (each.flatten ++ f :: frames) b := ih (Nat.lt_of_succ_lt_succ enough) onward
    have whole : Takes (item >>= goOn) (first :: rest ++ _) b := taken.bind others
    simp only [takeItems, bind_assoc]
    rw [List.flatten_cons, List.append_assoc]
    rw [List.cons_append] at whole ⊢
    -- The first frame of the item decides what the reader does.
    refine .peek fun c g peek arrives => ?_
    have more : ¬ c.nextIsEnd = true := by simp [nextIsEnd, peek, arrives.isEnd, goesOn]
    have some : ¬ (!c.hasNext) = true := by
      cases left : c.rest <;> simp_all [hasNext, Cursor.peek]
    rw [if_neg more, if_neg some]
    simpa only [bind_assoc, pure_bind] using whole

/-- There are no more items than frames of them. -/
theorem length_le_of_takesItem {item : OnCursor α} {items : List α} {each : List (List Frame)}
    (taken : List.Forall₂ (TakesItem item) items each) : items.length ≤ each.flatten.length := by
  induction taken with
  | nil => simp
  | cons takesItem _ ih =>
    obtain ⟨-, first, rest, rfl, -⟩ := takesItem
    simp only [List.flatten_cons, List.length_append, List.length_cons]
    omega

/-- Whatever takes its items is a list of them. -/
theorem takes_list {codec : Codec α} {items : List α} {each : List (List Frame)}
    (taken : List.Forall₂ (TakesItem codec.read) items each) :
    Takes (list codec).read (.openStructure :: (each.flatten ++ [.closeStructure])) items := by
  have closes : Takes (do skip; return items) [Frame.closeStructure] items := .bind .skip (.pure items)
  refine .take fun f arrives => ?_
  have begins : ¬ (!f.isBegin) = true := by
    rw [arrives.isBegin]
    decide
  rw [if_neg begins]
  refine .get fun c there => takes_takeItems (by decide) taken ?_ closes
  have few := length_le_of_takesItem taken
  rw [List.length_append] at there
  omega

theorem Faithful.list {codec : Codec α} (faithful : codec.Faithful) : (list codec).Faithful where
  reads items := by
    have each : List.Forall₂ (TakesItem codec.read) items (items.map codec.frames) := by
      rw [List.forall₂_map_right_iff]
      exact List.forall₂_same.mpr fun a _ => faithful.takesItem a
    have whole := takes_list each
    rwa [← List.flatMap_def, ← List.cons_append] at whole
  opens items := ⟨_, _, rfl, by decide⟩
  unmarked items f member := by
    simp only [Codec.list, List.cons_append, List.mem_cons, List.mem_append, List.mem_flatMap, List.not_mem_nil,
      or_false] at member
    rcases member with rfl | ⟨a, -, inside⟩ | rfl
    · decide
    · exact faithful.unmarked a f inside
    · decide

theorem present_list (codec : Codec α) : (list codec).Present := by
  intro items f first
  simp only [Codec.list, List.cons_append, List.head?_cons, Option.mem_some_iff] at first
  subst first
  decide

/-- An address is taken off its frames, whatever else there is in the fixed one and up to the end frame. -/
theorem takes_address (a : Address) (extra : Octets) {closing : List Frame}
    (closes : Takes Cursor.closeStructure closing ()) :
    Takes address.read (.openStructure :: .ofContent (Field.int.encode a.port ++ extra) ::
      .ofContent (Text.Utf8.encode a.host) :: closing) a := by
  refine (Takes.skip : Takes skip [.openStructure] ()).bind ?_
  refine .take fun f arrives => ?_
  have here : f.content.drop portOffset = Field.int.encode a.port ++ extra := by
    rw [arrives.content]
    simp [Frame.ofContent, portOffset]
  refine (Takes.settle (Field.read_of_drop here (by decide))).bind ?_
  refine .bind (faithful_text.reads a.host) ?_
  exact closes.last (.pure a)

theorem faithful_address : address.Faithful where
  reads a := by
    have whole := takes_address a [] .closeStructure
    rwa [List.append_nil] at whole
  opens a := ⟨_, _, rfl, by decide⟩
  unmarked a f member := by
    simp only [address, List.mem_cons, List.not_mem_nil, or_false] at member
    rcases member with rfl | rfl | rfl | rfl
    · decide
    · exact Frame.isFinal_ofContent _
    · exact Frame.isFinal_ofContent _
    · decide

theorem present_address : address.Present := by
  intro a f first
  simp only [address, List.head?_cons, Option.mem_some_iff] at first
  subst first
  decide

end Codec

/-! ## Shapes -/

namespace Shape

/-- A shape in which nothing that may be absent may again be absent. -/
def isProper : Shape → Bool
  | nullable (nullable _) => false
  | nullable value => value.isProper
  | list item => item.isProper
  | _ => true

/-- Whatever may not be absent is told from an absent value. -/
theorem present_codec {shape : Shape} (solid : ∀ value, shape ≠ nullable value) : shape.codec.Present := by
  cases shape with
  | nullable value => exact absurd rfl (solid value)
  | list item => exact Codec.present_list item.codec
  | address => exact Codec.present_address
  | text | bytes | data | ints | longs | uuids => exact Codec.present_of_content fun _ => rfl

theorem isProper_of_nullable {value : Shape} (proper : (nullable value).isProper = true) :
    value.isProper = true ∧ ∀ inner, value ≠ nullable inner := by
  cases value <;> simp_all [isProper]

/-- What is written of a value of a proper shape reads back, by induction on the shape. -/
theorem faithful_codec {shape : Shape} (proper : shape.isProper = true) : shape.codec.Faithful := by
  induction shape with
  | text => exact Codec.faithful_text
  | bytes => exact Codec.faithful_bytes
  | data => exact Codec.faithful_data
  | ints => exact Codec.faithful_packed .int
  | longs => exact Codec.faithful_packed .long
  | uuids => exact Codec.faithful_uuids
  | address => exact Codec.faithful_address
  | nullable value ih =>
    obtain ⟨inner, solid⟩ := isProper_of_nullable proper
    exact (ih inner).nullable (present_codec solid)
  | list item ih => exact (ih proper).list

end Shape

/-! ## Values in a message -/

/-- Frames are put behind those that an open message has. -/
theorem Message.run_appendAll {m : Message} (unsealed : m.isSealed = false) (frames : List Frame) :
    (appendAll frames).run m = (.ok (), { m with frames := m.frames ++ frames }) := by
  induction frames generalizing m with
  | nil => simp [appendAll]; rfl
  | cons f frames ih =>
    have appended : (append f).run m = (.ok (), { m with frames := m.frames ++ [f] }) := by
      simp [append, ExceptT.run, unsealed]
    rw [appendAll, run_bind, appended]
    simpa using ih (m := { m with frames := m.frames ++ [f] }) unsealed

/-- A value with its shape. -/
structure ShapedValue where
  shape : Shape
  value : shape.Value

namespace ShapedValue

def frames (v : ShapedValue) : List Frame := v.shape.codec.frames v.value

/-- Writes values one after the other. -/
def putAll : List ShapedValue → OnMessage Unit
  | [] => return
  | v :: rest => do
    Message.put v.shape.codec v.value
    putAll rest

/-- Reads values of given shapes one after the other. -/
def readAll : List Shape → OnCursor (List ShapedValue)
  | [] => return []
  | shape :: rest => do
    let value ← shape.codec.read
    let others ← readAll rest
    return ⟨shape, value⟩ :: others

theorem takes_readAll {values : List ShapedValue} (proper : ∀ v ∈ values, v.shape.isProper = true) :
    Cursor.Takes (readAll (values.map shape)) (values.flatMap frames) values := by
  induction values with
  | nil => exact .pure []
  | cons v values ih =>
    have faithful := Shape.faithful_codec (proper v (by simp))
    exact (faithful.reads v.value).bind ((ih fun v member => proper v (by simp [member])).map fun others => v :: others)

theorem run_putAll {m : Message} (unsealed : m.isSealed = false) (values : List ShapedValue) :
    (putAll values).run m = (.ok (), { m with frames := m.frames ++ values.flatMap frames }) := by
  induction values generalizing m with
  | nil => simp [putAll]; rfl
  | cons v values ih =>
    rw [putAll, run_bind, Message.put, Message.run_appendAll unsealed]
    simpa [frames] using ih (m := { m with frames := m.frames ++ v.frames }) unsealed

/-- Values of any proper shapes are written to an open message one after the other, behind the
    frames it has, and further frames follow them. Whether the message then travels or not, each
    value is read where it begins, the cursor stops right before what follows it, and so all of
    them are read one after the other. -/
theorem written_values_read_back {values : List ShapedValue} (proper : ∀ v ∈ values, v.shape.isProper = true)
    {m : Message} (unsealed : m.isSealed = false) (after : List Frame) (operation : String) :
    ∃ written, m.build (putAll values) = .ok written ∧ written.frames = m.frames ++ values.flatMap frames ∧
      ∀ arrived, arrived = written.frames ++ after ∨ arrived = Message.sentFrames (written.frames ++ after) →
        (∀ earlier v later, values = earlier ++ v :: later →
          let place := (m.frames ++ earlier.flatMap frames).length
          v.shape.codec.read.run (.reached operation arrived place) =
            (.ok v.value, .reached operation arrived (place + v.frames.length))) ∧
        (readAll (values.map shape)).run (.reached operation arrived m.frames.length) =
          (.ok values, .reached operation arrived written.frames.length) := by
  refine ⟨{ m with frames := m.frames ++ values.flatMap frames }, ?_, rfl, fun arrived travels => ?_⟩
  · rw [Message.build, run_putAll unsealed]
  have arrive : Arrive (m.frames ++ values.flatMap frames ++ after) arrived := by
    rcases travels with rfl | rfl
    · exact .refl _
    · exact .sentFrames _
  constructor
  · rintro earlier v later rfl place
    have faithful := Shape.faithful_codec (proper v (by simp))
    have split : Arrive (m.frames ++ earlier.flatMap frames ++ (v.frames ++ (later.flatMap frames ++ after)))
        arrived := by
      simpa using arrive
    exact (faithful.reads v.value).run_reached split operation
  · rw [List.append_assoc] at arrive
    rw [(takes_readAll proper).run_reached arrive operation, List.length_append]

/-- A list of lists that may be absent, an absent address and an empty text are read back. -/
theorem nested_values_read_back :
    let values : List ShapedValue :=
      [⟨.list (.nullable (.list .text)), [some ["", "a"], none, some []]⟩, ⟨.nullable .address, none⟩, ⟨.text, ""⟩,
        ⟨.uuids, []⟩]
    let m : Message := { Message.empty with frames := [.zeroed 16 .unfragmented] }
    m.isSealed = false ∧ (∀ v ∈ values, v.shape.isProper = true) ∧
      ∃ written, m.build (putAll values) = .ok written ∧ written.frames.length = 13 ∧
        (readAll (values.map shape)).run (.reached "" (Message.sentFrames written.frames) 1) =
          (.ok values, .reached "" (Message.sentFrames written.frames) 13) := by
  intro values m
  have proper : ∀ v ∈ values, v.shape.isProper = true := by decide
  obtain ⟨written, built, frames, reads⟩ := written_values_read_back proper (m := m) rfl [] ""
  have size : written.frames.length = 13 := by rw [frames]; rfl
  have read := (reads _ (.inr rfl)).2
  rw [List.append_nil, size] at read
  exact ⟨rfl, proper, written, built, size, read⟩

end ShapedValue
end Datagrid
