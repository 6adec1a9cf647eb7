import Datagrid.Proofs.Wire.Values

/-!
# What the frames of a value are taken for

A reader takes every frame for something: for a value, for the opening or the end of a structure,
for the mark of an absent value. Readers of texts, byte arrays and serialized values make sure
that the frame marks no structure, and readers of lists that theirs opens one. Packed lists and
addresses are read without such a look: the flags of a packed frame, and of the first two frames
of an address, are never asked for, so that even the mark of an absent value is taken for an empty
list of numbers.
-/
namespace Datagrid

variable {α β : Type}

/-! ## Parts -/

/-- What a reader takes a frame for. -/
inductive Role where
  /-- A text, a byte array or a serialized value. -/
  | value
  /-- Numbers or identifiers side by side. -/
  | packed
  /-- The fields of an address that have a fixed size. -/
  | fixed
  | listOpening
  | addressOpening
  /-- The end frame of a list or an address. -/
  | closing
  | absent
  /-- Something in an address that is not known here. -/
  | unknown
  deriving DecidableEq

namespace Role

/-- The flags of a frame allow for what it is taken for. -/
def Fits : Role → Frame → Prop
  | value, f | packed, f | fixed, f => f.isStructural = false
  | listOpening, f | addressOpening, f => f.isBegin = true
  | closing, f => f.isEnd = true
  | absent, f => f.isNull = true
  | unknown, _ => True

/-- Whether readers look at the flags. -/
def isChecked : Role → Bool
  | packed | fixed | addressOpening => false
  | _ => true

end Role

/-- A frame and what it is taken for. -/
structure Part where
  role : Role
  frame : Frame

def Part.Fits (part : Part) : Prop := part.role.Fits part.frame

/-! ## Readers -/

/-- Bytes are the fields `items` side by side. -/
structure Field.Packs (field : Field α) (items : List α) (bytes : Octets) : Prop where
  even : bytes.length % field.width = 0
  items : items = (Cursor.pieces field.width (bytes.length / field.width) bytes).map field.decode

namespace Cursor

/-- A cursor goes over some frames. -/
structure Passes (c : Cursor) (parts : List Part) (c' : Cursor) : Prop where
  rest : c.rest = parts.map Part.frame ++ c'.rest
  position : c'.position = c.position + parts.length
  operation : c'.operation = c.operation

theorem Passes.refl (c : Cursor) : c.Passes [] c := ⟨rfl, rfl, rfl⟩

theorem Passes.trans {c c' c'' : Cursor} {parts later : List Part} (first : c.Passes parts c')
    (second : c'.Passes later c'') : c.Passes (parts ++ later) c'' where
  rest := by rw [first.rest, second.rest, List.map_append, List.append_assoc]
  position := by rw [second.position, first.position, List.length_append, Nat.add_assoc]
  operation := second.operation.trans first.operation

/-- A reading fails for what the frames are like, or it takes some of them for what `Q` says and
    stops right after them. -/
def Finds (body : OnCursor α) (Q : α → List Part → Cursor → Prop) (c : Cursor) : Prop :=
  match body.run c with
  | (.ok a, c') => ∃ parts, c.Passes parts c' ∧ Q a parts c'
  | (.error fault, _) => ∃ framing, fault = .framing framing

variable {body : OnCursor α} {next : α → OnCursor β} {Q : α → List Part → Cursor → Prop}
  {S : β → List Part → Cursor → Prop} {c : Cursor}

theorem Finds.pure {a : α} (here : Q a [] c) : Finds (Pure.pure a) Q c := ⟨[], .refl c, here⟩

theorem Finds.fail (framing : FramingFault) : Finds (throw (.framing framing) : OnCursor α) Q c := ⟨framing, rfl⟩

/-- One reader goes on where the other has stopped. -/
theorem Finds.bind (first : Finds body Q c)
    (second : ∀ a parts c', Q a parts c' → Finds (next a) (fun b later => S b (parts ++ later)) c') :
    Finds (body >>= next) S c := by
  rcases ran : body.run c with ⟨fault | a, c'⟩
  · simp only [Finds, run_bind, ran] at first ⊢
    exact first
  · simp only [Finds, run_bind, ran] at first ⊢
    obtain ⟨parts, passes, found⟩ := first
    have goesOn := second a parts c' found
    unfold Finds at goesOn
    rcases goes : (next a).run c' with ⟨fault | b, c''⟩
    · simpa only [goes] using goesOn
    · simp only [goes] at goesOn ⊢
      obtain ⟨later, further, found⟩ := goesOn
      exact ⟨parts ++ later, passes.trans further, found⟩

theorem Finds.get {next : Cursor → OnCursor β} (onward : Finds (next c) S c) : Finds (MonadState.get >>= next) S c := by
  simpa only [Finds, run_bind, run_get] using onward

/-- A frame may be taken for anything. -/
theorem Finds.take {next : Frame → OnCursor β} (role : Role)
    (onward : ∀ f c', c.peek = some f → Finds (next f) (fun b later => S b (⟨role, f⟩ :: later)) c') :
    Finds (Cursor.take >>= next) S c := by
  have first : Finds Cursor.take (fun f parts _ => parts = [⟨role, f⟩] ∧ c.peek = some f) c := by
    obtain ⟨operation, position, _ | ⟨f, rest⟩⟩ := c
    · exact ⟨_, rfl⟩
    · exact ⟨[⟨role, f⟩], ⟨rfl, rfl, rfl⟩, rfl, rfl⟩
  refine first.bind ?_
  rintro f _ c' ⟨rfl, peek⟩
  exact onward f c' peek

theorem Finds.settle {result : Except Fault α} {next : α → OnCursor β}
    (framed : ∀ fault, result = .error fault → ∃ framing, fault = .framing framing)
    (onward : ∀ a, result = .ok a → Finds (next a) S c) : Finds (Cursor.settle result >>= next) S c := by
  cases result with
  | ok a => exact onward a rfl
  | error fault => exact framed fault rfl

theorem Finds.takeValue {expected : FrameValue} {next : Frame → OnCursor β}
    (onward : ∀ f c', f.isStructural = false → Finds (next f) (fun b later => S b (⟨.value, f⟩ :: later)) c') :
    Finds (Cursor.takeValue expected >>= next) S c := by
  simp only [Cursor.takeValue, bind_assoc]
  refine .take .value fun f c' _ => ?_
  by_cases structural : f.isStructural = true
  · rw [if_pos structural]
    exact .fail _
  · rw [if_neg structural]
    exact onward f c' (by simpa using structural)

theorem Finds.takePacked (field : Field α) (c : Cursor) :
    Finds (Cursor.takePacked field) (fun items parts _ => ∃ f, parts = [⟨.packed, f⟩] ∧ field.Packs items f.content)
      c := by
  refine .take .packed fun f c' _ => ?_
  by_cases ragged : (f.content.length % field.width != 0) = true
  · rw [if_pos ragged]
    exact .fail _
  · rw [if_neg ragged]
    exact .pure ⟨f, rfl, by simpa using ragged, rfl⟩

/-- What closes a structure is an end frame. -/
theorem skipStructures_eq_some {depth count : Nat} {frames rest : List Frame}
    (skips : skipStructures (depth + 1) frames = some (count, rest)) :
    ∃ skipped closing, frames = skipped ++ closing :: rest ∧ closing.isEnd = true ∧ count = skipped.length + 1 := by
  induction frames generalizing depth count with
  | nil => cases skips
  | cons f frames ih =>
    simp only [skipStructures, Option.map_eq_some_iff, Prod.exists, Prod.mk.injEq] at skips
    obtain ⟨fewer, _, skips, rfl, rfl⟩ := skips
    by_cases last : f.isEnd = true ∧ depth = 0
    · obtain ⟨ends, rfl⟩ := last
      obtain ⟨rfl, rfl⟩ : 0 = fewer ∧ frames = _ := by simpa [ends, skipStructures] using skips
      exact ⟨[], f, rfl, ends, rfl⟩
    · obtain ⟨deeper, is⟩ : ∃ deeper, (if f.isEnd = true then depth else if f.isBegin = true then depth + 2
          else depth + 1) = deeper + 1 := by
        apply Nat.exists_eq_add_one_of_ne_zero
        split_ifs with ends <;> [exact fun zero => last ⟨ends, zero⟩; omega; omega]
      rw [is] at skips
      obtain ⟨skipped, closing, rfl, ends, rfl⟩ := ih skips
      exact ⟨f :: skipped, closing, rfl, ends, rfl⟩

theorem Finds.closeStructure (c : Cursor) :
    Finds Cursor.closeStructure (fun _ parts _ => ∃ (skipped : List Frame) (closing : Frame),
      parts = skipped.map (Part.mk .unknown) ++ [⟨.closing, closing⟩] ∧ closing.isEnd = true) c := by
  cases skips : skipStructures 1 c.rest with
  | none =>
    simp only [Finds, Cursor.closeStructure, ExceptT.run, skips]
    exact ⟨_, rfl⟩
  | some found =>
    obtain ⟨count, rest⟩ := found
    obtain ⟨skipped, closing, frames, ends, rfl⟩ := skipStructures_eq_some skips
    simp only [Finds, Cursor.closeStructure, ExceptT.run, skips]
    exact ⟨_, ⟨by simp [frames, Function.comp_def], by simp, rfl⟩, skipped, closing, rfl, ends⟩

/-- Items are taken up to an end frame, which is left. -/
theorem Finds.takeItems {item : OnCursor α} {P : α → List Part → Prop}
    (finds : ∀ c, Finds item (fun a parts _ => P a parts) c) (fuel : Nat) (c : Cursor) :
    Finds (Cursor.takeItems item fuel)
      (fun items parts c' => c'.nextIsEnd = true ∧ ∃ each, parts = each.flatten ∧ List.Forall₂ P items each) c := by
  induction fuel generalizing c with
  | zero => exact .fail _
  | succ fuel ih =>
    refine .get ?_
    by_cases ended : c.nextIsEnd = true
    · rw [if_pos ended]
      exact .pure ⟨ended, [], rfl, .nil⟩
    rw [if_neg ended]
    by_cases none : (!c.hasNext) = true
    · rw [if_pos none]
      exact .fail _
    rw [if_neg none]
    refine (finds c).bind fun a parts c' taken => (ih c').bind ?_
    rintro items _ c'' ⟨ended, each, rfl, takes⟩
    exact .pure ⟨ended, parts :: each, by simp, .cons taken takes⟩

end Cursor

/-! ## Shapes -/

namespace Shape

/-- Frames and what they are taken for where a value of some shape is read off them. -/
def Laid : (shape : Shape) → shape.Value → List Part → Prop
  | text, s, parts => ∃ f, parts = [⟨.value, f⟩] ∧ f.isStructural = false ∧ Text.Utf8.decode f.content = .ok s
  | bytes, content, parts => ∃ f, parts = [⟨.value, f⟩] ∧ f.isStructural = false ∧ f.content = content
  | data, d, parts => ∃ f, parts = [⟨.value, f⟩] ∧ f.isStructural = false ∧ f.content = d.octets
  | ints, items, parts => ∃ f, parts = [⟨.packed, f⟩] ∧ Field.int.Packs items f.content
  | longs, items, parts => ∃ f, parts = [⟨.packed, f⟩] ∧ Field.long.Packs items f.content
  | uuids, items, parts => ∃ f, parts = [⟨.packed, f⟩] ∧ Field.guid.Packs (items.map some) f.content
  | address, a, parts =>
    ∃ (opening fixed host : Frame) (skipped : List Frame) (closing : Frame),
      parts = ⟨.addressOpening, opening⟩ :: ⟨.fixed, fixed⟩ :: ⟨.value, host⟩ ::
        (skipped.map (Part.mk .unknown) ++ [⟨.closing, closing⟩]) ∧
      fixed.read .int Codec.portOffset = .ok a.port ∧ host.isStructural = false ∧
      Text.Utf8.decode host.content = .ok a.host ∧ closing.isEnd = true
  | nullable _, none, parts => ∃ f, parts = [⟨.absent, f⟩] ∧ f.isNull = true
  | nullable value, some a, parts => value.Laid a parts
  | list item, items, parts =>
    ∃ (opening : Frame) (each : List (List Part)) (closing : Frame),
      parts = ⟨.listOpening, opening⟩ :: (each.flatten ++ [⟨.closing, closing⟩]) ∧
      opening.isBegin = true ∧ closing.isEnd = true ∧ List.Forall₂ item.Laid items each

end Shape

namespace Codec

open Cursor

variable {c : Cursor}

theorem finds_text : Finds text.read (fun s parts _ => Shape.text.Laid s parts) c := by
  refine .takeValue fun f c' plain => ?_
  cases decoded : Text.Utf8.decode f.content with
  | ok s => exact .pure ⟨f, rfl, plain, decoded⟩
  | error fault => exact .fail _

theorem finds_bytes : Finds bytes.read (fun content parts _ => Shape.bytes.Laid content parts) c :=
  .takeValue fun f _ plain => .pure ⟨f, rfl, plain, rfl⟩

theorem finds_data : Finds data.read (fun d parts _ => Shape.data.Laid d parts) c := by
  refine .takeValue fun f c' plain => ?_
  unfold Data.ofOctets
  split
  · exact .pure ⟨f, rfl, plain, rfl⟩
  · exact .fail _

theorem mapM_id_eq_some {items : List (Option α)} {found : List α} (all : items.mapM id = some found) :
    items = found.map some := by
  induction items generalizing found with
  | nil => simp_all
  | cons item items ih =>
    simp only [List.mapM_cons, id, Option.bind_eq_bind, Option.bind_eq_some_iff, Option.pure_def,
      Option.some.injEq] at all
    obtain ⟨a, rfl, others, rest, rfl⟩ := all
    rw [ih rest, List.map_cons]

theorem finds_uuids : Finds uuids.read (fun items parts _ => Shape.uuids.Laid items parts) c := by
  refine (Finds.takePacked .guid c).bind ?_
  rintro items _ c' ⟨f, rfl, packs⟩
  cases all : items.mapM id with
  | some found => exact .pure ⟨f, rfl, mapM_id_eq_some all ▸ packs⟩
  | none => exact .fail _

theorem finds_address : Finds address.read (fun a parts _ => Shape.address.Laid a parts) c := by
  simp only [address, skip, bind_assoc]
  refine .take .addressOpening fun opening c' _ => ?_
  refine .take .fixed fun fixed c'' _ => ?_
  refine .settle ?_ fun port read => ?_
  · intro fault fails
    unfold Frame.read Field.read at fails
    split at fails
    · cases fails
      exact ⟨_, rfl⟩
    · cases fails
  refine finds_text.bind ?_
  rintro host _ c''' ⟨f, rfl, plain, decoded⟩
  refine (Finds.closeStructure c''').bind ?_
  rintro _ _ _ ⟨skipped, closing, rfl, ends⟩
  exact .pure ⟨opening, fixed, f, skipped, closing, by simp, read, plain, decoded, ends⟩

theorem finds_nullable {value : Shape} (finds : ∀ c, Finds value.codec.read (fun a parts _ => value.Laid a parts) c) :
    Finds (nullable value.codec).read (fun a parts _ => value.nullable.Laid a parts) c := by
  refine .get ?_
  by_cases null : c.peek.any Frame.isNull = true
  · rw [if_pos null]
    simp only [skip, bind_assoc]
    refine .take .absent fun f c' peek => .pure ⟨f, rfl, ?_⟩
    simpa [peek] using null
  · rw [if_neg null]
    refine (finds c).bind fun a parts c' laid => .pure ?_
    simpa [Shape.Laid] using laid

theorem finds_list {item : Shape} (finds : ∀ c, Finds item.codec.read (fun a parts _ => item.Laid a parts) c) :
    Finds (list item.codec).read (fun items parts _ => item.list.Laid items parts) c := by
  refine .take .listOpening fun opening c' _ => ?_
  by_cases begins : opening.isBegin = true
  · rw [if_neg (by simp [begins])]
    refine .get ((Finds.takeItems finds _ c').bind ?_)
    rintro items _ c'' ⟨ended, each, rfl, laid⟩
    simp only [skip, bind_assoc]
    refine .take .closing fun closing c''' peek => .pure ?_
    have ends : closing.isEnd = true := by simpa [nextIsEnd, peek] using ended
    exact ⟨opening, each, closing, by simp, begins, ends, laid⟩
  · rw [if_pos (by simp [begins])]
    exact .fail _

end Codec

namespace Shape

/-- What a reader finds is laid out in the frames that it goes over. -/
theorem finds_codec (shape : Shape) (c : Cursor) :
    Cursor.Finds shape.codec.read (fun a parts _ => shape.Laid a parts) c := by
  induction shape generalizing c with
  | text => exact Codec.finds_text
  | bytes => exact Codec.finds_bytes
  | data => exact Codec.finds_data
  | ints => exact .takePacked .int c
  | longs => exact .takePacked .long c
  | uuids => exact Codec.finds_uuids
  | address => exact Codec.finds_address
  | nullable value ih => exact Codec.finds_nullable ih
  | list item ih => exact Codec.finds_list ih

private theorem forall_mem_flatten {R : α → List Part → Prop} {P : Part → Prop} {items : List α}
    {each : List (List Part)} (holds : ∀ {a parts}, R a parts → ∀ part ∈ parts, P part)
    (laid : List.Forall₂ R items each) : ∀ part ∈ each.flatten, P part := by
  induction laid with
  | nil => simp
  | cons first _ ih =>
    rw [List.flatten_cons]
    exact List.forall_mem_append.mpr ⟨holds first, ih⟩

/-- The flags are right wherever readers look at them. -/
theorem Laid.fits {shape : Shape} {a : shape.Value} {parts : List Part} (laid : shape.Laid a parts) :
    ∀ part ∈ parts, part.role.isChecked = true → part.Fits := by
  induction shape generalizing parts with
  | text | bytes | data =>
    obtain ⟨f, rfl, plain, -⟩ := laid
    exact List.forall_mem_singleton.mpr fun _ => plain
  | ints | longs | uuids =>
    obtain ⟨f, rfl, -⟩ := laid
    exact List.forall_mem_singleton.mpr nofun
  | address =>
    obtain ⟨opening, fixed, host, skipped, closing, rfl, -, plain, -, ends⟩ := laid
    have known : ∀ part ∈ skipped.map (Part.mk .unknown), part.role.isChecked = true → part.Fits := by
      simp [Part.Fits, Role.Fits]
    simp only [List.forall_mem_cons, List.forall_mem_append]
    exact ⟨nofun, nofun, fun _ => plain, known, fun _ => ends, by simp⟩
  | nullable value ih =>
    cases a with
    | none =>
      obtain ⟨f, rfl, null⟩ := laid
      exact List.forall_mem_singleton.mpr fun _ => null
    | some a => exact ih laid
  | list item ih =>
    obtain ⟨opening, each, closing, rfl, begins, ends, laid⟩ := laid
    simp only [List.forall_mem_cons, List.forall_mem_append]
    exact ⟨fun _ => begins, forall_mem_flatten ih laid, fun _ => ends, by simp⟩

/-- A shape without packed lists and addresses. -/
def isStrict : Shape → Bool
  | text | bytes | data => true
  | ints | longs | uuids | address => false
  | nullable value => value.isStrict
  | list item => item.isStrict

/-- Readers of such a shape look at the flags of every frame. -/
theorem Laid.checked {shape : Shape} (strict : shape.isStrict = true) {a : shape.Value} {parts : List Part}
    (laid : shape.Laid a parts) : ∀ part ∈ parts, part.role.isChecked = true := by
  induction shape generalizing parts with
  | text | bytes | data =>
    obtain ⟨f, rfl, -⟩ := laid
    exact List.forall_mem_singleton.mpr rfl
  | ints | longs | uuids | address => cases strict
  | nullable value ih =>
    cases a with
    | none =>
      obtain ⟨f, rfl, -⟩ := laid
      exact List.forall_mem_singleton.mpr rfl
    | some a => exact ih strict laid
  | list item ih =>
    obtain ⟨opening, each, closing, rfl, -, -, laid⟩ := laid
    simp only [List.forall_mem_cons, List.forall_mem_append]
    exact ⟨rfl, forall_mem_flatten (ih strict) laid, rfl, by simp⟩

/-! ## What is not looked at -/

/-- How many frames a reader takes first without a look at their flags. -/
def unseen : Shape → Nat
  | ints | longs | uuids => 1
  | address => 2
  | _ => 0

private theorem run_takePacked (field : Field α) {f g : Frame} (same : g.content = f.content) (operation : String)
    (position : Nat) (rest : List Frame) :
    (Cursor.takePacked field).run ⟨operation, position, g :: rest⟩ =
      (Cursor.takePacked field).run ⟨operation, position, f :: rest⟩ := by
  simp only [Cursor.takePacked, run_bind, Cursor.run_take, same]

/-- The flags of these frames make no difference. -/
theorem run_unseen (shape : Shape) {first others : List Frame} (count : first.length = shape.unseen)
    (same : others.map Frame.content = first.map Frame.content) (operation : String) (position : Nat)
    (rest : List Frame) :
    shape.codec.read.run ⟨operation, position, others ++ rest⟩ =
      shape.codec.read.run ⟨operation, position, first ++ rest⟩ := by
  have alike : others.length = shape.unseen := by simpa [count] using congrArg List.length same
  cases shape with
  | text | bytes | data | nullable | list =>
    rw [List.length_eq_zero_iff.mp count, List.length_eq_zero_iff.mp alike]
  | ints | longs | uuids =>
    obtain ⟨f, rfl⟩ := List.length_eq_one_iff.mp count
    obtain ⟨g, rfl⟩ := List.length_eq_one_iff.mp alike
    have content : g.content = f.content := by simpa using same
    first
    | exact run_takePacked _ content operation position rest
    | simp only [codec, Codec.uuids, run_bind, List.singleton_append, run_takePacked _ content]
  | address =>
    obtain ⟨o, f, rfl⟩ := List.length_eq_two.mp count
    obtain ⟨p, g, rfl⟩ := List.length_eq_two.mp alike
    have content : g.content = f.content := by simp_all
    simp only [codec, Codec.address, Cursor.skip, run_bind, List.cons_append, Cursor.run_take, Cursor.run_pure,
      Frame.read, content]

/-- What there is to say of a reading of a value. -/
structure Reading (shape : Shape) (c : Cursor) : Prop where
  /-- If it fails, that is for what the frames are like. -/
  framed : ∀ {fault c'}, shape.codec.read.run c = (.error fault, c') → ∃ framing, fault = .framing framing
  /-- If it succeeds, the frames have been taken for parts of the value, and their flags are right wherever the
      reader has looked at them. It does so everywhere but at packed lists and the first two frames of an address. -/
  parts : ∀ {a c'}, shape.codec.read.run c = (.ok a, c') → ∃ parts, c.Passes parts c' ∧ shape.Laid a parts ∧
    (∀ part ∈ parts, part.role.isChecked = true → part.Fits) ∧ (shape.isStrict = true → ∀ part ∈ parts, part.Fits)
  /-- There the flags make no difference. -/
  unseen : ∀ {first others rest : List Frame}, c.rest = first ++ rest → first.length = shape.unseen →
    others.map Frame.content = first.map Frame.content →
    shape.codec.read.run { c with rest := others ++ rest } = shape.codec.read.run c

/-- Of every reading, of a value of any shape, off any frames, from any of them on. -/
theorem read_for_parts (shape : Shape) (c : Cursor) : shape.Reading c := by
  have finds := shape.finds_codec c
  refine ⟨fun fails => ?_, fun succeeds => ?_, fun split count same => ?_⟩
  · simpa only [Cursor.Finds, fails] using finds
  · simp only [Cursor.Finds, succeeds] at finds
    obtain ⟨parts, passes, laid⟩ := finds
    refine ⟨parts, passes, laid, laid.fits, ?_⟩
    exact fun strict part member => laid.fits part member (laid.checked strict part member)
  · obtain ⟨operation, position, frames⟩ := c
    cases split
    exact shape.run_unseen count same operation position _

/-- A list of two texts: each of its four frames fits what it is taken for. -/
theorem texts_fit :
    let c : Cursor := ⟨"", 0, [.openStructure, .ofContent [97], .ofContent [], .closeStructure]⟩
    let c' : Cursor := ⟨"", 4, []⟩
    (list text).codec.read.run c = (.ok ["a", ""], c') ∧
      ∃ parts, c.Passes parts c' ∧ (list text).Laid ["a", ""] parts ∧ ∀ part ∈ parts, part.Fits := by
  intro c c'
  have read : (list text).codec.read.run c = (.ok ["a", ""], c') := rfl
  obtain ⟨parts, passes, laid, -, fits⟩ := (read_for_parts (list text) c).parts read
  exact ⟨read, parts, passes, laid, fits rfl⟩

/-- The mark of an absent value does not fit a list of numbers, and yet is read as an empty one. A
    byte array is not read off it. -/
theorem absent_reads_as_no_numbers :
    let c : Cursor := ⟨"", 0, [.absent]⟩
    let c' : Cursor := ⟨"", 1, []⟩
    let parts : List Part := [⟨.packed, .absent⟩]
    ints.codec.read.run c = (.ok [], c') ∧ c.Passes parts c' ∧ ints.Laid [] parts ∧ (¬ ∀ part ∈ parts, part.Fits) ∧
      bytes.codec.read.run c = (.error (.framing (.structural .bytes Flags.isNull)), c') := by
  intro c c' parts
  refine ⟨rfl, ⟨rfl, rfl, rfl⟩, ⟨.absent, rfl, rfl, rfl⟩, fun fits => ?_, rfl⟩
  have plain : Frame.absent.isStructural = false := fits ⟨.packed, .absent⟩ (by simp [parts])
  exact absurd plain (by decide)

end Shape
end Datagrid
