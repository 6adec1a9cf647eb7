import Datagrid.Wire.Stream
import Mathlib.Data.List.Basic

/-!
# The table of open messages

What opening, extending and forgetting a message does to the frames that a
decoder holds, seen through `Decoder.find?` and the ids of its table.
-/
namespace Datagrid.Decoder

/-- The ids of the open messages. -/
def ids (d : Decoder) : List Int64 := d.fragments.map (·.1)

variable {d : Decoder} {id other : Int64} {held frames : List Frame}

theorem find?_eq_none_iff : d.find? id = none ↔ id ∉ d.ids := by
  rw [find?, List.lookup_eq_none_iff, ids, List.mem_map]
  constructor
  · rintro differs ⟨entry, member, rfl⟩
    simpa using differs entry member
  · intro absent entry member
    rw [bne_iff_ne]
    rintro rfl
    exact absent ⟨entry, member, rfl⟩

theorem length_ids : d.ids.length = d.fragments.length := List.length_map _

/-! ## Opening -/

theorem find?_insert (fresh : d.find? id = none) :
    (d.insert id frames).find? other = if other = id then some frames else d.find? other := by
  simp only [find?, insert] at fresh ⊢
  rw [List.lookup_append]
  split_ifs with same
  · subst same
    rw [fresh]
    simp
  · have differs : (other == id) = false := by simpa using same
    simp [List.lookup_cons, differs]

theorem ids_insert : (d.insert id frames).ids = d.ids ++ [id] := by
  simp [ids, insert]

theorem remove_insert (fresh : d.find? id = none) : (d.insert id frames).remove id = d := by
  obtain ⟨pending, fragments, limit⟩ := d
  rw [find?_eq_none_iff] at fresh
  have kept : fragments.filter (·.1 != id) = fragments := by
    rw [List.filter_eq_self]
    intro entry member
    rw [bne_iff_ne]
    rintro rfl
    exact fresh (List.mem_map_of_mem member)
  simp [remove, insert, kept]

/-! ## Extending -/

theorem find?_extend :
    (d.extend id frames).find? other = if other = id then (d.find? id).map (· ++ frames) else d.find? other := by
  obtain ⟨pending, fragments, limit⟩ := d
  simp only [find?, extend]
  induction fragments with
  | nil => simp
  | cons entry rest ih =>
    obtain ⟨key, kept⟩ := entry
    by_cases own : key = id
    · subst own
      by_cases same : other = key
      · simp [same]
      · have differs : (other == key) = false := by simpa using same
        simpa [List.lookup_cons, differs, same] using ih
    · have differs : (id == key) = false := by simpa using Ne.symm own
      by_cases same : other = key
      · simp [same, own]
      · have unlike : (other == key) = false := by simpa using same
        simpa [List.lookup_cons, differs, unlike, own] using ih

theorem ids_extend : (d.extend id frames).ids = d.ids := by
  simp only [ids, extend, List.map_map]
  apply List.map_congr_left
  intro entry _
  simp only [Function.comp_apply]
  split_ifs <;> rfl

theorem remove_extend : (d.extend id frames).remove id = d.remove id := by
  obtain ⟨pending, fragments, limit⟩ := d
  simp only [remove, extend, Decoder.mk.injEq, and_true, true_and]
  induction fragments with
  | nil => rfl
  | cons entry rest ih =>
    obtain ⟨key, kept⟩ := entry
    rw [List.map_cons, List.filter_cons, List.filter_cons, ih]
    by_cases own : key = id <;> simp [own]

/-! ## Forgetting -/

theorem find?_remove : (d.remove id).find? other = if other = id then none else d.find? other := by
  obtain ⟨pending, fragments, limit⟩ := d
  simp only [find?, remove]
  induction fragments with
  | nil => simp
  | cons entry rest ih =>
    obtain ⟨key, kept⟩ := entry
    rw [List.filter_cons]
    by_cases own : key = id
    · subst own
      by_cases same : other = key
      · simpa [same] using ih
      · have differs : (other == key) = false := by simpa using same
        simpa [List.lookup_cons, differs, same] using ih
    · by_cases same : other = key
      · simp [same, own]
      · have differs : (other == key) = false := by simpa using same
        simpa [List.lookup_cons, differs, own] using ih

theorem ids_remove : (d.remove id).ids = d.ids.filter (· != id) := by
  simp only [ids, remove, List.filter_map]
  rfl

end Datagrid.Decoder
