import Mathlib.Data.List.Sort
import ScanAccess.Json.Writer

/-! # The order of fields

The text of a value holds the fields of an object in the order of their names, whatever order
they were put there in. A value whose fields are in this order stands for all those that differ
from it in the order of fields only: they have one text, and objects without two fields of one
name become the same if and only if they have the same fields.
-/

namespace ScanAccess

namespace RawText

theorem code_injective : Function.Injective CodePoint.code := by
  intro point other h
  have hrange (c : Char) (index : Fin 0x800) : c.toNat ≠ CodePoint.firstHalf + index := by
    have hvalid := c.valid
    have hindex := index.isLt
    simp only [UInt32.isValidChar, Nat.isValidChar] at hvalid
    simp only [Char.toNat, CodePoint.firstHalf]
    omega
  cases point with
  | char c =>
      cases other with
      | char d => exact congrArg CodePoint.char (Char.toNat_inj.mp h)
      | half index => exact absurd h (hrange c index)
  | half index =>
      cases other with
      | char d => exact absurd h.symm (hrange d index)
      | half other => exact congrArg CodePoint.half (Fin.ext (Nat.add_left_cancel h))

theorem codes_injective : Function.Injective codes := by
  intro text other h
  obtain ⟨points⟩ := text
  obtain ⟨others⟩ := other
  exact congrArg RawText.mk (List.map_injective_iff.mpr code_injective h)

theorem le_trans {first second third : RawText} (h : first ≤ second) (h' : second ≤ third) :
    first ≤ third :=
  List.le_trans h h'

theorem le_total (first second : RawText) : first ≤ second ∨ second ≤ first :=
  List.le_total first.codes second.codes

theorem le_antisymm {first second : RawText} (h : first ≤ second) (h' : second ≤ first) :
    first = second :=
  codes_injective (List.le_antisymm h h')

end RawText

namespace Json

section ByName

variable {α β : Type}

/-- Fields in the order of their names. -/
def byName (fields : List (RawText × α)) : List (RawText × α) :=
  fields.mergeSort fun a b => decide (a.1 ≤ b.1)

theorem byName_perm (fields : List (RawText × α)) : (byName fields).Perm fields :=
  List.mergeSort_perm fields _

theorem byName_map (f : α → β) (fields : List (RawText × α)) :
    byName (fields.map fun field => (field.1, f field.2)) =
      (byName fields).map fun field => (field.1, f field.2) := by
  rw [byName, byName]
  refine (List.map_mergeSort ?_).symm
  rintro a - b -
  rfl

theorem pairwise_byName (fields : List (RawText × α)) :
    (byName fields).Pairwise fun a b => a.1 ≤ b.1 := by
  refine (List.pairwise_mergeSort ?_ ?_ fields).imp fun h => of_decide_eq_true h
  · intro a b c hab hbc
    exact decide_eq_true (RawText.le_trans (of_decide_eq_true hab) (of_decide_eq_true hbc))
  · intro a b
    rw [Bool.or_eq_true, decide_eq_true_iff, decide_eq_true_iff]
    exact RawText.le_total a.1 b.1

theorem byName_of_pairwise {fields : List (RawText × α)}
    (h : fields.Pairwise fun a b => a.1 ≤ b.1) : byName fields = fields :=
  List.mergeSort_of_pairwise (h.imp fun hle => decide_eq_true hle)

/-- Fields with different names have one order by name. -/
theorem byName_eq_of_perm {fields others : List (RawText × α)} (h : fields.Perm others)
    (hnodup : (fields.map Prod.fst).Nodup) : byName fields = byName others := by
  have hperm : (byName fields).Perm (byName others) :=
    ((byName_perm fields).trans h).trans (byName_perm others).symm
  refine hperm.eq_of_pairwise ?_ (pairwise_byName fields) (pairwise_byName others)
  intro a b ha hb hab hba
  have hname : a.1 = b.1 := RawText.le_antisymm hab hba
  have ha' : a ∈ fields := (byName_perm fields).mem_iff.mp ha
  have hb' : b ∈ fields := h.mem_iff.mpr ((byName_perm others).mem_iff.mp hb)
  exact List.inj_on_of_nodup_map hnodup ha' hb' hname

end ByName

/-- What goes over from the parts of an array and of an object to the whole holds of all values. -/
theorem induction_on {P : Json → Prop} (null : P .null) (bool : ∀ value, P (.bool value))
    (int : ∀ value, P (.int value)) (float : ∀ value, P (.float value))
    (string : ∀ value, P (.string value))
    (array : ∀ items, (∀ item ∈ items, P item) → P (.array items))
    (object : ∀ fields, (∀ field ∈ fields, P field.2) → P (.object fields)) (json : Json) :
    P json := by
  refine @Json.rec P (fun items => ∀ item ∈ items, P item)
    (fun fields => ∀ field ∈ fields, P field.2) (fun field => P field.2)
    null bool int float string array object ?_ ?_ ?_ ?_ ?_ json
  · exact List.forall_mem_nil _
  · exact fun item rest hitem hrest => List.forall_mem_cons.mpr ⟨hitem, hrest⟩
  · exact List.forall_mem_nil _
  · exact fun field rest hfield hrest => List.forall_mem_cons.mpr ⟨hfield, hrest⟩
  · exact fun name value hvalue => hvalue

mutual

/-- A value with the fields of every object in it in the order of their names. -/
def sorted : Json → Json
  | .array items => .array (sortedItems items)
  | .object fields => .object (byName (sortedFields fields))
  | json => json

/-- The same for the items of an array. -/
def sortedItems : List Json → List Json
  | [] => []
  | item :: rest => sorted item :: sortedItems rest

/-- The same for the values of the fields of an object. -/
def sortedFields : List (RawText × Json) → List (RawText × Json)
  | [] => []
  | (name, value) :: rest => (name, sorted value) :: sortedFields rest

end

theorem sortedItems_eq_map (items : List Json) : sortedItems items = items.map sorted := by
  induction items with
  | nil => rfl
  | cons item rest ih => rw [sortedItems, ih, List.map_cons]

theorem sortedFields_eq_map (fields : List (RawText × Json)) :
    sortedFields fields = fields.map fun field => (field.1, sorted field.2) := by
  induction fields with
  | nil => rfl
  | cons field rest ih => rw [sortedFields, ih, List.map_cons]

theorem sorted_array (items : List Json) : sorted (.array items) = .array (items.map sorted) := by
  rw [sorted, sortedItems_eq_map]

theorem sorted_object (fields : List (RawText × Json)) :
    sorted (.object fields) =
      .object ((byName fields).map fun field => (field.1, sorted field.2)) := by
  rw [sorted, sortedFields_eq_map, byName_map]

/-- An object is put in order by any arrangement of its fields in which the names go up. -/
theorem sorted_object_of_perm {fields ordered : List (RawText × Json)}
    (h : (fields.map fun field => (field.1, sorted field.2)).Perm ordered)
    (hordered : ordered.Pairwise fun a b => a.1 ≤ b.1)
    (hnodup : (ordered.map Prod.fst).Nodup) :
    sorted (.object fields) = .object ordered := by
  rw [sorted_object, ← byName_map, byName_eq_of_perm h ((h.map Prod.fst).nodup_iff.mpr hnodup),
    byName_of_pairwise hordered]

theorem writeItems_eq_map (items : List Json) : writeItems items = items.map write := by
  induction items with
  | nil => rfl
  | cons item rest ih => rw [writeItems, ih, List.map_cons]

theorem writeFields_eq_map (fields : List (RawText × Json)) :
    writeFields fields = fields.map fun field => (field.1, write field.2) := by
  induction fields with
  | nil => rfl
  | cons field rest ih => rw [writeFields, ih, List.map_cons]

/-- The text of a field with its value. -/
def writeField (field : RawText × Json) : List Char :=
  fieldText (field.1, write field.2)

theorem write_array (items : List Json) :
    write (.array items) = '[' :: commaSeparated (items.map write) ++ [']'] := by
  rw [write, writeItems_eq_map]

theorem write_object (fields : List (RawText × Json)) :
    write (.object fields) =
      '\x7b' :: commaSeparated ((byName fields).map writeField) ++ ['\x7d'] := by
  have hsort : sortFields (fields.map fun field => (field.1, write field.2)) =
      (byName fields).map fun field => (field.1, write field.2) := byName_map write fields
  rw [write, writeFields_eq_map, hsort, List.map_map]
  rfl

end Json

end ScanAccess
