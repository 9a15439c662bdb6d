import ScanAccess.Proofs.FieldOrder
import ScanAccess.Proofs.JsonString

/-! # JSON read back from its text

The text of a value is one line of ASCII that can be printed, and reading it gives the value
back with the fields of every object in the order of their names. So two values have the same
text if and only if they are equal up to this order. The values in question have no binary64
numbers in them, no integers with more digits than the reader takes, and no two fields of one
name.
-/

namespace ScanAccess.Json

open ScanAccess.Text

/-! ## Nesting and values that can be read back -/

mutual

/-- How many containers of a value lie inside one another. -/
def nesting : Json → Nat
  | .array items => itemsNesting items + 1
  | .object fields => fieldsNesting fields + 1
  | _ => 0

/-- The same for the deepest item of an array. -/
def itemsNesting : List Json → Nat
  | [] => 0
  | item :: rest => max (nesting item) (itemsNesting rest)

/-- The same for the deepest field of an object. -/
def fieldsNesting : List (RawText × Json) → Nat
  | [] => 0
  | (_, value) :: rest => max (nesting value) (fieldsNesting rest)

end

theorem itemsNesting_le_iff {items : List Json} {depth : Nat} :
    itemsNesting items ≤ depth ↔ ∀ item ∈ items, item.nesting ≤ depth := by
  induction items with
  | nil => simp [itemsNesting]
  | cons item rest ih => rw [itemsNesting, Nat.max_le, ih, List.forall_mem_cons]

theorem fieldsNesting_le_iff {fields : List (RawText × Json)} {depth : Nat} :
    fieldsNesting fields ≤ depth ↔ ∀ field ∈ fields, field.2.nesting ≤ depth := by
  induction fields with
  | nil => simp [fieldsNesting]
  | cons field rest ih => rw [fieldsNesting, Nat.max_le, ih, List.forall_mem_cons]

/-- A value that can be read back from its text: its integers are not too long for the reader,
its texts have no halves of characters in them, no object in it has two fields of one name, and it
has no binary64 numbers. -/
inductive Writable : Json → Prop where
  | null : Writable .null
  | bool (value : Bool) : Writable (.bool value)
  | int (n : Int) (h : isTooLong n = false) : Writable (.int n)
  | string (s : RawText) (h : s.isEncodable = true) : Writable (.string s)
  | array (items : List Json) (h : ∀ item ∈ items, Writable item) : Writable (.array items)
  | object (fields : List (RawText × Json)) (hnodup : (fields.map Prod.fst).Nodup)
    (hnames : ∀ field ∈ fields, field.1.isEncodable = true)
    (h : ∀ field ∈ fields, Writable field.2) : Writable (.object fields)

/-! ## Reading the text of a value -/

/-- What may stand behind a value: the end of the text, or what ends or goes on with the container
around the value. -/
def Delimited (rest : List Char) : Prop :=
  ∀ c ∈ rest.head?, c = ',' ∨ c = ']' ∨ c = '\x7d'

/-- A value is read back, with its fields in order, wherever its text stands. The reader needs
two steps for each character at most. -/
def ReadsBack (json : Json) : Prop :=
  ∀ fuel depth rest, 2 * (write json).length ≤ fuel → json.nesting ≤ depth → Delimited rest →
    readValue fuel depth (write json ++ rest) = .ok (json.sorted, rest)

theorem skipSpace_cons {c : Char} (h : 0x20 < c.toNat) (cs : List Char) :
    skipSpace (c :: cs) = c :: cs := by
  rw [skipSpace, List.dropWhile_cons_of_neg]
  simp only [Bool.or_eq_true, beq_iff_eq]
  rintro (((rfl | rfl) | rfl) | rfl) <;> revert h <;> decide

theorem decimal_append_ne {c : Char} (hc : isDigit c = false) (n : Nat) (rest cs : List Char) :
    decimal n ++ rest ≠ c :: cs := by
  obtain ⟨first, others, hcons⟩ := List.exists_cons_of_ne_nil (decimal_ne_nil n)
  have hdigit := isDigit_of_mem_decimal (hcons ▸ List.mem_cons_self)
  rw [hcons, List.cons_append]
  intro heq
  rw [(List.cons_eq_cons.mp heq).1, hc] at hdigit
  contradiction

theorem signedDecimal_append_ne {c : Char} (hc : isDigit c = false) (hsign : c ≠ '-') (n : Int)
    (rest cs : List Char) : signedDecimal n ++ rest ≠ c :: cs := by
  rw [signedDecimal]
  split
  next => exact fun heq => hsign (List.cons_eq_cons.mp heq).1.symm
  next => exact decimal_append_ne hc n.natAbs rest cs

theorem readNumeral_decimal (n : Nat) {rest : List Char} (h : Delimited rest) :
    readNumeral false (decimal n ++ rest) = (⟨decimal n, none, none⟩, rest) := by
  have hspan : spanDigits (decimal n ++ rest) = (decimal n, rest) := by
    refine spanDigits_append (fun c hc => isDigit_of_mem_decimal hc) fun c hc => ?_
    rcases h c hc with rfl | rfl | rfl <;> rfl
  rw [readNumeral, hspan]
  cases rest with
  | nil => rfl
  | cons c rest => rcases h c rfl with rfl | rfl | rfl <;> rfl

theorem readNumber_signedDecimal {n : Int} (hn : isTooLong n = false)
    {rest : List Char} (h : Delimited rest) :
    readNumber (signedDecimal n ++ rest) = .ok (.int n, rest) := by
  have hlength : (decimal n.natAbs).length ≤ maxDigits :=
    Nat.le_of_not_lt (of_decide_eq_false hn)
  have hzero : ¬ ((decimal n.natAbs).isEmpty || ((decimal n.natAbs).head? == some '0' &&
      (decimal n.natAbs).length != 1)) = true := by
    rcases decimal_no_leading_zero n.natAbs with hhead | hlength
    · simp [decimal_ne_nil, hhead]
    · simp [decimal_ne_nil, hlength]
  have hread (negative : Bool) :
      (if maxDigits < (decimal n.natAbs).length then .error .malformed
        else
          let size : Int := ofDigits (decimal n.natAbs)
          .ok (.int (if negative then -size else size), rest) :
        Except ReadError (Json × List Char)) =
        .ok (.int (if negative then -n.natAbs else n.natAbs), rest) := by
    rw [if_neg (by omega), ofDigits_decimal]
  rw [signedDecimal]
  split
  next hneg =>
    rw [List.cons_append, readNumber]
    simp only [readNumeral_decimal n.natAbs h]
    rw [if_neg hzero]
    have hsize : -(n.natAbs : Int) = n := by omega
    exact (hread true).trans (by rw [if_pos rfl, hsize])
  next hneg =>
    have hsize : (n.natAbs : Int) = n := by omega
    rw [readNumber]
    · simp only [readNumeral_decimal n.natAbs h]
      rw [if_neg hzero]
      exact (hread false).trans (by rw [if_neg (by decide), hsize])
    · exact decimal_append_ne rfl n.natAbs rest

/-- What begins with a sign or a digit is read as a number. -/
theorem readValue_signedDecimal (n : Int) (rest : List Char) (fuel depth : Nat) :
    readValue (fuel + 1) depth (signedDecimal n ++ rest) =
      readNumber (signedDecimal n ++ rest) := by
  have hne {c : Char} (hc : isDigit c = false ∧ c ≠ '-') (cs : List Char) :
      signedDecimal n ++ rest ≠ c :: cs := signedDecimal_append_ne hc.1 hc.2 n rest cs
  have hinfinity (cs : List Char) : signedDecimal n ++ rest ≠ '-' :: 'I' :: cs := by
    rw [signedDecimal]
    split
    next => exact fun heq => decimal_append_ne rfl _ _ _ (List.cons_eq_cons.mp heq).2
    next => exact decimal_append_ne rfl _ _ _
  rw [readValue]
  all_goals first
    | exact fun cs => hne (by decide) _
    | exact fun cs => hinfinity _

/-- A text that begins with neither a space nor the end of a container. -/
def Opens (cs : List Char) : Prop :=
  ∃ c rest, cs = c :: rest ∧ 0x20 < c.toNat ∧ c ≠ ']' ∧ c ≠ '\x7d'

namespace Opens

variable {cs : List Char}

theorem append (h : Opens cs) (rest : List Char) : Opens (cs ++ rest) := by
  obtain ⟨c, others, rfl, hc⟩ := h
  exact ⟨c, others ++ rest, rfl, hc⟩

theorem ne_nil (h : Opens cs) : cs ≠ [] := by
  obtain ⟨c, others, rfl, -⟩ := h
  exact List.cons_ne_nil c others

theorem skipSpace (h : Opens cs) : skipSpace cs = cs := by
  obtain ⟨c, others, rfl, hc, -⟩ := h
  exact skipSpace_cons hc others

theorem ne_bracket (h : Opens cs) (rest : List Char) : cs ≠ ']' :: rest := by
  obtain ⟨c, others, rfl, -, hbracket, -⟩ := h
  exact fun heq => hbracket (List.cons_eq_cons.mp heq).1

theorem ne_brace (h : Opens cs) (rest : List Char) : cs ≠ '\x7d' :: rest := by
  obtain ⟨c, others, rfl, -, -, hbrace⟩ := h
  exact fun heq => hbrace (List.cons_eq_cons.mp heq).1

end Opens

theorem Writable.opens {json : Json} (h : Writable json) : Opens (write json) := by
  cases h with
  | null => exact ⟨_, _, rfl, by decide⟩
  | bool value =>
      cases value with
      | false => exact ⟨_, _, rfl, by decide⟩
      | true => exact ⟨_, _, rfl, by decide⟩
  | int n h =>
      rw [write, signedDecimal]
      split
      next => exact ⟨_, _, rfl, by decide⟩
      next =>
        obtain ⟨c, cs, hcons⟩ := List.exists_cons_of_ne_nil (decimal_ne_nil n.natAbs)
        have hdigit := isDigit_of_mem_decimal (hcons ▸ List.mem_cons_self)
        have hrange := toNat_of_isDigit hdigit
        refine ⟨c, cs, hcons, by omega, ?_, ?_⟩
        · rintro rfl
          contradiction
        · rintro rfl
          contradiction
  | string s h => exact ⟨_, _, rfl, by decide⟩
  | array items h => exact ⟨_, _, write_array items, by decide⟩
  | object fields hnodup hnames h =>
      -- The brace that begins an object is not the one that ends it.
      exact ⟨_, _, write_object fields, by decide⟩

theorem opens_writeField (field : RawText × Json) : Opens (writeField field) :=
  ⟨_, _, rfl, by decide⟩

theorem commaSeparated_cons_cons (text next : List Char) (texts : List (List Char)) :
    commaSeparated (text :: next :: texts) = text ++ ',' :: commaSeparated (next :: texts) := by
  rw [commaSeparated, List.intercalate_cons_cons, List.append_assoc, List.singleton_append]
  rfl

theorem commaSeparated_singleton (text : List Char) : commaSeparated [text] = text :=
  List.intercalate_singleton

theorem Opens.commaSeparated {text : List Char} (h : Opens text) (texts : List (List Char)) :
    Opens (commaSeparated (text :: texts)) := by
  cases texts with
  | nil => rwa [commaSeparated_singleton]
  | cons next texts =>
      rw [commaSeparated_cons_cons]
      exact h.append _

/-- Items are read back up to the bracket that closes their array. -/
theorem readItems_write {items : List Json} (hne : items ≠ [])
    (h : ∀ item ∈ items, Writable item ∧ ReadsBack item) (fuel : Nat) {depth : Nat}
    (hfuel : 2 * (commaSeparated (items.map write)).length + 1 ≤ fuel)
    (hdepth : ∀ item ∈ items, item.nesting ≤ depth) (rest : List Char) :
    readItems fuel depth (commaSeparated (items.map write) ++ ']' :: rest) =
      .ok (items.map sorted, rest) := by
  induction items generalizing fuel with
  | nil => contradiction
  | cons item others ih =>
      obtain ⟨⟨-, hitem⟩, hothers⟩ := List.forall_mem_cons.mp h
      obtain ⟨hnesting, hdepth⟩ := List.forall_mem_cons.mp hdepth
      obtain ⟨fuel, rfl⟩ : ∃ n, fuel = n + 1 := ⟨fuel - 1, by omega⟩
      cases others with
      | nil =>
          rw [List.map_singleton, commaSeparated_singleton] at hfuel ⊢
          have hread := hitem fuel depth (']' :: rest) (by omega) hnesting (by simp [Delimited])
          rw [readItems, hread]
          rfl
      | cons next others =>
          rw [List.map_cons, List.map_cons, commaSeparated_cons_cons, ← List.map_cons] at hfuel ⊢
          rw [List.length_append, List.length_cons] at hfuel
          -- The comma leaves steps for the items behind it.
          have hrest := ih (List.cons_ne_nil next others) hothers fuel (by omega) hdepth
          have hread := hitem fuel depth
            (',' :: (commaSeparated ((next :: others).map write) ++ ']' :: rest)) (by omega)
            hnesting (by simp [Delimited])
          have hspace := (((hothers next List.mem_cons_self).1.opens.commaSeparated
            (others.map write)).append (']' :: rest)).skipSpace
          rw [List.append_assoc, List.cons_append, readItems, hread]
          change (readItems fuel depth (skipSpace _) >>= fun found =>
            pure (item.sorted :: found.1, found.2)) = _
          rw [List.map_cons, hspace, ← List.map_cons, hrest]
          rfl

theorem length_write_le_writeField (field : RawText × Json) :
    (write field.2).length ≤ (writeField field).length := by
  rw [writeField, fieldText, List.length_append, List.length_cons]
  exact Nat.le_add_left_of_le (Nat.le_succ _)

/-- One field is read back; what stands behind it decides how the reader goes on. -/
theorem readFields_writeField {field : RawText × Json} (hname : field.1.isEncodable = true)
    (h : Writable field.2 ∧ ReadsBack field.2) {fuel depth : Nat}
    (hfuel : 2 * (write field.2).length ≤ fuel) (hdepth : field.2.nesting ≤ depth)
    (rest : List Char) :
    readFields (fuel + 1) depth (writeField field ++ '\x7d' :: rest) =
        .ok ([(field.1, field.2.sorted)], rest) ∧
      readFields (fuel + 1) depth (writeField field ++ ',' :: rest) =
        (readFields fuel depth (skipSpace rest)).map fun (fields, rest) =>
          ((field.1, field.2.sorted) :: fields, rest) := by
  have htext (rest : List Char) : writeField field ++ rest =
      '\x22' :: (field.1.points.flatMap escapePoint ++
        '\x22' :: ':' :: (write field.2 ++ rest)) := by
    simp [writeField, fieldText, writeString]
  have hcolon (cs : List Char) : skipSpace (':' :: cs) = ':' :: cs := skipSpace_cons (by decide) cs
  have hspace (rest : List Char) := (h.1.opens.append rest).skipSpace
  have hread (rest : List Char) := h.2 fuel depth rest hfuel hdepth
  constructor
  · rw [htext, readFields, readString_flatMap hname]
    simp only [bind, Except.bind, hcolon, hspace, hread ('\x7d' :: rest) (by simp [Delimited])]
    rfl
  · rw [htext, readFields, readString_flatMap hname]
    simp only [bind, Except.bind, hcolon, hspace, hread (',' :: rest) (by simp [Delimited])]
    change (readFields fuel depth (skipSpace rest) >>= fun found => _) = _
    cases readFields fuel depth (skipSpace rest) <;> rfl

/-- Fields are read back up to the brace that closes their object. -/
theorem readFields_write {fields : List (RawText × Json)} (hne : fields ≠ [])
    (hnames : ∀ field ∈ fields, field.1.isEncodable = true)
    (h : ∀ field ∈ fields, Writable field.2 ∧ ReadsBack field.2) (fuel : Nat) {depth : Nat}
    (hfuel : 2 * (commaSeparated (fields.map writeField)).length + 1 ≤ fuel)
    (hdepth : ∀ field ∈ fields, field.2.nesting ≤ depth) (rest : List Char) :
    readFields fuel depth (commaSeparated (fields.map writeField) ++ '\x7d' :: rest) =
      .ok (fields.map fun field => (field.1, field.2.sorted), rest) := by
  induction fields generalizing fuel with
  | nil => contradiction
  | cons field others ih =>
      obtain ⟨hname, hnames⟩ := List.forall_mem_cons.mp hnames
      obtain ⟨hfield, hothers⟩ := List.forall_mem_cons.mp h
      obtain ⟨hnesting, hdepth⟩ := List.forall_mem_cons.mp hdepth
      obtain ⟨fuel, rfl⟩ : ∃ n, fuel = n + 1 := ⟨fuel - 1, by omega⟩
      have hlength := length_write_le_writeField field
      cases others with
      | nil =>
          rw [List.map_singleton, commaSeparated_singleton] at hfuel ⊢
          exact (readFields_writeField hname hfield (by omega) hnesting rest).1
      | cons next others =>
          rw [List.map_cons, List.map_cons, commaSeparated_cons_cons, ← List.map_cons] at hfuel ⊢
          rw [List.length_append, List.length_cons] at hfuel
          have hrest := ih (List.cons_ne_nil next others) hnames hothers fuel (by omega) hdepth
          have hspace := (((opens_writeField next).commaSeparated
            (others.map writeField)).append ('\x7d' :: rest)).skipSpace
          rw [List.append_assoc, List.cons_append,
            (readFields_writeField hname hfield (by omega) hnesting _).2, List.map_cons, hspace,
            ← List.map_cons, hrest]
          rfl

/-- A value is read back if it is read back with at least one step to go. -/
theorem readsBack_of_succ {json : Json} (hne : write json ≠ [])
    (h : ∀ fuel depth rest, 2 * (write json).length ≤ fuel + 1 → json.nesting ≤ depth →
      Delimited rest → readValue (fuel + 1) depth (write json ++ rest) = .ok (json.sorted, rest)) :
    ReadsBack json := by
  intro fuel depth rest hfuel hdepth hrest
  have hlength := List.length_pos_iff.mpr hne
  obtain ⟨fuel, rfl⟩ : ∃ n, fuel = n + 1 := ⟨fuel - 1, by omega⟩
  exact h fuel depth rest hfuel hdepth hrest

theorem readValue_array (fuel depth : Nat) {cs : List Char} (h : Opens cs) :
    readValue (fuel + 1) (depth + 1) ('[' :: cs) =
      (readItems fuel depth cs).map fun (items, rest) => (.array items, rest) := by
  rw [readValue, h.skipSpace]
  split
  next rest => exact absurd rfl (h.ne_bracket rest)
  next => rfl

theorem readValue_object (fuel depth : Nat) {cs : List Char} (h : Opens cs) :
    readValue (fuel + 1) (depth + 1) ('\x7b' :: cs) =
      (readFields fuel depth cs).map fun (fields, rest) =>
        (.object (Dictionary.ofList fields), rest) := by
  rw [readValue, h.skipSpace]
  split
  next rest => exact absurd rfl (h.ne_brace rest)
  next => rfl

theorem readsBack_array {items : List Json} (h : ∀ item ∈ items, Writable item ∧ ReadsBack item) :
    ReadsBack (.array items) := by
  refine readsBack_of_succ (by rw [write_array]; exact List.cons_ne_nil _ _) ?_
  intro fuel depth rest hfuel hdepth hrest
  rw [nesting] at hdepth
  obtain ⟨depth, rfl⟩ := Nat.exists_eq_add_of_le' (Nat.le_of_add_left_le hdepth)
  rw [write_array] at hfuel ⊢
  rw [List.length_append, List.length_cons, List.length_singleton] at hfuel
  rw [sorted_array, List.append_assoc, List.cons_append, List.singleton_append]
  cases items with
  | nil => rfl
  | cons item others =>
      have hopens := (h item List.mem_cons_self).1.opens.commaSeparated (others.map write)
      have hread := readItems_write (List.cons_ne_nil item others) h fuel (by omega)
        (itemsNesting_le_iff.mp (Nat.le_of_succ_le_succ hdepth)) rest
      rw [List.map_cons, readValue_array fuel depth (hopens.append _), ← List.map_cons, hread]
      rfl

theorem readsBack_object {fields : List (RawText × Json)} (hnodup : (fields.map Prod.fst).Nodup)
    (hnames : ∀ field ∈ fields, field.1.isEncodable = true)
    (h : ∀ field ∈ fields, Writable field.2 ∧ ReadsBack field.2) : ReadsBack (.object fields) := by
  refine readsBack_of_succ (by rw [write_object]; exact List.cons_ne_nil _ _) ?_
  intro fuel depth rest hfuel hdepth hrest
  rw [nesting] at hdepth
  obtain ⟨depth, rfl⟩ := Nat.exists_eq_add_of_le' (Nat.le_of_add_left_le hdepth)
  have hperm := byName_perm fields
  -- The text holds the fields by name, so they are read in this order.
  have hdict : Dictionary.ofList ((byName fields).map fun field => (field.1, field.2.sorted)) =
      (byName fields).map fun field => (field.1, field.2.sorted) := by
    refine Dictionary.ofList_of_nodup ?_
    rw [List.map_map]
    exact (hperm.map Prod.fst).nodup_iff.mpr hnodup
  rw [write_object] at hfuel ⊢
  rw [List.length_append, List.length_cons, List.length_singleton] at hfuel
  rw [sorted_object, List.append_assoc, List.cons_append, List.singleton_append, ← hdict]
  cases hfields : byName fields with
  | nil => rfl
  | cons field others =>
      have hopens := (opens_writeField field).commaSeparated (others.map writeField)
      have hread := readFields_write (hfields ▸ List.cons_ne_nil field others)
        (fun field hmem => hnames field (hperm.mem_iff.mp hmem))
        (fun field hmem => h field (hperm.mem_iff.mp hmem)) fuel (by omega)
        (fun field hmem => fieldsNesting_le_iff.mp (Nat.le_of_succ_le_succ hdepth) field
          (hperm.mem_iff.mp hmem)) rest
      rw [hfields] at hread
      rw [List.map_cons, readValue_object fuel depth (hopens.append _), ← List.map_cons, hread]
      rfl

/-- The text of a value is read back as the value with its fields in order. -/
theorem Writable.readsBack {json : Json} (h : Writable json) : ReadsBack json := by
  induction h with
  | null => exact readsBack_of_succ (List.cons_ne_nil _ _) fun _ _ _ _ _ _ => rfl
  | bool value =>
      cases value with
      | false => exact readsBack_of_succ (List.cons_ne_nil _ _) fun _ _ _ _ _ _ => rfl
      | true => exact readsBack_of_succ (List.cons_ne_nil _ _) fun _ _ _ _ _ _ => rfl
  | int n h =>
      refine readsBack_of_succ (Writable.int n h).opens.ne_nil fun fuel depth rest _ _ hrest => ?_
      rw [write, readValue_signedDecimal, readNumber_signedDecimal h hrest]
      rfl
  | string s h =>
      refine readsBack_of_succ (List.cons_ne_nil _ _) fun fuel depth rest _ _ _ => ?_
      rw [write, writeString, List.append_assoc, List.cons_append, readValue,
        List.singleton_append, readString_flatMap h]
      rfl
  | array items h ih => exact readsBack_array fun item hmem => ⟨h item hmem, ih item hmem⟩
  | object fields hnodup hnames h ih =>
      exact readsBack_object hnodup hnames fun field hmem => ⟨h field hmem, ih field hmem⟩

/-- A value that can be read back is what its text is read as, up to the order of fields. -/
theorem Writable.read_render {json : Json} (h : Writable json) {depth : Nat}
    (hdepth : json.nesting ≤ depth) : read depth json.render = .ok json.sorted := by
  have hread := h.readsBack (2 * (write json).length + 2) depth [] (by omega) hdepth
    (by simp [Delimited])
  rw [List.append_nil] at hread
  rw [read, render, String.toList_ofList, h.opens.skipSpace, hread]
  rfl

theorem anyLongNumber_eq_false_iff {items : List Json} :
    anyLongNumber items = false ↔ ∀ item ∈ items, item.hasLongNumber = false := by
  induction items with
  | nil => simp [anyLongNumber]
  | cons item rest ih => rw [anyLongNumber, Bool.or_eq_false_iff, ih, List.forall_mem_cons]

theorem anyLongField_eq_false_iff {fields : List (RawText × Json)} :
    anyLongField fields = false ↔ ∀ field ∈ fields, field.2.hasLongNumber = false := by
  induction fields with
  | nil => simp [anyLongField]
  | cons field rest ih => rw [anyLongField, Bool.or_eq_false_iff, ih, List.forall_mem_cons]

/-- A value is written unless an integer in it is too long. -/
theorem encode_eq_ok_iff {json : Json} {text : String} :
    json.encode = .ok text ↔ json.hasLongNumber = false ∧ text = json.render := by
  rw [encode]
  cases json.hasLongNumber <;> simp [eq_comm]

theorem Writable.hasLongNumber_eq_false {json : Json} (h : Writable json) :
    json.hasLongNumber = false := by
  induction h with
  | int n h => exact h
  | array items h ih => exact anyLongNumber_eq_false_iff.mpr ih
  | object fields hnodup hnames h ih => exact anyLongField_eq_false_iff.mpr ih
  | _ => rfl

theorem mem_commaSeparated {texts : List (List Char)} {c : Char} (h : c ∈ commaSeparated texts) :
    c = ',' ∨ ∃ text ∈ texts, c ∈ text := by
  induction texts with
  | nil => simp [commaSeparated] at h
  | cons text texts ih =>
      cases texts with
      | nil =>
          rw [commaSeparated_singleton] at h
          exact Or.inr ⟨text, List.mem_cons_self, h⟩
      | cons next texts =>
          rw [commaSeparated_cons_cons, List.mem_append, List.mem_cons] at h
          rcases h with h | rfl | h
          · exact Or.inr ⟨text, List.mem_cons_self, h⟩
          · exact Or.inl rfl
          · exact (ih h).imp_right fun ⟨text, hmem, hc⟩ => ⟨text, List.mem_cons_of_mem _ hmem, hc⟩

theorem isPlain_of_mem_commaSeparated {texts : List (List Char)}
    (h : ∀ text ∈ texts, ∀ c ∈ text, IsPlain c) : ∀ c ∈ commaSeparated texts, IsPlain c := by
  intro c hc
  rcases mem_commaSeparated hc with rfl | ⟨text, hmem, hc⟩
  · decide
  · exact h text hmem c hc

theorem isPlain_writeFloat (x : Binary64) : ∀ c ∈ writeFloat x, IsPlain c := by
  unfold writeFloat
  split
  case h_4 => exact Binary64.isPlain_text _
  all_goals exact isPlain_of_all (by decide)

/-- The text of any value is one line of ASCII that can be printed. -/
theorem isPlain_write (json : Json) : ∀ c ∈ write json, IsPlain c := by
  induction json using induction_on with
  | null => exact isPlain_of_all (by decide)
  | bool value => cases value <;> exact isPlain_of_all (by decide)
  | int value => exact fun _ => isPlain_of_mem_signedDecimal
  | float value => exact isPlain_writeFloat value
  | string value => exact fun _ => isPlain_of_mem_writeString
  | array items ih =>
      rw [write_array, List.cons_append, List.forall_mem_cons, List.forall_mem_append,
        List.forall_mem_singleton]
      exact ⟨by decide, isPlain_of_mem_commaSeparated (List.forall_mem_map.mpr ih), by decide⟩
  | object fields ih =>
      rw [write_object, List.cons_append, List.forall_mem_cons, List.forall_mem_append,
        List.forall_mem_singleton]
      refine ⟨by decide, isPlain_of_mem_commaSeparated ?_, by decide⟩
      rw [List.forall_mem_map]
      intro field hmem
      rw [writeField, fieldText, List.forall_mem_append, List.forall_mem_cons]
      exact ⟨fun c => isPlain_of_mem_writeString, by decide,
        ih field ((byName_perm fields).mem_iff.mp hmem)⟩

end ScanAccess.Json
