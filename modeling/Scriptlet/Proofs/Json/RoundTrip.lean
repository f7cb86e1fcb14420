import Scriptlet.Proofs.Json.Scalar

/-! # Documents read back

The text of a document reads as the data that it was written for, if no integer in it has more
digits than are read and no object has a key twice.

Main definitions:

* `IsReadable`: data that a document can hold.

Main statements:

* `read_write`: readable data reads back from its text.
* `return_not_mem_write`: no line of a text ends in a carriage return. -/

namespace Scriptlet.Json

mutual

/-- Data that a document can hold: integers are not too long, and no object has a key twice. -/
def IsReadable : Json → Prop
  | integer value => value.natAbs < 10 ^ Decimal.digitLimit
  | array items => AreReadable items
  | object entries => (entries.map Prod.fst).Nodup ∧ HaveReadable entries
  | null | boolean _ | float _ | string _ => True

/-- Items of an array that a document can hold. -/
def AreReadable : List Json → Prop
  | [] => True
  | item :: items => item.IsReadable ∧ AreReadable items

/-- Entries of an object whose values a document can hold. -/
def HaveReadable : List (String × Json) → Prop
  | [] => True
  | (_, value) :: entries => value.IsReadable ∧ HaveReadable entries

end

/-! ## Space -/

/-- Nothing is skipped in front of a character that is no space. -/
theorem skipSpace_of_not_space {first : Char} (not_space : isSpace first = false)
    (text : List Char) : skipSpace (first :: text) = first :: text := by
  rw [skipSpace, List.dropWhile_cons_of_neg (by simp [not_space])]

/-- The line break before an item is skipped. -/
theorem skipSpace_lineBreak (level : ℕ) {first : Char} (not_space : isSpace first = false)
    (text : List Char) : skipSpace (lineBreak level ++ first :: text) = first :: text := by
  have spaces : ∀ character ∈ lineBreak level, isSpace character := by
    intro character mem
    rcases List.mem_cons.mp mem with rfl | mem
    · rfl
    · rw [List.eq_of_mem_replicate mem]
      rfl
  rw [skipSpace, List.dropWhile_append_of_pos spaces,
    List.dropWhile_cons_of_neg (by simp [not_space])]

/-- What starts a scalar is no space. -/
theorem IsFront.not_space {first : Char} (isFront : IsFront first) : isSpace first = false := by
  simp [isSpace, isFront.ne]

/-- The text of data starts with no space and does not look like the end of an array. -/
theorem writeAt_front (level : ℕ) (json : Json) :
    ∃ first text, writeAt level json = first :: text ∧ isSpace first = false ∧ first ≠ ']' := by
  have of_isFront {written : List Char} :
      (∃ first text, written = first :: text ∧ IsFront first) →
        ∃ first text, written = first :: text ∧ isSpace first = false ∧ first ≠ ']' := by
    rintro ⟨first, text, written_eq, isFront⟩
    exact ⟨first, text, written_eq, isFront.not_space, isFront.ne (by decide)⟩
  -- An array and an object start with their brackets, whether anything is inside or not.
  have of_bracket (opening closing : Char) (items : List (List Char)) :
      ∃ text, bracket opening closing level items = opening :: text := by
    unfold bracket
    split_ifs
    · exact ⟨_, rfl⟩
    · exact ⟨_, rfl⟩
  cases json with
  | null => exact ⟨'n', _, rfl, by decide, by decide⟩
  | boolean value =>
    cases value with
    | false => exact ⟨'f', _, rfl, by decide, by decide⟩
    | true => exact ⟨'t', _, rfl, by decide, by decide⟩
  | integer value => exact of_isFront (isFront_integer value)
  | float value => exact of_isFront (isFront_float value)
  | string value => exact ⟨'"', _, rfl, by decide, by decide⟩
  | array items =>
    obtain ⟨text, text_eq⟩ := of_bracket '[' ']' (writeItems (level + 1) items)
    exact ⟨'[', text, text_eq, by decide, by decide⟩
  | object entries =>
    obtain ⟨text, text_eq⟩ := of_bracket '\x7b' '\x7d' (writeEntries (level + 1) entries)
    exact ⟨'\x7b', text, text_eq, by decide, by decide⟩

/-! ## Parts of documents -/

/-- What starts a scalar is read as one. -/
theorem readValue_scalar {first : Char} (isFront : IsFront first) (fuel : ℕ) (text : List Char) :
    readValue (fuel + 1) (first :: text) = readScalar (first :: text) := by
  have quote : first ≠ '"' := isFront.ne (by decide)
  have bracket : first ≠ '[' := isFront.ne (by decide)
  have brace : first ≠ '\x7b' := isFront.ne (by decide)
  rw [readValue]
  · intro more front
    exact quote (List.cons.inj front).1
  · intro more front
    exact bracket (List.cons.inj front).1
  · intro more front
    exact brace (List.cons.inj front).1

/-- A text in quotes, with what follows it. -/
theorem writeString_append (text : String) (rest : List Char) :
    writeString text ++ rest = '"' :: (text.toList.flatMap escape ++ '"' :: rest) := by
  simp [writeString]

/-- No character is lost where a text is escaped. -/
theorem length_le_flatMap_escape (text : List Char) :
    text.length ≤ (text.flatMap escape).length := by
  induction text with
  | nil => rfl
  | cons character text ih =>
    have : 0 < (escape character).length := by
      unfold escape
      split
      iterate 7
        · decide
      · split_ifs
        · exact Nat.zero_lt_succ _
        · exact Nat.zero_lt_one
    rw [List.flatMap_cons, List.length_append, List.length_cons]
    omega

/-- The quotes make a text longer. -/
theorem length_lt_writeString (text : String) :
    text.toList.length < (writeString text).length := by
  have := length_le_flatMap_escape text.toList
  simp only [writeString, List.length_cons, List.length_append]
  omega

/-- A text in quotes is read back. -/
theorem readValue_string {fuel : ℕ} (text : String) (rest : List Char)
    (enough : (writeString text).length < fuel) :
    readValue fuel (writeString text ++ rest) = .ok (.string text, rest) := by
  obtain ⟨fuel, rfl⟩ := Nat.exists_eq_add_one_of_ne_zero (Nat.ne_zero_of_lt enough)
  have length_lt := length_lt_writeString text
  rw [writeString_append, readValue, readString_flatMap (by omega)]
  simp only [bind, Except.bind, String.ofList_toList]
  rfl

/-- An array with an item is read item by item. -/
theorem readValue_items {fuel : ℕ} {text more : List Char} {first : Char}
    (front : skipSpace text = first :: more) (ne : first ≠ ']') :
    readValue (fuel + 1) ('[' :: text) = do
      let (items, rest) ← readItems fuel (first :: more)
      return (.array items, rest) := by
  simp only [readValue, front]
  split
  · simp_all
  · rfl

/-- An object with an entry is read entry by entry. -/
theorem readValue_entries {fuel : ℕ} {text more : List Char}
    (front : skipSpace text = '"' :: more) :
    readValue (fuel + 1) ('\x7b' :: text) = do
      let (entries, rest) ← readEntries fuel [] ('"' :: more)
      return (.object entries, rest) := by
  simp only [readValue, front]
  split
  · simp_all
  · rfl

/-- An entry with a new key comes last. -/
theorem insert_of_fresh {key : String} {value : Json} {entries : List (String × Json)}
    (fresh : key ∉ entries.map Prod.fst) :
    insert key value entries = entries ++ [(key, value)] := by
  induction entries with
  | nil => rfl
  | cons entry entries ih =>
    simp only [List.map_cons, List.mem_cons, not_or] at fresh
    rw [insert, if_neg (Ne.symm fresh.1), ih fresh.2, List.cons_append]

section Steps

variable {fuel : ℕ} {text after more rest : List Char} {item : Json}

/-- The last item of an array is read up to the bracket. -/
theorem readItems_last (read : readValue fuel text = .ok (item, after))
    (closes : skipSpace after = ']' :: rest) : readItems (fuel + 1) text = .ok ([item], rest) := by
  simp only [readItems, read, bind, Except.bind, closes]

/-- Any other item is read up to its comma, and then those after it. -/
theorem readItems_more {items : List Json} (read : readValue fuel text = .ok (item, after))
    (continues : skipSpace after = ',' :: more)
    (reads : readItems fuel (skipSpace more) = .ok (items, rest)) :
    readItems (fuel + 1) text = .ok (item :: items, rest) := by
  simp only [readItems, read, bind, Except.bind, continues, reads]
  rfl

/-- An entry reads up to what follows its value. -/
theorem readEntries_step {key : String} (before : List (String × Json))
    (enough : (writeString key).length < fuel)
    (read : readValue fuel text = .ok (item, after)) (first : skipSpace text = text)
    (fresh : key ∉ before.map Prod.fst) :
    readEntries (fuel + 1) before (writeString key ++ ':' :: ' ' :: text) =
      match skipSpace after with
      | ',' :: rest => readEntries fuel (before ++ [(key, item)]) (skipSpace rest)
      | '\x7d' :: rest => .ok (before ++ [(key, item)], rest)
      | _ => .error .malformed := by
  have skip : skipSpace (' ' :: text) = text := by
    rw [skipSpace, List.dropWhile_cons_of_pos rfl]
    exact first
  have colon (rest : List Char) : skipSpace (':' :: rest) = ':' :: rest :=
    skipSpace_of_not_space (by decide) rest
  have length_lt := length_lt_writeString key
  rw [writeString_append, readEntries, readString_flatMap (by omega)]
  simp only [bind, Except.bind, colon, String.ofList_toList, skip, read]
  exact insert_of_fresh fresh ▸ rfl

end Steps

/-! ## Reading back -/

/-- The items of an array or the entries of an object as they stand in a text, up to what follows
them. -/
def joined (level : ℕ) (items : List (List Char)) : List Char :=
  (',' :: lineBreak level).intercalate items

/-- One item stands by itself. -/
theorem joined_singleton (level : ℕ) (item : List Char) : joined level [item] = item :=
  List.intercalate_singleton

/-- Between two items are a comma and a line break. -/
theorem joined_cons_cons (level : ℕ) (item next : List Char) (items : List (List Char)) :
    joined level (item :: next :: items) =
      item ++ ',' :: (lineBreak level ++ joined level (next :: items)) := by
  rw [joined, List.intercalate_cons_cons, List.append_assoc]
  rfl

/-- Items start as the first of them does. -/
theorem joined_front (level : ℕ) (first : Char) (text : List Char) (items : List (List Char)) :
    ∃ more, joined level ((first :: text) :: items) = first :: more := by
  cases items with
  | nil => exact ⟨text, joined_singleton level _⟩
  | cons next items => exact ⟨_, joined_cons_cons level _ next items⟩

/-- The text of an array starts with its first item and a comma. -/
theorem joined_writeItems (level : ℕ) (item next : Json) (items : List Json) :
    joined level (writeItems level (item :: next :: items)) =
      writeAt level item ++
        ',' :: (lineBreak level ++ joined level (writeItems level (next :: items))) := by
  rw [writeItems, writeItems, joined_cons_cons]

/-- The text of an array with an item starts neither with a space nor with the end of the array. -/
theorem joined_writeItems_front (level : ℕ) (item : Json) (items : List Json) :
    ∃ first text, joined level (writeItems level (item :: items)) = first :: text ∧
      isSpace first = false ∧ first ≠ ']' := by
  obtain ⟨first, text, written, front⟩ := writeAt_front level item
  obtain ⟨more, joined_eq⟩ := joined_front level first text (writeItems level items)
  exact ⟨first, more, by rw [writeItems, written, joined_eq], front⟩

/-- The text of an object starts with its first key, its value and a comma. -/
theorem joined_writeEntries (level : ℕ) (key : String) (value : Json) (next : String × Json)
    (entries : List (String × Json)) :
    joined level (writeEntries level ((key, value) :: next :: entries)) =
      writeString key ++ ':' :: ' ' :: writeAt level value ++
        ',' :: (lineBreak level ++ joined level (writeEntries level (next :: entries))) := by
  rw [writeEntries, writeEntries, joined_cons_cons]

/-- The text of an object with an entry starts with a quote. -/
theorem joined_writeEntries_front (level : ℕ) (entry : String × Json)
    (entries : List (String × Json)) :
    ∃ text, joined level (writeEntries level (entry :: entries)) = '"' :: text := by
  rw [writeEntries, writeString_append]
  exact joined_front level '"' _ _

/-- Data reads back from its text, whatever follows. -/
def ReadsBack (json : Json) : Prop :=
  ∀ (level fuel : ℕ) (rest : List Char), (writeAt level json).length < fuel → Detached rest →
    readValue fuel (writeAt level json ++ rest) = .ok (json, rest)

/-- What follows a line break is apart from what is in front of it. -/
theorem detached_lineBreak (level : ℕ) (rest : List Char) :
    Detached (lineBreak level ++ rest) :=
  detached_cons _ (by decide)

/-- A scalar that is read as one reads back. -/
theorem readsBack_of_scalar {json : Json}
    (front : ∀ level, ∃ first text, writeAt level json = first :: text ∧ IsFront first)
    (reads : ∀ level rest, Detached rest →
      readScalar (writeAt level json ++ rest) = .ok (json, rest)) : ReadsBack json := by
  intro level fuel rest enough detached
  obtain ⟨fuel, rfl⟩ := Nat.exists_eq_add_one_of_ne_zero (Nat.ne_zero_of_lt enough)
  obtain ⟨first, text, written, isFront⟩ := front level
  have read := reads level rest detached
  rw [written, List.cons_append] at read ⊢
  rw [readValue_scalar isFront, read]

/-- Items that read back one by one read back together. -/
theorem readItems_joined {items : List Json} (ne : items ≠ [])
    (reads : ∀ item ∈ items, item.ReadsBack) (level outer fuel : ℕ)
    (enough : (joined level (writeItems level items)).length + 1 < fuel) (rest : List Char) :
    readItems fuel (joined level (writeItems level items) ++ (lineBreak outer ++ ']' :: rest)) =
      .ok (items, rest) := by
  induction items generalizing fuel with
  | nil => exact absurd rfl ne
  | cons item items ih =>
    obtain ⟨fuel, rfl⟩ := Nat.exists_eq_add_one_of_ne_zero (Nat.ne_zero_of_lt enough)
    have read := reads item List.mem_cons_self level fuel
    cases items with
    | nil =>
      simp only [writeItems, joined_singleton] at enough ⊢
      exact readItems_last (read _ (by omega) (detached_lineBreak outer _))
        (skipSpace_lineBreak outer (by decide) rest)
    | cons next items =>
      have reads' := ih (by simp) (fun item mem => reads item (List.mem_cons_of_mem _ mem)) fuel
      obtain ⟨first, more, front, not_space, -⟩ := joined_writeItems_front level next items
      rw [joined_writeItems] at enough ⊢
      simp only [List.length_append, List.length_cons] at enough
      rw [front] at enough reads' ⊢
      rw [List.append_assoc, List.cons_append, List.append_assoc]
      refine readItems_more (read _ (by omega) (detached_cons _ (by decide)))
        (skipSpace_of_not_space (by decide) _) ?_
      rw [List.cons_append, skipSpace_lineBreak level not_space]
      exact reads' (by omega)

/-- Entries that read back one by one read back together, after those read before. -/
theorem readEntries_joined {entries : List (String × Json)} (ne : entries ≠ [])
    (reads : ∀ entry ∈ entries, entry.2.ReadsBack) (before : List (String × Json))
    (distinct : ((before ++ entries).map Prod.fst).Nodup) (level outer fuel : ℕ)
    (enough : (joined level (writeEntries level entries)).length + 1 < fuel) (rest : List Char) :
    readEntries fuel before
        (joined level (writeEntries level entries) ++ (lineBreak outer ++ '\x7d' :: rest)) =
      .ok (before ++ entries, rest) := by
  induction entries generalizing fuel before with
  | nil => exact absurd rfl ne
  | cons entry entries ih =>
    obtain ⟨key, value⟩ := entry
    obtain ⟨fuel, rfl⟩ := Nat.exists_eq_add_one_of_ne_zero (Nat.ne_zero_of_lt enough)
    have read : value.ReadsBack := reads (key, value) List.mem_cons_self
    obtain ⟨first, text, written, not_space, -⟩ := writeAt_front level value
    have front (rest : List Char) :
        skipSpace (writeAt level value ++ rest) = writeAt level value ++ rest := by
      rw [written]
      exact skipSpace_of_not_space not_space _
    have fresh : key ∉ before.map Prod.fst := by
      rw [List.map_append, List.nodup_append] at distinct
      intro mem
      exact distinct.2.2 key mem key (by simp) rfl
    -- After the value comes the brace, or a comma and the next key.
    cases entries with
    | nil =>
      simp only [writeEntries, joined_singleton, List.length_append, List.length_cons] at enough ⊢
      simp only [List.append_assoc, List.cons_append]
      rw [readEntries_step before (by omega)
        (read level fuel _ (by omega) (detached_lineBreak outer _)) (front _) fresh,
        skipSpace_lineBreak outer (by decide) rest]
      rfl
    | cons next entries =>
      have reads' := ih (by simp) (fun entry mem => reads entry (List.mem_cons_of_mem _ mem))
        (before ++ [(key, value)]) (by simpa using distinct) fuel
      obtain ⟨more, front'⟩ := joined_writeEntries_front level next entries
      rw [joined_writeEntries] at enough ⊢
      simp only [List.length_append, List.length_cons] at enough
      rw [front'] at enough reads' ⊢
      simp only [List.append_assoc, List.cons_append]
      rw [readEntries_step before (by omega)
        (read level fuel _ (by omega) (detached_cons _ (by decide))) (front _) fresh,
        skipSpace_of_not_space (by decide)]
      show readEntries fuel (before ++ [(key, value)]) (skipSpace (lineBreak level ++ '"' :: _)) = _
      rw [skipSpace_lineBreak level (by decide)]
      simpa using reads' (by omega)

/-- Items between brackets, followed by a text. -/
theorem bracket_append (opening closing : Char) (level : ℕ) {items : List (List Char)}
    (ne : items ≠ []) (rest : List Char) :
    bracket opening closing level items ++ rest =
      opening :: (lineBreak (level + 1) ++ (joined (level + 1) items ++
        (lineBreak level ++ closing :: rest))) := by
  rw [bracket, if_neg (by simpa using ne), joined]
  simp only [List.cons_append, List.append_assoc, List.nil_append]

/-- The brackets make a text longer, which is what reading it inside may use up. -/
theorem length_joined_lt (opening closing : Char) (level : ℕ) {items : List (List Char)}
    (ne : items ≠ []) :
    (joined (level + 1) items).length + 1 < (bracket opening closing level items).length := by
  have length_eq := congrArg List.length (bracket_append opening closing level ne [])
  simp only [List.append_nil, List.length_cons, List.length_append] at length_eq
  omega

/-- An array reads back if its items do. -/
theorem readsBack_array {items : List Json} (reads : ∀ item ∈ items, item.ReadsBack) :
    (array items).ReadsBack := by
  intro level fuel rest enough _
  obtain ⟨fuel, rfl⟩ := Nat.exists_eq_add_one_of_ne_zero (Nat.ne_zero_of_lt enough)
  cases items with
  | nil => rfl
  | cons item items =>
    have ne : writeItems (level + 1) (item :: items) ≠ [] := by simp [writeItems]
    have length_lt := length_joined_lt '[' ']' level ne
    rw [writeAt] at enough ⊢
    have read := readItems_joined (by simp) reads (level + 1) level fuel (by omega) rest
    obtain ⟨first, more, front, not_space, not_end⟩ :=
      joined_writeItems_front (level + 1) item items
    rw [front, List.cons_append] at read
    rw [bracket_append _ _ _ ne, front, List.cons_append,
      readValue_items (skipSpace_lineBreak (level + 1) not_space _) not_end, read]
    rfl

/-- An object reads back if its values do and it has no key twice. -/
theorem readsBack_object {entries : List (String × Json)}
    (reads : ∀ entry ∈ entries, entry.2.ReadsBack) (distinct : (entries.map Prod.fst).Nodup) :
    (object entries).ReadsBack := by
  intro level fuel rest enough _
  obtain ⟨fuel, rfl⟩ := Nat.exists_eq_add_one_of_ne_zero (Nat.ne_zero_of_lt enough)
  cases entries with
  | nil => rfl
  | cons entry entries =>
    have ne : writeEntries (level + 1) (entry :: entries) ≠ [] := by simp [writeEntries]
    have length_lt := length_joined_lt '\x7b' '\x7d' level ne
    rw [writeAt] at enough ⊢
    have read := readEntries_joined (by simp) reads [] distinct (level + 1) level fuel (by omega)
      rest
    obtain ⟨more, front⟩ := joined_writeEntries_front (level + 1) entry entries
    rw [front, List.cons_append] at read
    rw [bracket_append _ _ _ ne, front, List.cons_append,
      readValue_entries (skipSpace_lineBreak (level + 1) (by decide) _), read]
    rfl

mutual

/-- Readable data reads back from its text. -/
theorem IsReadable.readsBack : (json : Json) → json.IsReadable → json.ReadsBack
  | .null, _ => readsBack_of_scalar (fun _ => ⟨'n', _, rfl, Or.inl rfl⟩) fun _ _ _ => rfl
  | .boolean false, _ => readsBack_of_scalar (fun _ => ⟨'f', _, rfl, Or.inl rfl⟩) fun _ _ _ => rfl
  | .boolean true, _ => readsBack_of_scalar (fun _ => ⟨'t', _, rfl, Or.inl rfl⟩) fun _ _ _ => rfl
  | .integer value, small => readsBack_of_scalar (fun _ => isFront_integer value) fun _ _ =>
      readScalar_integer small
  | .float value, _ => readsBack_of_scalar (fun _ => isFront_float value) fun _ _ =>
      readScalar_float value
  | .string value, _ => fun _ _ rest enough _ => readValue_string value rest enough
  | .array items, readable => readsBack_array (AreReadable.readsBack items readable)
  | .object entries, ⟨distinct, readable⟩ =>
      readsBack_object (HaveReadable.readsBack entries readable) distinct

/-- Readable items read back. -/
theorem AreReadable.readsBack :
    (items : List Json) → AreReadable items → ∀ item ∈ items, item.ReadsBack
  | [], _ => nofun
  | item :: items, ⟨readable, readable'⟩ => List.forall_mem_cons.mpr
      ⟨IsReadable.readsBack item readable, AreReadable.readsBack items readable'⟩

/-- Readable entries read back. -/
theorem HaveReadable.readsBack :
    (entries : List (String × Json)) → HaveReadable entries → ∀ entry ∈ entries, entry.2.ReadsBack
  | [], _ => nofun
  | (_, value) :: entries, ⟨readable, readable'⟩ => List.forall_mem_cons.mpr
      ⟨IsReadable.readsBack value readable, HaveReadable.readsBack entries readable'⟩

end

/-- Readable data reads back from the text of its document. -/
theorem read_write {json : Json} (readable : json.IsReadable) : read json.write = .ok json := by
  obtain ⟨first, text, written, not_space, -⟩ := writeAt_front 0 json
  have reads := readable.readsBack json 0 ((writeAt 0 json).length + 1) []
    (Nat.lt_succ_self _) nofun
  rw [List.append_nil] at reads
  have skip : skipSpace (writeAt 0 json) = writeAt 0 json := by
    rw [written]
    exact skipSpace_of_not_space not_space text
  simp only [read, write, String.toList_ofList, skip, reads, bind, Except.bind]
  rfl

/-! ## Line breaks -/

/-- A carriage return in a text is escaped. -/
theorem return_not_mem_writeString (text : String) : '\r' ∉ writeString text := by
  have hexadecimal : ∀ code < 0x20, '\r' ∉ (Text.hexadecimal 4 code).toList := by decide
  have escaped (character : Char) : '\r' ∉ escape character := by
    unfold escape
    split
    iterate 7
      · decide
    · rename_i no_return _ _ _
      split_ifs with control
      · simp [hexadecimal _ control]
      · simpa using Ne.symm no_return
  simp [writeString, escaped]

/-- A carriage return is no digit. -/
theorem return_not_mem_of_isDigit {digits : List Char} (all : ∀ digit ∈ digits, digit.isDigit) :
    '\r' ∉ digits := fun mem => absurd (all '\r' mem) (by decide)

/-- There is none in an integer. -/
theorem return_not_mem_integer (number : ℤ) : '\r' ∉ (toString number).toList := by
  rw [toList_toString, List.mem_append, not_or]
  refine ⟨?_, return_not_mem_of_isDigit fun digit mem =>
    Nat.isDigit_of_mem_toDigits (by norm_num) (by norm_num) mem⟩
  split_ifs <;> decide

/-- There is none in a numeral. -/
theorem return_not_mem_text (numeral : Decimal.Numeral) : '\r' ∉ numeral.text := by
  have digits := return_not_mem_of_isDigit numeral.isDigit
  rw [List.mem_append, not_or] at digits
  have pointed : '\r' ∉ Decimal.Numeral.pointed numeral.fraction := by
    by_cases empty : numeral.fraction = []
    · simp [empty, Decimal.Numeral.pointed]
    · simp [Decimal.Numeral.pointed_of_ne empty, digits.2]
  have marked : '\r' ∉ Decimal.Numeral.marked numeral.mark := by
    cases mark_eq : numeral.mark with
    | none => simp [Decimal.Numeral.marked]
    | some mark =>
      obtain ⟨negative, exponent⟩ := mark
      have := return_not_mem_of_isDigit (numeral.mark_digits negative exponent mark_eq).2
      cases negative <;> simp [Decimal.Numeral.marked, this]
  simp [Decimal.Numeral.text, digits.1, pointed, marked]

/-- There is none in a float. -/
theorem return_not_mem_float (number : Float) :
    '\r' ∉ (Decimal.documentFormat.write number).toList := by
  cases reading : Decimal.read number with
  | nan =>
    simp only [Decimal.Format.write, reading]
    decide
  | infinity negative =>
    simp only [Decimal.Format.write, reading]
    clear reading
    revert negative
    decide
  | finite negative significand exponent =>
    obtain ⟨numeral, text_eq, -⟩ := Decimal.exists_numeral Decimal.documentFormat reading
    rw [text_eq, List.mem_append, not_or]
    refine ⟨?_, return_not_mem_text numeral⟩
    split_ifs <;> decide

/-- There is none in a line break. -/
theorem return_not_mem_lineBreak (level : ℕ) : '\r' ∉ lineBreak level := by
  simp [lineBreak]

/-- There is none among items if there is none in them. -/
theorem return_not_mem_joined (level : ℕ) {items : List (List Char)}
    (none : ∀ item ∈ items, '\r' ∉ item) : '\r' ∉ joined level items := by
  induction items with
  | nil => simp [joined]
  | cons item items ih =>
    cases items with
    | nil => simpa [joined_singleton] using none
    | cons next items =>
      have := ih fun item mem => none item (List.mem_cons_of_mem _ mem)
      simp [joined_cons_cons, return_not_mem_lineBreak, this, none item]

/-- There is none in brackets around such items. -/
theorem return_not_mem_bracket {opening closing : Char} (level : ℕ) {items : List (List Char)}
    (ends : opening ≠ '\r' ∧ closing ≠ '\r') (none : ∀ item ∈ items, '\r' ∉ item) :
    '\r' ∉ bracket opening closing level items := by
  cases items with
  | nil => simp [bracket, ends.1.symm, ends.2.symm]
  | cons item items =>
    have bracket_eq := bracket_append opening closing level (List.cons_ne_nil item items) []
    rw [List.append_nil] at bracket_eq
    rw [bracket_eq]
    simp [return_not_mem_lineBreak, return_not_mem_joined _ none, ends.1.symm, ends.2.symm]

mutual

/-- No carriage return stands in the text of data. -/
theorem return_not_mem_writeAt (level : ℕ) : (json : Json) → '\r' ∉ writeAt level json
  | .null => by simp [writeAt]
  | .boolean value => by cases value <;> simp [writeAt]
  | .integer value => return_not_mem_integer value
  | .float value => return_not_mem_float value
  | .string value => return_not_mem_writeString value
  | .array items =>
    return_not_mem_bracket level (by decide) (return_not_mem_writeItems (level + 1) items)
  | .object entries =>
    return_not_mem_bracket level (by decide) (return_not_mem_writeEntries (level + 1) entries)

/-- There is none in the items of an array. -/
theorem return_not_mem_writeItems (level : ℕ) :
    (items : List Json) → ∀ text ∈ writeItems level items, '\r' ∉ text
  | [] => nofun
  | item :: items => List.forall_mem_cons.mpr
      ⟨return_not_mem_writeAt level item, return_not_mem_writeItems level items⟩

/-- There is none in the entries of an object. -/
theorem return_not_mem_writeEntries (level : ℕ) :
    (entries : List (String × Json)) → ∀ text ∈ writeEntries level entries, '\r' ∉ text
  | [] => nofun
  | (key, value) :: entries => List.forall_mem_cons.mpr
      ⟨by simp [return_not_mem_writeString, return_not_mem_writeAt level value],
        return_not_mem_writeEntries level entries⟩

end

/-- No carriage return stands in the text of a document. -/
theorem return_not_mem_write (json : Json) : '\r' ∉ json.write.toList := by
  rw [write, String.toList_ofList]
  exact return_not_mem_writeAt 0 json

end Scriptlet.Json
